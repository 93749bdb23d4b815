import Testbook.Collection.Collect
import Testbook.Proofs.FileTree.Find

/-!
Collecting with a cache. What is kept of packages changes no answer: in any sequence of calls, each
is answered as if it were the first (`replies_eq`). The invariant is `PackageDocs.IsValid`: what is
kept for a directory is what reading its package gives, for every spelling of the directory that
has the same components. One call keeps it, also one that fails, and so do all.
-/

namespace Testbook

open Testbook.Text

variable {files : FileSystem} {docs : PackageDocs} {directory other path : Path}
  {doc : Option Text}

/-! ### Packages -/

theorem isName_initialFile : Path.IsName initialFile := by decide

variable [Python.Recovery]

theorem readModuleAt_eq_ok {module : Python.Module} : readModuleAt files path = .ok module
    ↔ ∃ text, files.read path = .ok text ∧ Python.readModule text = .ok module := by
  rw [readModuleAt]
  cases files.read path with
  | error fault => simp
  | ok text =>
    cases h : Python.readModule text with
    | error e => simp [h]
    | ok m => simp [h]

/-- A directory is a package with documentation if there is an initial file with it. -/
theorem readPackageDoc_eq_ok : readPackageDoc files directory = .ok doc
    ↔ if files.hasFile (Path.extend directory initialFile)
      then ∃ text module, files.read (Path.extend directory initialFile) = .ok text
        ∧ Python.readModule text = .ok module ∧ module.docstring = doc
      else doc = none := by
  rw [readPackageDoc]
  by_cases hfile : files.hasFile (Path.extend directory initialFile) = true
  · rw [if_pos hfile, if_pos hfile]
    cases h : readModuleAt files (Path.extend directory initialFile) with
    | error failure =>
      refine iff_of_false (by simp [Except.map]) ?_
      rintro ⟨text, module, hread, hmodule, -⟩
      rw [readModuleAt_eq_ok.2 ⟨text, hread, hmodule⟩] at h
      cases h
    | ok module =>
      obtain ⟨text, hread, hmodule⟩ := readModuleAt_eq_ok.1 h
      simp [Except.map, hread, hmodule]
  · rw [if_neg hfile, if_neg hfile]
    simp [eq_comm]

/-- A package has the same documentation however its directory is spelled. -/
theorem readPackageDoc_of_steps (hsteps : Path.steps directory = Path.steps other)
    (h : readPackageDoc files directory = .ok doc) : readPackageDoc files other = .ok doc := by
  have hfind : files.find (Path.extend directory initialFile)
      = files.find (Path.extend other initialFile) := by
    rw [FileSystem.find_extend isName_initialFile, FileSystem.find_extend isName_initialFile, hsteps]
  rw [readPackageDoc_eq_ok, FileSystem.hasFile, FileSystem.read, hfind] at h
  rw [readPackageDoc_eq_ok, FileSystem.hasFile, FileSystem.read]
  exact h

/-! ### The cache -/

/-- What is kept is what reading a package gives. -/
def PackageDocs.IsValid (docs : PackageDocs) (files : FileSystem) : Prop :=
  ∀ directory doc, docs.lookup (Path.components directory) = some doc →
    readPackageDoc files directory = .ok doc

theorem isValid_nil (files : FileSystem) : PackageDocs.IsValid [] files := by
  intro directory doc h
  cases h

theorem isValid_cons (h : docs.IsValid files) (hdoc : readPackageDoc files directory = .ok doc) :
    PackageDocs.IsValid ((Path.components directory, doc) :: docs) files := by
  intro other found hlookup
  rw [List.lookup_cons] at hlookup
  by_cases heq : Path.components other = Path.components directory
  · rw [heq, beq_self_eq_true] at hlookup
    cases hlookup
    exact readPackageDoc_of_steps (by rw [Path.steps, Path.steps, heq]) hdoc
  · rw [beq_false_of_ne heq] at hlookup
    exact h other found hlookup

/-- Asking a valid cache gives what reading gives, and leaves it valid. -/
theorem read_of_isValid (h : docs.IsValid files) (directory : Path) :
    (docs.read files directory).1 = readPackageDoc files directory
      ∧ (docs.read files directory).2.IsValid files := by
  rw [PackageDocs.read]
  cases hlookup : docs.lookup (Path.components directory) with
  | some doc => exact ⟨(h directory doc hlookup).symm, h⟩
  | none =>
    cases hread : readPackageDoc files directory with
    | ok doc => exact ⟨rfl, isValid_cons h hread⟩
    | error failure => exact ⟨rfl, h⟩

theorem readSource_of_isValid (h : docs.IsValid files) (path : Path) :
    (readSource files docs path).1 = (readSource files [] path).1
      ∧ (readSource files docs path).2.IsValid files := by
  rw [readSource, readSource]
  cases readModuleAt files path with
  | error failure => exact ⟨rfl, h⟩
  | ok module =>
    cases Path.parent? path with
    | none => exact ⟨rfl, h⟩
    | some directory =>
      obtain ⟨hdoc, hdocs⟩ := read_of_isValid h directory
      obtain ⟨hfresh, -⟩ := read_of_isValid (isValid_nil files) directory
      exact ⟨congrArg (Except.map _) (hdoc.trans hfresh.symm), hdocs⟩

/-- A module that was read has the path that it was read from, and defines what is there. -/
theorem readModuleAt_of_readSource {source : Source}
    (h : (readSource files docs path).1 = .ok source) :
    source.path = path ∧ readModuleAt files path = .ok source.module := by
  rw [readSource] at h
  cases hread : readModuleAt files path with
  | error failure => simp [hread] at h
  | ok module =>
    cases hparent : Path.parent? path with
    | none =>
      simp only [hread, hparent] at h
      cases h
      exact ⟨rfl, rfl⟩
    | some directory =>
      simp only [hread, hparent] at h
      cases hdoc : (docs.read files directory).1 with
      | error failure =>
        rw [hdoc] at h
        cases h
      | ok doc =>
        rw [hdoc] at h
        cases h
        exact ⟨rfl, rfl⟩

theorem path_of_readSource {source : Source}
    (h : (readSource files docs path).1 = .ok source) : source.path = path :=
  (readModuleAt_of_readSource h).1

theorem readSources_of_isValid (h : docs.IsValid files) (paths : List Path) :
    (readSources files docs paths).1 = paths.map (fun path => (path, (readSource files [] path).1))
      ∧ (readSources files docs paths).2.IsValid files := by
  induction paths generalizing docs with
  | nil => exact ⟨rfl, h⟩
  | cons path paths ih =>
    obtain ⟨hsource, hdocs⟩ := readSource_of_isValid h path
    obtain ⟨hsources, hend⟩ := ih hdocs
    rw [readSources]
    exact ⟨by rw [List.map_cons, ← hsource, ← hsources], hend⟩

/-! ### Calls -/

variable (registry : Registry) (options : CollectOptions)

theorem sourcesAt_of_isValid (h : docs.IsValid files) (root : Path) :
    (sourcesAt options files docs root).1
        = (match files.find root with
          | .error _ => .error (.notFound root)
          | .ok place => .ok ((testModules options root place).map fun path =>
              (path, (readSource files [] path).1)))
      ∧ (sourcesAt options files docs root).2.IsValid files := by
  rw [sourcesAt]
  cases files.find root with
  | error fault => exact ⟨rfl, h⟩
  | ok place =>
    obtain ⟨hsources, hend⟩ := readSources_of_isValid h (testModules options root place)
    exact ⟨congrArg Except.ok hsources, hend⟩

theorem collect_of_isValid (h : docs.IsValid files) (root : Path) :
    (collect registry options files docs root).1 = (collect registry options files [] root).1
      ∧ (collect registry options files docs root).2.IsValid files := by
  obtain ⟨hsources, hend⟩ := sourcesAt_of_isValid options h root
  obtain ⟨hfresh, -⟩ := sourcesAt_of_isValid options (isValid_nil files) root
  rw [collect, collect]
  exact ⟨congrArg (Except.map _) (hsources.trans hfresh.symm), hend⟩

theorem collectModule_of_isValid (h : docs.IsValid files) (path : Path) :
    (collectModule registry options files docs path).1
        = (collectModule registry options files [] path).1
      ∧ (collectModule registry options files docs path).2.IsValid files := by
  obtain ⟨hsource, hend⟩ := readSource_of_isValid h path
  rw [collectModule, collectModule]
  exact ⟨congrArg (Except.map _) hsource, hend⟩

/-- What can be asked for. -/
inductive Call where
  | collect (root : Path)
  | collectModule (path : Path)

/-- What can be answered. -/
inductive Reply where
  | collection (result : Except Failure Collection)
  | records (result : Except Failure (List Record))

/-- The answer to a call, and what is known of packages after it. -/
def Call.reply (files : FileSystem) (docs : PackageDocs) : Call → Reply × PackageDocs
  | .collect root =>
    let (result, docs) := Testbook.collect registry options files docs root
    (.collection result, docs)
  | .collectModule path =>
    let (result, docs) := Testbook.collectModule registry options files docs path
    (.records result, docs)

/-- The answers to calls that are made one after the other. -/
def replies (files : FileSystem) : PackageDocs → List Call → List Reply
  | _, [] => []
  | docs, call :: calls =>
    let (reply, docs) := call.reply registry options files docs
    reply :: replies files docs calls

theorem reply_of_isValid (h : docs.IsValid files) (call : Call) :
    (call.reply registry options files docs).1 = (call.reply registry options files []).1
      ∧ (call.reply registry options files docs).2.IsValid files := by
  cases call with
  | collect root =>
    obtain ⟨hresult, hend⟩ := collect_of_isValid registry options h root
    exact ⟨congrArg Reply.collection hresult, hend⟩
  | collectModule path =>
    obtain ⟨hresult, hend⟩ := collectModule_of_isValid registry options h path
    exact ⟨congrArg Reply.records hresult, hend⟩

theorem replies_of_isValid (h : docs.IsValid files) (calls : List Call) :
    replies registry options files docs calls
      = calls.map fun call => (call.reply registry options files []).1 := by
  induction calls generalizing docs with
  | nil => rfl
  | cons call calls ih =>
    obtain ⟨hreply, hend⟩ := reply_of_isValid registry options h call
    rw [replies, List.map_cons, ← hreply]
    exact congrArg _ (ih hend)

/-- However many calls were made before, and however they ended, a call is answered as if it were
the first. -/
theorem replies_eq (files : FileSystem) (calls : List Call) :
    replies registry options files [] calls
      = calls.map fun call => (call.reply registry options files []).1 :=
  replies_of_isValid registry options (isValid_nil files) calls

end Testbook
