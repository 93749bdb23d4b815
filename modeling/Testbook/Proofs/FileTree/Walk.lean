import Testbook.FileTree.Walk
import Testbook.Proofs.FileTree.Find
import Mathlib.Data.Char
import Mathlib.Data.List.Lex

/-!
What a walk lists: the files of the tree that are not left out themselves and in no directory that
is, each spelled behind the place that the walk started from (`walk_eq`). In a well-formed tree these
are all the files there are (`mem_files`), each once, and they come in order of the names at which
their ways part (`pairwise_files`): depth first, the entries of each directory by name.
-/

namespace Testbook.FileTree

open Testbook.Text

/-- Entries of directories have names, and no two of one directory have the same. -/
inductive WellFormed : FileTree → Prop
  | file (bytes : ByteArray) : WellFormed (file bytes)
  | directory {entries : List (Text × FileTree)} (nodup : (entries.map (·.1)).Nodup)
      (names : ∀ e ∈ entries, Path.IsName e.1) (trees : ∀ e ∈ entries, WellFormed e.2) :
      WellFormed (directory entries)

mutual

/-- The ways to the files of a tree, in the order in which a walk comes to them. -/
def files : FileTree → List (List Text)
  | file _ => [[]]
  | directory entries =>
    ((filesOf entries).mergeSort isBefore).flatMap fun e => e.2.map (e.1 :: ·)

/-- The names of entries, each with the ways to the files from there. -/
def filesOf : List (Text × FileTree) → List (Text × List (List Text))
  | [] => []
  | (name, tree) :: entries => (name, files tree) :: filesOf entries

end

/-- Whether a walk gets to the end of a way: nothing on the way is left out. -/
def isReached (leaveOut : Path → Bool) : Path → List Text → Bool
  | path, [] => !leaveOut path
  | path, name :: names => !leaveOut path && isReached leaveOut (Path.extend path name) names

variable {leaveOut : Path → Bool} {path : Path} {tree : FileTree} {names : List Text}
  {entries : List (Text × FileTree)}

theorem isReached_iff : isReached leaveOut path names = true
    ↔ ∀ front, front <+: names → leaveOut (Path.below path front) = false := by
  induction names generalizing path with
  | nil =>
    rw [isReached, Bool.not_eq_true']
    constructor
    · intro h front hfront
      rw [List.prefix_nil.1 hfront]
      exact h
    · intro h
      exact h [] (List.prefix_rfl)
  | cons name names ih =>
    rw [isReached, Bool.and_eq_true, Bool.not_eq_true', ih]
    constructor
    · rintro ⟨hpath, h⟩ front hfront
      rcases List.prefix_cons_iff.1 hfront with rfl | ⟨rest, rfl, hrest⟩
      · exact hpath
      · exact h rest hrest
    · intro h
      exact ⟨h [] List.nil_prefix, fun front hfront =>
        h (name :: front) (List.cons_prefix_cons.2 ⟨rfl, hfront⟩)⟩

/-! ### Leaving out -/

/-- The files of an entry that a walk gets to, spelled behind the path of its directory. -/
def reachedIn (leaveOut : Path → Bool) (path : Path) (e : Text × List (List Text)) :
    Text × List Path :=
  (e.1, (e.2.filter (isReached leaveOut (Path.extend path e.1))).map
    (Path.below (Path.extend path e.1)))

mutual

/-- A walk lists the files that nothing is left out on the way to. -/
theorem walk_eq (leaveOut : Path → Bool) (path : Path) : (tree : FileTree) →
    tree.walk leaveOut path
      = (tree.files.filter (isReached leaveOut path)).map (Path.below path)
  | file bytes => by
    by_cases h : leaveOut path = true
    · simp [walk, files, isReached, h]
    · simp [walk, files, isReached, h, Path.below]
  | directory entries => by
    have hentries := walkEntries_eq leaveOut path entries
    have hsort : ((filesOf entries).map (reachedIn leaveOut path)).mergeSort isBefore
        = ((filesOf entries).mergeSort isBefore).map (reachedIn leaveOut path) :=
      (List.map_mergeSort (s := isBefore) fun a _ b _ => rfl).symm
    rw [walk, files, hentries, hsort, List.filter_flatMap, List.map_flatMap, List.flatMap_map]
    by_cases h : leaveOut path = true
    · simp [isReached, h]
    · rw [if_neg h]
      refine List.flatMap_congr fun e _ => ?_
      rw [reachedIn, List.filter_map, List.map_map]
      simp [isReached, h, Function.comp_def, Path.below]

theorem walkEntries_eq (leaveOut : Path → Bool) (path : Path) :
    (entries : List (Text × FileTree)) →
      walkEntries leaveOut path entries = (filesOf entries).map (reachedIn leaveOut path)
  | [] => by simp [walkEntries, filesOf]
  | (name, tree) :: entries => by
    rw [walkEntries, filesOf, List.map_cons, walkEntries_eq leaveOut path entries,
      walk_eq leaveOut (Path.extend path name) tree]
    rfl

end

/-! ### All files -/

theorem filesOf_eq (entries : List (Text × FileTree)) :
    filesOf entries = entries.map fun e => (e.1, e.2.files) := by
  induction entries with
  | nil => rw [filesOf, List.map_nil]
  | cons e entries ih => rw [filesOf, ih, List.map_cons]

theorem mem_files_directory : names ∈ (directory entries).files
    ↔ ∃ e ∈ entries, ∃ rest ∈ e.2.files, names = e.1 :: rest := by
  rw [files, filesOf_eq, List.mem_flatMap]
  simp only [List.mem_mergeSort, List.mem_map]
  constructor
  · rintro ⟨-, ⟨e, he, rfl⟩, rest, hrest, rfl⟩
    exact ⟨e, he, rest, hrest, rfl⟩
  · rintro ⟨e, he, rest, hrest, rfl⟩
    exact ⟨_, ⟨e, he, rfl⟩, rest, hrest, rfl⟩

/-- When no two entries have the same name each is found by its name. -/
theorem entryNamed?_eq_some (h : (entries.map (·.1)).Nodup) {name : Text} :
    entryNamed? name entries = some tree ↔ (name, tree) ∈ entries := by
  induction entries with
  | nil => simp [entryNamed?]
  | cons e entries ih =>
    obtain ⟨n, t⟩ := e
    rw [List.map_cons, List.nodup_cons] at h
    rw [entryNamed?, List.mem_cons, Prod.mk.injEq]
    by_cases hn : n = name
    · subst hn
      rw [if_pos rfl, Option.some_inj]
      constructor
      · rintro rfl
        exact .inl ⟨rfl, rfl⟩
      · rintro (⟨-, rfl⟩ | hmem)
        · rfl
        · exact absurd (List.mem_map_of_mem hmem) h.1
    · rw [if_neg hn, ih h.2]
      exact ⟨.inr, fun hmem => hmem.resolve_left fun heq => hn heq.1.symm⟩

/-- The ways of a walk are those to files. -/
theorem mem_files (h : tree.WellFormed) :
    names ∈ tree.files ↔ ∃ bytes, tree.at? names = some (file bytes) := by
  induction h generalizing names with
  | file bytes =>
    cases names with
    | nil => simp [files]
    | cons name names => simp [files]
  | @directory entries nodup _ _ ih =>
    rw [mem_files_directory]
    cases names with
    | nil => simp
    | cons name names =>
      simp only [at?_directory, Option.bind_eq_some_iff, entryNamed?_eq_some nodup]
      constructor
      · rintro ⟨e, he, rest, hrest, heq⟩
        obtain ⟨rfl, rfl⟩ := List.cons.inj heq
        obtain ⟨bytes, hbytes⟩ := (ih e he).1 hrest
        exact ⟨bytes, e.2, he, hbytes⟩
      · rintro ⟨bytes, t, ht, hbytes⟩
        exact ⟨_, ht, names, (ih _ ht).2 ⟨bytes, hbytes⟩, rfl⟩

/-- Sorting what different names stand for puts the names in strict order. -/
theorem pairwise_mergeSort {α : Type} {named : List (Text × α)} (h : (named.map (·.1)).Nodup) :
    (named.mergeSort isBefore).Pairwise fun a b => a.1 < b.1 := by
  have hle : (named.mergeSort isBefore).Pairwise fun a b => isBefore a b = true := by
    refine List.pairwise_mergeSort (fun a b c hab hbc => ?_) (fun a b => ?_) _
    · simp only [isBefore, Bool.not_eq_true', decide_eq_false_iff_not, not_lt] at hab hbc ⊢
      exact hab.trans hbc
    · simp only [isBefore, Bool.or_eq_true, Bool.not_eq_true', decide_eq_false_iff_not, not_lt]
      exact le_total _ _
  have hne : (named.mergeSort isBefore).Pairwise fun a b => a.1 ≠ b.1 := by
    have hperm := (List.mergeSort_perm named isBefore).map (·.1)
    rwa [← List.pairwise_map, ← List.nodup_iff_pairwise_ne, hperm.nodup_iff]
  refine (hle.and hne).imp fun {a b} hab => ?_
  have hnot : ¬ b.1 < a.1 := by simpa [isBefore] using hab.1
  exact lt_of_le_of_ne (not_lt.1 hnot) hab.2

/-- Walks go through the entries of each directory by name, and into each before the next. -/
theorem pairwise_files (h : tree.WellFormed) : tree.files.Pairwise (· < ·) := by
  induction h with
  | file bytes => simp [files]
  | @directory entries nodup _ _ ih =>
    have hnames : ((filesOf entries).map (·.1)).Nodup := by
      rw [filesOf_eq, List.map_map]
      exact nodup
    rw [files, List.pairwise_flatMap]
    constructor
    · intro e he
      rw [List.mem_mergeSort, filesOf_eq, List.mem_map] at he
      obtain ⟨e', he', rfl⟩ := he
      rw [List.pairwise_map]
      exact (ih e' he').imp fun hab => List.cons_lt_cons_iff.2 (.inr ⟨rfl, hab⟩)
    · refine (pairwise_mergeSort hnames).imp fun {a b} hab => ?_
      intro x hx y hy
      obtain ⟨x', -, rfl⟩ := List.mem_map.1 hx
      obtain ⟨y', -, rfl⟩ := List.mem_map.1 hy
      exact List.cons_lt_cons_iff.2 (.inl hab)

theorem WellFormed.isName (h : tree.WellFormed) {found : FileTree} (hat : tree.at? names = some found) :
    ∀ name ∈ names, Path.IsName name := by
  induction names generalizing tree with
  | nil => exact fun name hname => absurd hname List.not_mem_nil
  | cons name names ih =>
    cases h with
    | file bytes => cases hat
    | directory nodup hnames trees =>
      obtain ⟨t, he, hat⟩ := Option.bind_eq_some_iff.1 hat
      have hmem := (entryNamed?_eq_some nodup).1 he
      exact List.forall_mem_cons.2 ⟨hnames _ hmem, ih (trees _ hmem) hat⟩

theorem WellFormed.isName_of_mem_files (h : tree.WellFormed) (hmem : names ∈ tree.files) :
    ∀ name ∈ names, Path.IsName name := by
  obtain ⟨bytes, hat⟩ := (mem_files h).1 hmem
  exact h.isName hat

/-- What is in a well-formed tree is well-formed. -/
theorem WellFormed.at? (h : tree.WellFormed) {found : FileTree} (hat : tree.at? names = some found) :
    found.WellFormed := by
  induction names generalizing tree with
  | nil =>
    rw [at?_nil] at hat
    cases hat
    exact h
  | cons name names ih =>
    cases h with
    | file bytes => cases hat
    | directory nodup hnames trees =>
      obtain ⟨t, he, hat⟩ := Option.bind_eq_some_iff.1 hat
      exact ih (trees _ ((entryNamed?_eq_some nodup).1 he)) hat

end Testbook.FileTree
