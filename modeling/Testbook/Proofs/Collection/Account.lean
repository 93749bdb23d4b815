import Testbook.Proofs.Collection.Cache
import Testbook.Proofs.FileTree.Change
import Testbook.Registry.Builtin
import Mathlib.Data.List.Sort

/-!
What a collection accounts for. Each test module under a directory makes one entry, of its tests or
of what went wrong with it, and nothing else makes one (`collect_account`). An entry is what
collecting the module alone comes to, and that depends on two files: the module and the initial
file of its directory (`outcomeAt_rewrite`).
-/

namespace Testbook

open Testbook.Text

/-- The path by which a collection names a file, from where it starts and the way from there. -/
def entryPath (root : Path) (names : List Text) : Path := Path.normalize (Path.below root names)

/-- A way that collecting from a place takes: to a file whose name says that it holds tests, with
nothing on the way that is to be left out. -/
structure IsTestModuleAt (options : CollectOptions) (root : Path) (place : FileTree)
    (names : List Text) : Prop where
  file : ∃ bytes, place.at? names = some (.file bytes)
  named : names.getLast?.any isTestModule
  reached : ∀ front, front <+: names → options.ignores (Path.below root front) = false

/-- The collection of what the modules came to. -/
def Collection.ofOutcomes (outcomes : List (Path × Except Failure (List Record))) :
    Collection where
  modules := outcomes.filterMap fun (path, outcome) => match outcome with
    | .ok records => some (path, records)
    | .error _ => none
  failures := outcomes.filterMap fun (_, outcome) => match outcome with
    | .ok _ => none
    | .error failure => some failure

/-- What each module came to is one entry, among the tests or among the failures. -/
theorem Collection.length_ofOutcomes (outcomes : List (Path × Except Failure (List Record))) :
    (ofOutcomes outcomes).modules.length + (ofOutcomes outcomes).failures.length
      = outcomes.length := by
  induction outcomes with
  | nil => rfl
  | cons outcome outcomes ih =>
    obtain ⟨path, records | failure⟩ := outcome
    · simp only [ofOutcomes, List.filterMap_cons, List.length_cons] at ih ⊢
      omega
    · simp only [ofOutcomes, List.filterMap_cons, List.length_cons] at ih ⊢
      omega

theorem Collection.mem_records_ofOutcomes {found : List (Path × Except Failure (List Record))}
    {record : Record} (h : record ∈ (ofOutcomes found).records) :
    ∃ outcome ∈ found, ∃ records, outcome.2 = .ok records ∧ record ∈ records := by
  obtain ⟨entry, hentry, hrecord⟩ := List.mem_flatMap.1 h
  obtain ⟨⟨path, records | failure⟩, hmem, hsome⟩ := List.mem_filterMap.1 hentry
  · cases hsome
  · cases hsome
    exact ⟨_, hmem, _, rfl, hrecord⟩

section

variable (registry : Registry) (options : CollectOptions) (files : FileSystem)

/-- What collecting a module alone comes to, under its path. -/
def outcomeAt [Python.Recovery] (path : Path) : Path × Except Failure (List Record) :=
  (path, (collectModule registry options files [] path).1)

/-- What the test modules at and under a path come to. -/
def outcomes [Python.Recovery] (root : Path) : Except Failure (List (Path × Except Failure (List Record))) :=
  match files.find root with
  | .error _ => .error (.notFound root)
  | .ok place => .ok ((testModules options root place).map (outcomeAt registry options files))

/-- A collection is what its modules come to one by one. -/
theorem collect_eq [Python.Recovery] (root : Path) :
    (collect registry options files [] root).1
      = (outcomes registry options files root).map Collection.ofOutcomes := by
  have hsources := (sourcesAt_of_isValid options (isValid_nil files) root).1
  have hcollect : (collect registry options files [] root).1
      = (sourcesAt options files [] root).1.map (.ofSources registry options.base) := rfl
  rw [hcollect, hsources, outcomes]
  cases files.find root with
  | error fault => rfl
  | ok place =>
    refine congrArg Except.ok ?_
    have houtcome (path : Path) : (outcomeAt registry options files path).2
        = (readSource files [] path).1.map (·.records registry options.base) := rfl
    rw [Collection.ofSources, Collection.ofOutcomes, List.filterMap_map, List.filterMap_map,
      List.filterMap_map, List.filterMap_map]
    congr 1
    · refine List.filterMap_congr fun path _ => ?_
      simp only [Function.comp_apply, houtcome]
      cases (readSource files [] path).1 with
      | ok source => rfl
      | error failure => rfl
    · refine List.filterMap_congr fun path _ => ?_
      simp only [Function.comp_apply, houtcome]
      cases (readSource files [] path).1 with
      | ok source => rfl
      | error failure => rfl

end

variable {registry : Registry} {options : CollectOptions} {files : FileSystem} {root : Path}
  {place : FileTree} {names : List Text}

/-- A collection that comes about is that of what there is at its place. -/
theorem place_of_collect [Python.Recovery] {collection : Collection}
    (h : (collect registry options files [] root).1 = .ok collection) :
    ∃ place, files.find root = .ok place
      ∧ collection = .ofOutcomes ((testModules options root place).map
        (outcomeAt registry options files)) := by
  rw [collect_eq, outcomes] at h
  cases hroot : files.find root with
  | error fault =>
    rw [hroot] at h
    cases h
  | ok place =>
    rw [hroot] at h
    cases h
    exact ⟨place, rfl, rfl⟩

/-! ### Which modules -/

theorem isTestPath_below (hnames : ∀ name ∈ names, Path.IsName name) (hne : names ≠ []) :
    isTestPath (Path.below root names) = names.getLast?.any isTestModule := by
  have hlast : Path.fileName? (Path.below root names) = names.getLast? := by
    obtain ⟨front, last, rfl⟩ := (List.eq_nil_or_concat names).resolve_left hne
    rw [Path.fileName?, Path.components_below root hnames]
    simp [Component.name?]
  rw [isTestPath, hlast]

/-- The ways that collecting from a place takes, in their order. -/
def testWays (options : CollectOptions) (root : Path) (place : FileTree) : List (List Text) :=
  place.files.filter fun names =>
    FileTree.isReached options.ignores root names && names.getLast?.any isTestModule

theorem mem_testWays (hwf : place.WellFormed) :
    names ∈ testWays options root place ↔ IsTestModuleAt options root place names := by
  rw [testWays, List.mem_filter, FileTree.mem_files hwf, Bool.and_eq_true, FileTree.isReached_iff]
  constructor
  · rintro ⟨hfile, hreached, hnamed⟩
    exact ⟨hfile, hnamed, hreached⟩
  · rintro ⟨hfile, hnamed, hreached⟩
    exact ⟨hfile, hreached, hnamed⟩

theorem pairwise_testWays (hwf : place.WellFormed) :
    (testWays options root place).Pairwise (· < ·) :=
  (FileTree.pairwise_files hwf).filter _

theorem IsTestModuleAt.ne_nil (h : IsTestModuleAt options root place names) : names ≠ [] := by
  rintro rfl
  exact absurd h.named (by decide)

theorem IsTestModuleAt.isName (hwf : place.WellFormed)
    (h : IsTestModuleAt options root place names) : ∀ name ∈ names, Path.IsName name := by
  obtain ⟨bytes, hat⟩ := h.file
  exact hwf.isName hat

/-- Collecting from a directory comes to the ends of these ways. -/
theorem testModules_directory {entries : List (Text × FileTree)}
    (hwf : (FileTree.directory entries).WellFormed) :
    testModules options root (.directory entries)
      = (testWays options root (.directory entries)).map (entryPath root) := by
  have htest : ∀ names ∈ (FileTree.directory entries).files,
      isTestPath (Path.below root names) = names.getLast?.any isTestModule := by
    intro names hnames
    obtain ⟨bytes, hat⟩ := (FileTree.mem_files hwf).1 hnames
    refine isTestPath_below (hwf.isName hat) ?_
    rintro rfl
    rw [FileTree.at?_nil] at hat
    cases hat
  have hfilter := List.filter_congr (l := (FileTree.directory entries).files)
    (p := fun names => FileTree.isReached options.ignores root names
      && isTestPath (Path.below root names))
    (q := fun names => FileTree.isReached options.ignores root names
      && names.getLast?.any isTestModule) fun names hnames => by rw [htest names hnames]
  rw [testModules, FileTree.walk_eq, List.filter_map, List.filter_filter, List.map_map, testWays,
    ← hfilter]
  refine congrArg (List.map _) (List.filter_congr fun names _ => ?_)
  rw [Bool.and_comm]
  rfl

/-- The way to a test module ends at one that is collected. -/
theorem IsTestModuleAt.mem (hwf : place.WellFormed) (h : IsTestModuleAt options root place names) :
    entryPath root names ∈ testModules options root place := by
  refine List.mem_map_of_mem (List.mem_filter.2 ⟨?_, ?_⟩)
  · rw [FileTree.walk_eq]
    exact List.mem_map_of_mem (List.mem_filter.2
      ⟨(FileTree.mem_files hwf).2 h.file, FileTree.isReached_iff.2 h.reached⟩)
  · rw [isTestPath_below (h.isName hwf) h.ne_nil]
    exact h.named

/-! ### Where their files are -/

theorem components_entryPath (hnames : ∀ name ∈ names, Path.IsName name) (hne : names ≠ []) :
    Path.components (entryPath root names) = Path.steps root ++ names.map .name := by
  rw [entryPath, Path.components_normalize, Path.steps_below root hnames, if_neg]
  obtain ⟨name, rest, rfl⟩ := List.exists_cons_of_ne_nil hne
  simp

/-- No two modules have the same path. -/
theorem nodup_entryPath (hwf : place.WellFormed) :
    ((testWays options root place).map fun names =>
      Path.components (entryPath root names)).Nodup := by
  have hnodup : (testWays options root place).Nodup :=
    (pairwise_testWays hwf).imp fun hlt => ne_of_lt hlt
  refine List.Nodup.map_on (fun names hnames names' hnames' heq => ?_) hnodup
  have h := (mem_testWays hwf).1 hnames
  have h' := (mem_testWays hwf).1 hnames'
  rw [components_entryPath (h.isName hwf) h.ne_nil, components_entryPath (h'.isName hwf) h'.ne_nil,
    List.append_cancel_left_eq] at heq
  exact List.map_injective_iff.2 (fun _ _ => Component.name.inj) heq

theorem wayTo_entryPath (hnames : ∀ name ∈ names, Path.IsName name) :
    files.wayTo (entryPath root names) = files.wayTo root ++ names := by
  rw [entryPath, FileSystem.wayTo_normalize, FileSystem.wayTo_below files root hnames]

/-- A module is in a directory, and the way to that is the way to the module without its name. -/
theorem parent?_entryPath (files : FileSystem) (root : Path)
    (hnames : ∀ name ∈ names, Path.IsName name) (hne : names ≠ []) :
    ∃ directory, Path.parent? (entryPath root names) = some directory
      ∧ files.wayTo (Path.extend directory initialFile)
        = (files.wayTo root ++ names).dropLast ++ [initialFile] := by
  obtain ⟨front, last, rfl⟩ := (List.eq_nil_or_concat names).resolve_left hne
  rw [List.concat_eq_append] at hnames hne ⊢
  have hfront : ∀ name ∈ front, Path.IsName name := fun name hname =>
    hnames name (List.mem_append_left _ hname)
  have hcomponents : Path.components (entryPath root (front ++ [last])) = _ :=
    components_entryPath hnames hne
  rw [List.map_append, ← List.append_assoc] at hcomponents
  obtain ⟨directory, hparent, hdirectory⟩ := Path.components_parent? hcomponents
  refine ⟨directory, hparent, ?_⟩
  have hsteps : Path.steps directory = Path.steps (Path.below root front) := by
    rw [Path.steps_below root hfront, Path.steps, hdirectory, Path.steps, List.filter_append,
      List.filter_filter]
    simp
  have hinitial : ∀ name ∈ [initialFile], Path.IsName name := by simp [isName_initialFile]
  have hway := files.wayTo_below directory hinitial
  have hsame : files.wayTo directory = files.wayTo (Path.below root front) := by
    rw [FileSystem.wayTo, hsteps, FileSystem.wayTo]
  rw [hsame, files.wayTo_below root hfront] at hway
  rw [← List.append_assoc, List.dropLast_concat]
  exact hway

/-! ### Other bytes in a file -/

section

variable {way : List Text} {old : ByteArray}

theorem readModuleAt_rewrite [Python.Recovery] (h : files.root.at? way = some (.file old)) (bytes : ByteArray)
    {path : Path} (hpath : files.wayTo path ≠ way) :
    readModuleAt (files.rewrite way bytes) path = readModuleAt files path := by
  rw [readModuleAt, readModuleAt, FileSystem.read_rewrite h bytes hpath]

theorem readPackageDoc_rewrite [Python.Recovery] (h : files.root.at? way = some (.file old)) (bytes : ByteArray)
    {directory : Path} (hpath : files.wayTo (Path.extend directory initialFile) ≠ way) :
    readPackageDoc (files.rewrite way bytes) directory = readPackageDoc files directory := by
  rw [readPackageDoc, readPackageDoc, FileSystem.hasFile_rewrite h,
    readModuleAt_rewrite h bytes hpath]

/-- What a module comes to stays unless its own bytes change or those of the initial file of its
directory. -/
theorem outcomeAt_rewrite [Python.Recovery] (h : files.root.at? way = some (.file old)) (bytes : ByteArray)
    (hnames : ∀ name ∈ names, Path.IsName name) (hne : names ≠ [])
    (hmodule : files.wayTo root ++ names ≠ way)
    (hpackage : (files.wayTo root ++ names).dropLast ++ [initialFile] ≠ way) :
    outcomeAt registry options (files.rewrite way bytes) (entryPath root names)
      = outcomeAt registry options files (entryPath root names) := by
  obtain ⟨directory, hparent, hway⟩ :=
    parent?_entryPath files root hnames hne
  have hread : readModuleAt (files.rewrite way bytes) (entryPath root names)
      = readModuleAt files (entryPath root names) :=
    readModuleAt_rewrite h bytes (by rwa [wayTo_entryPath hnames])
  have hdoc : readPackageDoc (files.rewrite way bytes) directory
      = readPackageDoc files directory := readPackageDoc_rewrite h bytes (by rwa [hway])
  have hsource : (readSource (files.rewrite way bytes) [] (entryPath root names)).1
      = (readSource files [] (entryPath root names)).1 := by
    rw [readSource, readSource, hread, hparent]
    cases readModuleAt files (entryPath root names) with
    | error failure => rfl
    | ok module =>
      have hfresh := (read_of_isValid (isValid_nil files) directory).1
      have hfresh' := (read_of_isValid (isValid_nil (files.rewrite way bytes)) directory).1
      exact congrArg (Except.map _) (hfresh'.trans (hdoc.trans hfresh.symm))
  rw [outcomeAt, outcomeAt, collectModule, collectModule]
  exact congrArg (fun source => (entryPath root names, Except.map _ source)) hsource

end

/-! ### Collections of directories -/

theorem collect_directory [Python.Recovery] {entries : List (Text × FileTree)}
    (hwf : (FileTree.directory entries).WellFormed)
    (hroot : files.find root = .ok (.directory entries)) :
    (collect registry options files [] root).1
      = .ok (.ofOutcomes ((testWays options root (.directory entries)).map fun names =>
          outcomeAt registry options files (entryPath root names))) := by
  rw [collect_eq, outcomes, hroot]
  change Except.ok _ = _
  rw [testModules_directory hwf, List.map_map]
  rfl

theorem isTestModuleAt_of_sameShape {other : FileTree} (h : FileTree.SameShape place other)
    (hat : IsTestModuleAt options root place names) : IsTestModuleAt options root other names := by
  refine ⟨?_, hat.named, hat.reached⟩
  obtain ⟨bytes, hbytes⟩ := hat.file
  have hkind := h names
  rw [hbytes] at hkind
  cases hother : other.at? names with
  | none => simp [hother] at hkind
  | some found =>
    cases found with
    | file bytes' => exact ⟨bytes', rfl⟩
    | directory entries => simp [hother, FileTree.isFile] at hkind

/-- Trees of the same shape have the same test modules. -/
theorem testWays_of_sameShape {other : FileTree} (h : FileTree.SameShape place other)
    (hwf : place.WellFormed) (hother : other.WellFormed) :
    testWays options root place = testWays options root other := by
  refine (pairwise_testWays hwf).eq_of_mem_iff (pairwise_testWays hother) fun names => ?_
  rw [mem_testWays hwf, mem_testWays hother]
  exact ⟨isTestModuleAt_of_sameShape h, isTestModuleAt_of_sameShape fun names => (h names).symm⟩

theorem collect_rewrite [Python.Recovery] {entries : List (Text × FileTree)} {way : List Text} {old : ByteArray}
    (hwf : files.root.WellFormed) (hroot : files.find root = .ok (.directory entries))
    (h : files.root.at? way = some (.file old)) (bytes : ByteArray) :
    (collect registry options (files.rewrite way bytes) [] root).1
      = .ok (.ofOutcomes ((testWays options root (.directory entries)).map fun names =>
          outcomeAt registry options (files.rewrite way bytes) (entryPath root names))) := by
  have hwf' : (files.rewrite way bytes).root.WellFormed :=
    FileTree.wellFormed_put hwf (.file bytes) (hwf.isName h)
  rcases FileSystem.find_rewrite h bytes root with ⟨place, place', hp, hp', hshape⟩ | ⟨_, hp, -⟩
  · rw [hroot] at hp
    cases hp
    have hkind := hshape []
    cases place' with
    | file bytes' => simp [FileTree.isFile] at hkind
    | directory entries' =>
      have hplace := hwf.at? (FileSystem.at?_wayTo hroot)
      have hplace' := hwf'.at? (FileSystem.at?_wayTo hp')
      rw [collect_directory hplace' hp', testWays_of_sameShape hshape hplace hplace']
  · rw [hroot] at hp
    cases hp

/-- The initial file of a package is no test module. -/
theorem isTestModule_initialFile : isTestModule initialFile = false := by decide

/-- A directory with a test module and an initial file in it, and with a test module further down. -/
def sampleTree : FileTree :=
  ((FileTree.empty.write "tests/test_b.py" .empty).write "tests/api/test_a.py" .empty).write
    "tests/__init__.py" .empty

theorem wellFormed_sampleTree : sampleTree.WellFormed := by
  refine FileTree.wellFormed_write (FileTree.wellFormed_write ?_ _ _) _ _
  exact FileTree.wellFormed_write FileTree.wellFormed_empty _ _

/-- Collecting from a directory comes to each test module under it that is not left out, once, depth
first and by name in each directory. Each makes the entry that it makes alone, under its own path,
and other bytes in a test module or an initial file change no other entries than that of the module
or those of the modules in the same directory. -/
theorem collect_account [Python.Recovery] {entries : List (Text × FileTree)} (hwf : files.root.WellFormed)
    (hroot : files.find root = .ok (.directory entries)) :
    ∃ ways : List (List Text),
      (∀ names, names ∈ ways ↔ IsTestModuleAt options root (.directory entries) names)
      ∧ ways.Pairwise (· < ·)
      ∧ (ways.map fun names => Path.components (entryPath root names)).Nodup
      ∧ (∀ names ∈ ways, ∃ bytes, (FileTree.directory entries).at? names = some (.file bytes)
        ∧ files.find (entryPath root names) = .ok (.file bytes))
      ∧ (collect registry options files [] root).1 = .ok (.ofOutcomes (ways.map fun names =>
          outcomeAt registry options files (entryPath root names)))
      ∧ ∀ way old bytes, files.root.at? way = some (.file old) →
        (collect registry options (files.rewrite way bytes) [] root).1
            = .ok (.ofOutcomes (ways.map fun names =>
                outcomeAt registry options (files.rewrite way bytes) (entryPath root names)))
          ∧ (way.getLast?.any isTestModule → ∀ names ∈ ways, files.wayTo root ++ names ≠ way →
            outcomeAt registry options (files.rewrite way bytes) (entryPath root names)
              = outcomeAt registry options files (entryPath root names))
          ∧ (way.getLast? = some initialFile → ∀ names ∈ ways,
            (files.wayTo root ++ names).dropLast ≠ way.dropLast →
            outcomeAt registry options (files.rewrite way bytes) (entryPath root names)
              = outcomeAt registry options files (entryPath root names)) := by
  have hplace : (FileTree.directory entries).WellFormed := hwf.at? (FileSystem.at?_wayTo hroot)
  refine ⟨testWays options root (.directory entries), fun names => mem_testWays hplace,
    pairwise_testWays hplace, nodup_entryPath hplace, ?_, collect_directory hplace hroot, ?_⟩
  · intro names hmem
    have h := (mem_testWays hplace).1 hmem
    obtain ⟨bytes, hat⟩ := h.file
    exact ⟨bytes, hat, FileSystem.find_below hroot hat h.ne_nil (h.isName hplace)⟩
  · intro way old bytes hway
    refine ⟨collect_rewrite hwf hroot hway bytes, ?_, ?_⟩
    · intro htest names hmem hne
      have h := (mem_testWays hplace).1 hmem
      refine outcomeAt_rewrite hway bytes (h.isName hplace) h.ne_nil hne fun heq => ?_
      rw [← heq, List.getLast?_concat, Option.any_some, isTestModule_initialFile] at htest
      exact absurd htest (by decide)
    · intro hinitial names hmem hne
      have h := (mem_testWays hplace).1 hmem
      refine outcomeAt_rewrite hway bytes (h.isName hplace) h.ne_nil (fun heq => ?_) fun heq => ?_
      · have hnamed := h.named
        obtain ⟨front, last, rfl⟩ := (List.eq_nil_or_concat names).resolve_left h.ne_nil
        rw [← heq, List.concat_eq_append, ← List.append_assoc, List.getLast?_concat] at hinitial
        rw [List.concat_eq_append, List.getLast?_concat, hinitial, Option.any_some,
          isTestModule_initialFile] at hnamed
        exact absurd hnamed (by decide)
      · exact hne (by rw [← heq, List.dropLast_concat])

theorem collect_account_sample : sampleTree.WellFormed
    ∧ ∃ entries, FileSystem.find sampleTree "./tests/" = .ok (.directory entries)
      ∧ ∃ ways : List (List Text),
        (∀ names, names ∈ ways ↔ IsTestModuleAt {} "./tests/" (.directory entries) names)
        ∧ ["test_b.py".toList] ∈ ways ∧ ["api".toList, "test_a.py".toList] ∈ ways
        ∧ ∀ bytes, outcomeAt .builtin {}
            (FileSystem.rewrite sampleTree ["tests", "api", "test_a.py"] bytes)
            (entryPath "./tests/" ["test_b.py"])
          = outcomeAt .builtin {} sampleTree (entryPath "./tests/" ["test_b.py"]) := by
  obtain ⟨ways, hways, -, -, -, -, hrewrite⟩ :=
    @collect_account .builtin {} sampleTree "./tests/" _ _ wellFormed_sampleTree rfl
  have ha : ["api".toList, "test_a.py".toList] ∈ ways :=
    (hways _).2 ⟨⟨_, rfl⟩, by decide, fun _ _ => rfl⟩
  have hb : ["test_b.py".toList] ∈ ways := (hways _).2 ⟨⟨_, rfl⟩, by decide, fun _ _ => rfl⟩
  refine ⟨wellFormed_sampleTree, _, rfl, ways, hways, hb, ha, fun bytes => ?_⟩
  exact (hrewrite ["tests", "api", "test_a.py"] .empty bytes rfl).2.1 (by decide) _ hb (by decide)

end Testbook
