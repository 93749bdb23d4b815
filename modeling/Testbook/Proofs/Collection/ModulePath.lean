import Testbook.Proofs.Collection.Account
import Testbook.Registry.Builtin

/-!
The dotted names of the modules that a collection comes to. A module is found at a path without
dots, and what its name is made of is decided by the steps of that path and by those of the base
directory (`modulePath_eq`). So the name is that of the module relative to the base, and neither the
spelling of the place that the collection starts from nor that of the base has an effect on anything
in the collection (`modulePath_collect`).

The exception is a base that is spelled with a dot in front: its steps do not count, and modules are
named by all of their path.
-/

namespace Testbook

open Testbook.Text

namespace Path

/-- The steps of a base directory that count: a dot in front hides them. -/
def baseSteps (base : Path) : List Component :=
  if (components base).head? = some .current then [] else steps base

/-- A module has the dotted name of a file: the names on the way to the file joined with dots,
without the ending of source files. -/
def IsModuleName (names : List Text) (dotted : Text) : Prop :=
  names = [] ∧ dotted = [] ∨ names ≠ [] ∧ join "." names = dotted ++ ".py"

variable {base path other : Path}

/-- How far the base counts as it is spelled. -/
theorem components_base (base : Path) :
    components base = baseSteps base
      ∨ baseSteps base = [] ∧ components base = .current :: steps base := by
  have hcomponents := components_eq_steps base
  by_cases hdot : (splitHead base).1 = some .current
  · rw [if_pos hdot] at hcomponents
    refine .inr ⟨?_, hcomponents⟩
    rw [baseSteps, hcomponents]
    exact if_pos rfl
  · rw [if_neg hdot, List.nil_append] at hcomponents
    refine .inl ?_
    rw [baseSteps, hcomponents, if_neg]
    intro hhead
    exact steps_not_current base (List.mem_of_mem_head? hhead)

theorem prefix_baseSteps (h : LiesUnder base path) : baseSteps base <+: steps path := by
  rw [baseSteps]
  split
  · exact List.nil_prefix
  · exact h

/-- What is left of a path without dots behind a base. -/
theorem behind?_getD (base : Path) (hpath : components path = steps path) :
    (behind? base path).getD (components path)
      = if baseSteps base <+: steps path then (steps path).drop (baseSteps base).length
        else steps path := by
  rw [behind?, isUnder, hpath]
  rcases components_base base with hbase | ⟨hnil, hbase⟩
  · rw [hbase]
    by_cases hstart : baseSteps base <+: steps path
    · rw [if_pos hstart, if_pos (List.isPrefixOf_iff_prefix.2 hstart), Option.getD_some]
    · rw [if_neg hstart, if_neg (mt List.isPrefixOf_iff_prefix.1 hstart), Option.getD_none]
  · -- a dot comes first in no path without dots
    have hstart : ¬ components base <+: steps path := by
      intro hstart
      rw [hbase] at hstart
      exact steps_not_current path (hstart.subset List.mem_cons_self)
    rw [if_neg (mt List.isPrefixOf_iff_prefix.1 hstart), hnil, if_pos List.nil_prefix]
    rfl

/-- Only the steps of the base count for the name of a module. -/
theorem modulePath_eq (hpath : components path = steps path)
    (hbase : baseSteps base = baseSteps other) :
    modulePath path (some base) = modulePath path (some other) := by
  have hinner := behind?_getD base hpath
  rw [hbase, ← behind?_getD other hpath] at hinner
  simp only [modulePath, Option.bind_some]
  rw [hinner]

/-- The dotted name of a module in a source file is that of the names that are left of its path. -/
theorem isModuleName_modulePath {name stem : Text} (hpath : components path = steps path)
    (hname : fileName? path = some name) (hstem : dropEnd? ".py" name = some stem)
    (hunder : baseSteps base <+: steps path) :
    IsModuleName (((steps path).drop (baseSteps base).length).filterMap Component.name?)
      (modulePath path (some base)) := by
  obtain ⟨front, hfront⟩ := steps_eq_concat hname
  have hinner := behind?_getD base hpath
  rw [if_pos hunder] at hinner
  simp only [modulePath, Option.bind_some]
  rw [hinner, hfront]
  by_cases hle : (baseSteps base).length ≤ front.length
  · have hdrop : ((front ++ [Component.name name]).drop (baseSteps base).length).filterMap Component.name?
        = (front.drop (baseSteps base).length).filterMap Component.name? ++ [name] := by
      rw [List.drop_append_of_le_length hle, List.filterMap_append]
      rfl
    rw [hdrop, List.getLast?_concat]
    refine .inr ⟨by simp, ?_⟩
    simp only [hstem, Option.getD_some, List.dropLast_concat]
    rw [← join_concat_append, dropEnd?_eq_some hstem]
  · have hdrop : (front ++ [Component.name name]).drop (baseSteps base).length = [] := by
      rw [List.drop_eq_nil_iff, List.length_append, List.length_singleton]
      omega
    rw [hdrop]
    exact .inl ⟨rfl, rfl⟩

end Path

variable {registry : Registry} {options : CollectOptions} {files : FileSystem}
  {root root' path other base base' : Path} {place : FileTree}

/-! ### Records and their modules -/

theorem stem_of_isTestModule {name : Text} (h : isTestModule name = true) :
    ∃ stem, dropEnd? ".py" name = some stem ∧ stem ≠ [] := by
  rw [isTestModule] at h
  split at h
  · next stem hstem =>
    refine ⟨stem, hstem, ?_⟩
    rintro rfl
    exact absurd h (by decide)
  · cases h

/-- Test modules are found at paths without dots that end with the name of a source file. -/
theorem mem_testModules (h : path ∈ testModules options root place) :
    Path.components path = Path.steps path
      ∧ ∃ name stem, Path.fileName? path = some name ∧ dropEnd? ".py" name = some stem
        ∧ stem ≠ [] := by
  obtain ⟨spelled, hspelled, rfl⟩ := List.mem_map.1 h
  obtain ⟨name, hname, htest⟩ := (Option.any_eq_true ..).1 (List.mem_filter.1 hspelled).2
  obtain ⟨stem, hstem, hne⟩ := stem_of_isTestModule htest
  refine ⟨Path.components_of_fileName? hname, name, stem, ?_, hstem, hne⟩
  rw [Path.fileName?_eq, Path.steps_normalize, ← Path.fileName?_eq, hname]

/-- The records of a collection are those of the tests of the modules that were found and read. -/
theorem mem_records_iff [Python.Recovery] {collection : Collection} {record : Record}
    (h : (collect registry options files [] root).1 = .ok collection)
    (hfind : files.find root = .ok place) : record ∈ collection.records
      ↔ ∃ path ∈ testModules options root place, ∃ source, (readSource files [] path).1 = .ok source
        ∧ ∃ test ∈ source.found,
          record = registry.apply (source.bareRecord registry options.base test) := by
  obtain ⟨place', hfind', rfl⟩ := place_of_collect h
  rw [hfind] at hfind'
  obtain rfl := Except.ok.inj hfind'
  have houtcome (path : Path) : (outcomeAt registry options files path).2
      = (readSource files [] path).1.map (·.records registry options.base) := rfl
  constructor
  · intro hrecord
    obtain ⟨outcome, hmem, records, hrecords, hrecord⟩ := Collection.mem_records_ofOutcomes hrecord
    obtain ⟨path, hpath, rfl⟩ := List.mem_map.1 hmem
    rw [houtcome] at hrecords
    cases hsource : (readSource files [] path).1 with
    | error failure =>
      rw [hsource] at hrecords
      cases hrecords
    | ok source =>
      rw [hsource] at hrecords
      cases hrecords
      obtain ⟨test, htest, rfl⟩ := List.mem_map.1 hrecord
      exact ⟨path, hpath, source, hsource, test, htest, rfl⟩
  · rintro ⟨path, hpath, source, hsource, test, htest, rfl⟩
    refine List.mem_flatMap.2 ⟨(path, source.records registry options.base),
      List.mem_filterMap.2 ⟨_, List.mem_map_of_mem hpath, ?_⟩, List.mem_map_of_mem htest⟩
    have hrecords : (outcomeAt registry options files path).2
        = .ok (source.records registry options.base) := by
      rw [houtcome, hsource]
      rfl
    simp only [hrecords]
    rfl

/-- A record of a collection is one of a test module that was found, and it is named after that. -/
theorem mem_records_collect [Python.Recovery] {collection : Collection} {record : Record}
    (h : (collect registry options files [] root).1 = .ok collection)
    (hrecord : record ∈ collection.records) :
    ∃ place, record.location.path ∈ testModules options root place
      ∧ record.modulePath = Path.modulePath record.location.path options.base := by
  obtain ⟨place, hfind, -⟩ := place_of_collect h
  obtain ⟨path, hpath, source, hsource, test, -, rfl⟩ := (mem_records_iff h hfind).1 hrecord
  obtain rfl := path_of_readSource hsource
  exact ⟨place, hpath, rfl⟩

/-- What a test is called in its module: the name of its class, if it is in one, and its own. -/
def Found.key (test : Found) : Option Text × Text :=
  (test.parent.map (·.name), test.function.name)

theorem readSource_of_plain [Python.Recovery] {directory : Path} {text : Text} {module : Python.Module}
    (hread : files.read path = .ok text) (hmodule : Python.readModule text = .ok module)
    (hparent : Path.parent? path = some directory)
    (hinitial : files.hasFile (Path.extend directory initialFile) = false) :
    (readSource files [] path).1 = .ok ⟨path, module, none⟩ := by
  have hdoc : readPackageDoc files directory = .ok none := by
    rw [readPackageDoc]
    exact if_neg (by simp [hinitial])
  rw [readSource, readModuleAt_eq_ok.2 ⟨text, hread, hmodule⟩]
  simp only [hparent]
  change Except.map _ (PackageDocs.read [] files directory).1 = _
  rw [(read_of_isValid (isValid_nil files) directory).1, hdoc]
  rfl

/-- A test of a module in a plain directory has a record. -/
theorem exists_record [Python.Recovery] {collection : Collection} {directory : Path} {text : Text}
    {module : Python.Module} {test : Found}
    (h : (collect registry options files [] root).1 = .ok collection)
    (hfind : files.find root = .ok place) (hpath : path ∈ testModules options root place)
    (hread : files.read path = .ok text) (hmodule : Python.readModule text = .ok module)
    (hparent : Path.parent? path = some directory)
    (hinitial : files.hasFile (Path.extend directory initialFile) = false)
    (htest : test ∈ module.definitions.flatMap foundIn) :
    ∃ record ∈ collection.records, record.location.path = path
      ∧ record.modulePath = Path.modulePath path options.base
      ∧ (record.parentClass, record.name) = test.key
      ∧ record.qualifiedId
        = qualifiedId (Path.modulePath path options.base) test.key.1 test.key.2 := by
  let source : Source := ⟨path, module, none⟩
  have hrecord : registry.apply (source.bareRecord registry options.base test)
      ∈ collection.records :=
    (mem_records_iff h hfind).2 ⟨path, hpath, source,
      readSource_of_plain hread hmodule hparent hinitial, test, htest, rfl⟩
  exact ⟨_, hrecord, rfl, rfl, rfl, rfl⟩

/-! ### Spellings -/

theorem ignores_of_steps (h : Path.steps path = Path.steps other) :
    options.ignores path = options.ignores other := by
  rw [CollectOptions.ignores, Path.normalize_congr h, CollectOptions.ignores]

theorem isTestPath_of_steps (h : Path.steps path = Path.steps other) :
    isTestPath path = isTestPath other := by
  rw [isTestPath, Path.fileName?_eq, h, ← Path.fileName?_eq, isTestPath]

/-- The same modules are found from a place however it is spelled. -/
theorem testModules_of_steps (hwf : place.WellFormed) (h : Path.steps root = Path.steps root') :
    testModules options root place = testModules options root' place := by
  have hbelow {names front : List Text} (hmem : names ∈ place.files) (hfront : front <+: names) :
      Path.steps (Path.below root front) = Path.steps (Path.below root' front) := by
    have hnames : ∀ name ∈ front, Path.IsName name := fun name hname =>
      hwf.isName_of_mem_files hmem name (hfront.subset hname)
    rw [Path.steps_below root hnames, Path.steps_below root' hnames, h]
  have hnames : ∀ names ∈ place.files, ∀ name ∈ names, Path.IsName name := by
    intro names hmem
    obtain ⟨bytes, hat⟩ := (FileTree.mem_files hwf).1 hmem
    exact hwf.isName hat
  have hreached : ∀ names ∈ place.files, FileTree.isReached options.ignores root names
      = FileTree.isReached options.ignores root' names := by
    intro names hmem
    rw [Bool.eq_iff_iff, FileTree.isReached_iff, FileTree.isReached_iff]
    refine forall₂_congr fun front hfront => ?_
    rw [ignores_of_steps (hbelow hmem hfront)]
  rw [testModules, testModules, FileTree.walk_eq, FileTree.walk_eq, List.filter_congr hreached]
  simp only [List.filter_map, List.map_map]
  have htest : ∀ names ∈ place.files.filter (FileTree.isReached options.ignores root'),
      (isTestPath ∘ Path.below root) names = (isTestPath ∘ Path.below root') names :=
    fun names hmem => isTestPath_of_steps (hbelow (List.mem_of_mem_filter hmem) List.prefix_rfl)
  rw [List.filter_congr htest]
  refine List.map_congr_left fun names hmem => Path.normalize_congr (hbelow ?_ List.prefix_rfl)
  exact List.mem_of_mem_filter (List.mem_of_mem_filter hmem)

/-- A module comes to the same with bases of which the same steps count. -/
theorem outcomeAt_of_baseSteps [Python.Recovery] (hpath : Path.components path = Path.steps path)
    (h : Path.baseSteps base = Path.baseSteps base') :
    outcomeAt registry { options with base := some base } files path
      = outcomeAt registry { options with base := some base' } files path := by
  have hrecords : ∀ source, (readSource files [] path).1 = .ok source →
      source.records registry (some base) = source.records registry (some base') := by
    intro source hsource
    have hname : Path.modulePath source.path (some base)
        = Path.modulePath source.path (some base') := by
      rw [path_of_readSource hsource]
      exact Path.modulePath_eq hpath h
    simp only [Source.records, Source.bareRecord, hname]
  refine congrArg (Prod.mk path) ?_
  change (readSource files [] path).1.map (·.records registry (some base))
    = (readSource files [] path).1.map (·.records registry (some base'))
  cases hsource : (readSource files [] path).1 with
  | error failure => rfl
  | ok source => exact congrArg Except.ok (hrecords source hsource)

theorem collect_respelled [Python.Recovery] {collection collection' : Collection} (hwf : files.root.WellFormed)
    (hroot : Path.steps root = Path.steps root') (hbase : Path.baseSteps base = Path.baseSteps base')
    (h : (collect registry { options with base := some base } files [] root).1 = .ok collection)
    (h' : (collect registry { options with base := some base' } files [] root').1
      = .ok collection') :
    collection = collection' := by
  obtain ⟨place, hfind, rfl⟩ := place_of_collect h
  obtain ⟨place', hfind', rfl⟩ := place_of_collect h'
  obtain rfl := FileSystem.find_of_steps hroot hfind hfind'
  have hplace : place.WellFormed := hwf.at? (FileSystem.at?_wayTo hfind)
  have hmodules : testModules { options with base := some base } root place
      = testModules { options with base := some base' } root' place :=
    testModules_of_steps hplace hroot
  rw [hmodules]
  refine congrArg _ (List.map_congr_left fun path hpath => ?_)
  exact outcomeAt_of_baseSteps (mem_testModules hpath).1 hbase

/-! ### A module with one test -/

/-- A directory with a single test module in it. -/
def oneModule (bytes : ByteArray) : FileSystem := FileTree.empty.write "tests/test_a.py" bytes

variable {bytes : ByteArray} {text : Text} {module : Python.Module}

theorem wellFormed_oneModule (bytes : ByteArray) : (oneModule bytes).root.WellFormed :=
  FileTree.wellFormed_write FileTree.wellFormed_empty _ _

/-- The tests of the module are collected, and they are named after its path. -/
theorem exists_record_oneModule [Python.Recovery] (hbytes : FileSystem.decode bytes = .ok text)
    (h : Python.readModule text = .ok module) (hfound : module.definitions.flatMap foundIn ≠ [])
    (base : Path) :
    ∃ collection record,
      (collect registry { base := some base } (oneModule bytes) [] "tests/test_a.py").1
          = .ok collection
        ∧ record ∈ collection.records ∧ record.location.path = "tests/test_a.py"
        ∧ record.modulePath = Path.modulePath "tests/test_a.py" (some base) := by
  have hcollect : ∃ collection,
      (collect registry { base := some base } (oneModule bytes) [] "tests/test_a.py").1
        = .ok collection := by
    rw [collect_eq]
    exact ⟨_, rfl⟩
  obtain ⟨collection, hcollect⟩ := hcollect
  obtain ⟨test, htest⟩ := List.exists_mem_of_ne_nil _ hfound
  have hparent : Path.parent? "tests/test_a.py" = some "tests".toList := rfl
  obtain ⟨record, hrecord, hlocation, hname, -⟩ := exists_record hcollect rfl
    (List.mem_singleton.2 rfl) hbytes h hparent rfl htest
  exact ⟨collection, record, hcollect, hrecord, hlocation, hname⟩

/-- A text with one test. -/
def oneTest : Text := "def test_x():\n    pass\n"

theorem readModule_oneTest : ∃ module, Python.readModule oneTest = .ok module
    ∧ module.definitions.flatMap foundIn ≠ [] := by
  have hfound : (Python.readModule oneTest).toOption.any
      (fun module => !(module.definitions.flatMap foundIn).isEmpty) = true := by decide +kernel
  cases hmodule : Python.readModule oneTest with
  | error e =>
    rw [hmodule] at hfound
    cases hfound
  | ok module =>
    rw [hmodule] at hfound
    refine ⟨module, rfl, fun hnone => ?_⟩
    rw [Except.toOption, Option.any_some, hnone] at hfound
    cases hfound

/-! ### Names of modules -/

/-- A module of a collection is named by the names on the way to its file from the base on. How the
place and the base are spelled has no effect on anything in the collection, as long as they have the
same steps and the same of these count. -/
theorem modulePath_collect [Python.Recovery] {collection : Collection} {record : Record}
    (hwf : files.root.WellFormed)
    (h : (collect registry { options with base := some base } files [] root).1 = .ok collection)
    (hrecord : record ∈ collection.records) (hunder : Path.LiesUnder base record.location.path) :
    Path.IsModuleName (((Path.steps record.location.path).drop
        (Path.baseSteps base).length).filterMap Component.name?) record.modulePath
      ∧ ∀ root' base' collection', Path.steps root = Path.steps root' →
        Path.baseSteps base = Path.baseSteps base' →
        (collect registry { options with base := some base' } files [] root').1 = .ok collection' →
        collection = collection' := by
  obtain ⟨place, hmem, hmodule⟩ := mem_records_collect h hrecord
  obtain ⟨hcomponents, name, stem, hname, hstem, -⟩ := mem_testModules hmem
  refine ⟨?_, fun root' base' collection' hroot hbase h' => ?_⟩
  · rw [hmodule]
    exact Path.isModuleName_modulePath hcomponents hname hstem (Path.prefix_baseSteps hunder)
  · exact collect_respelled hwf hroot hbase h h'

theorem modulePath_collect_relative : ∃ collection record,
    (oneModule oneTest.utf8Encode).root.WellFormed
      ∧ (collect .builtin { base := some "tests" } (oneModule oneTest.utf8Encode) []
        "tests/test_a.py").1 = .ok collection
      ∧ record ∈ collection.records ∧ Path.LiesUnder "tests" record.location.path
      ∧ Path.IsModuleName ["test_a.py"] record.modulePath := by
  obtain ⟨module, hmodule, hfound⟩ := readModule_oneTest
  obtain ⟨collection, record, hcollect, hrecord, hlocation, -⟩ :=
    exists_record_oneModule (FileSystem.decode_utf8Encode oneTest) hmodule hfound "tests"
  have hwf : (oneModule oneTest.utf8Encode).root.WellFormed := wellFormed_oneModule _
  have hunder : Path.LiesUnder "tests" record.location.path := by
    rw [hlocation]
    decide
  have hname := (@modulePath_collect .builtin {} _ _ _ _ _ _ hwf hcollect hrecord hunder).1
  rw [hlocation] at hname
  exact ⟨collection, record, hwf, hcollect, hrecord, hunder, hname⟩

/-- Behind a dot the base does not count: the test is named by all of its path. -/
theorem modulePath_collect_dotted : ∃ collection record,
    (collect .builtin { base := some "./tests" } (oneModule oneTest.utf8Encode) []
        "tests/test_a.py").1 = .ok collection
      ∧ record ∈ collection.records ∧ Path.LiesUnder "./tests" record.location.path
      ∧ ¬ Path.IsModuleName (((Path.steps record.location.path).drop
        (Path.steps "./tests").length).filterMap Component.name?) record.modulePath := by
  obtain ⟨module, hmodule, hfound⟩ := readModule_oneTest
  obtain ⟨collection, record, hcollect, hrecord, hlocation, hname⟩ :=
    exists_record_oneModule (FileSystem.decode_utf8Encode oneTest) hmodule hfound "./tests"
  refine ⟨collection, record, hcollect, hrecord, ?_⟩
  rw [hname, hlocation]
  constructor
  · decide
  · rintro (⟨hnil, -⟩ | ⟨-, hjoin⟩)
    · exact absurd hnil (by decide)
    · exact absurd hjoin (by decide)

end Testbook
