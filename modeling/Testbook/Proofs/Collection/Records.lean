import Testbook.Proofs.Collection.ModulePath
import Testbook.Proofs.Python.Names

/-!
What tells the tests of a collection apart. The names of a test hold no point
(`point_not_mem_key`). When the definitions of a module have different names, a test of it is known
by the name of its class and its own (`found_inj`), and a module by the names in its path
(`path_inj`).
-/

namespace Testbook

open Testbook.Text

/-! ### Definitions with different names -/

namespace Python.Module

/-- The functions at the top of a module. -/
def functions (m : Module) : List Function :=
  m.definitions.filterMap fun
    | .function f => some f
    | .classDef _ => none

/-- The classes at the top of a module. -/
def classes (m : Module) : List Class :=
  m.definitions.filterMap fun
    | .function _ => none
    | .classDef c => some c

/-- No two functions of a module, no two of its classes, and no two methods of a class have the same
name. -/
structure HasDistinctNames (m : Module) : Prop where
  functions : (m.functions.map (·.name)).Nodup
  classes : (m.classes.map (·.name)).Nodup
  methods : ∀ c ∈ m.classes, (c.methods.map (·.name)).Nodup

instance (m : Module) : Decidable m.HasDistinctNames :=
  decidable_of_iff ((m.functions.map (·.name)).Nodup ∧ (m.classes.map (·.name)).Nodup
      ∧ ∀ c ∈ m.classes, (c.methods.map (·.name)).Nodup)
    ⟨fun ⟨hfunctions, hclasses, hmethods⟩ => ⟨hfunctions, hclasses, hmethods⟩,
    fun h => ⟨h.functions, h.classes, h.methods⟩⟩

variable {m : Module}

theorem mem_functions {f : Function} : f ∈ m.functions ↔ Definition.function f ∈ m.definitions := by
  rw [functions, List.mem_filterMap]
  constructor
  · rintro ⟨_ | _, hd, hf⟩ <;> cases hf
    exact hd
  · exact fun hd => ⟨_, hd, rfl⟩

theorem mem_classes {c : Class} : c ∈ m.classes ↔ Definition.classDef c ∈ m.definitions := by
  rw [classes, List.mem_filterMap]
  constructor
  · rintro ⟨_ | _, hd, hc⟩ <;> cases hc
    exact hd
  · exact fun hd => ⟨_, hd, rfl⟩

end Python.Module

/-! ### Tests of a module -/

variable {registry : Registry} {options : CollectOptions} {files : FileSystem} {root path : Path}
  {place : FileTree} {source source' : Source} {test test' : Found}

/-- A test is a function at the top of its module or a method of a class there. -/
theorem mem_found (h : test ∈ source.found) :
    (test.parent = none ∧ test.function ∈ source.module.functions)
      ∨ ∃ c ∈ source.module.classes, test.parent = some c ∧ test.function ∈ c.methods := by
  obtain ⟨d, hd, hfound⟩ := List.mem_flatMap.1 h
  cases d with
  | function f =>
    rw [foundIn] at hfound
    split at hfound
    · obtain rfl := List.mem_singleton.1 hfound
      exact .inl ⟨rfl, Python.Module.mem_functions.2 hd⟩
    · cases hfound
  | classDef c =>
    obtain ⟨f, hf, rfl⟩ := List.mem_map.1 hfound
    exact .inr ⟨c, Python.Module.mem_classes.2 hd, rfl, (List.mem_filter.1 hf).1⟩

/-- Tests with the same names are the same test. -/
theorem found_inj (h : source.module.HasDistinctNames) (ht : test ∈ source.found)
    (ht' : test' ∈ source.found) (hkey : test.key = test'.key) : test = test' := by
  obtain ⟨parent, function⟩ := test
  obtain ⟨parent', function'⟩ := test'
  obtain ⟨hparent, hname⟩ := Prod.mk.inj hkey
  rcases mem_found ht with ⟨hnone, hf⟩ | ⟨c, hc, hsome, hf⟩ <;>
    rcases mem_found ht' with ⟨hnone', hf'⟩ | ⟨c', hc', hsome', hf'⟩ <;> simp only at *
  · obtain rfl := List.inj_on_of_nodup_map h.functions hf hf' hname
    rw [hnone, hnone']
  · rw [hnone, hsome'] at hparent
    cases hparent
  · rw [hsome, hnone'] at hparent
    cases hparent
  · rw [hsome, hsome'] at hparent
    obtain rfl := List.inj_on_of_nodup_map h.classes hc hc' (Option.some.inj hparent)
    obtain rfl := List.inj_on_of_nodup_map (h.methods c hc) hf hf' hname
    rw [hsome, hsome']

/-! ### Modules that are read -/

/-- The names of a test are without points. -/
theorem point_not_mem_key [Python.Recovery] (h : (readSource files [] path).1 = .ok source)
    (ht : test ∈ source.found) :
    '.' ∉ test.function.name ∧ ∀ parent, test.parent = some parent → '.' ∉ parent.name := by
  obtain ⟨text, -, hmodule⟩ := readModuleAt_eq_ok.1 (readModuleAt_of_readSource h).2
  have hnames := Python.hasNames_readModule hmodule
  rcases mem_found ht with ⟨hnone, hf⟩ | ⟨c, hc, hsome, hf⟩
  · refine ⟨(hnames.function _ (Python.Module.mem_functions.1 hf)).point_not_mem, fun parent hp => ?_⟩
    rw [hnone] at hp
    cases hp
  · have hclass := Python.Module.mem_classes.1 hc
    refine ⟨(hnames.method c hclass _ hf).point_not_mem, fun parent hp => ?_⟩
    rw [hsome] at hp
    cases hp
    exact (hnames.classDef c hclass).point_not_mem

/-- No test module that can be read defines two things of one name in one place. -/
def FileSystem.HasDistinctNames [Python.Recovery] (files : FileSystem) : Prop :=
  ∀ path m, isTestPath path = true → readModuleAt files path = .ok m → m.HasDistinctNames

/-! ### Paths of modules -/

variable {other : Path}

theorem isTestPath_of_mem (h : path ∈ testModules options root place) : isTestPath path = true := by
  obtain ⟨spelled, hspelled, rfl⟩ := List.mem_map.1 h
  rw [isTestPath_of_steps (Path.steps_normalize spelled)]
  exact (List.mem_filter.1 hspelled).2

/-- The path of a module continues the steps of the place by names. -/
theorem components_of_mem (hwf : place.WellFormed) (h : path ∈ testModules options root place) :
    ∃ names : List Text, Path.components path = Path.steps root ++ names.map .name := by
  obtain ⟨hcomponents, -⟩ := mem_testModules h
  obtain ⟨spelled, hspelled, rfl⟩ := List.mem_map.1 h
  have hwalk := (List.mem_filter.1 hspelled).1
  rw [FileTree.walk_eq] at hwalk
  obtain ⟨names, hnames, rfl⟩ := List.mem_map.1 hwalk
  refine ⟨names, ?_⟩
  rw [hcomponents, Path.steps_normalize,
    Path.steps_below root (hwf.isName_of_mem_files (List.mem_filter.1 hnames).1)]

/-- The names in the paths tell modules of one collection apart. -/
theorem path_inj (hwf : place.WellFormed) (h : path ∈ testModules options root place)
    (h' : other ∈ testModules options root place)
    (hnames : (Path.components path).filterMap Component.name?
      = (Path.components other).filterMap Component.name?) : path = other := by
  obtain ⟨names, hpath⟩ := components_of_mem hwf h
  obtain ⟨names', hother⟩ := components_of_mem hwf h'
  have hall (names : List Text) : (names.map Component.name).filterMap Component.name? = names := by
    rw [List.filterMap_map]
    exact List.filterMap_some
  rw [hpath, hother, List.filterMap_append, List.filterMap_append, hall, hall,
    List.append_cancel_left_eq] at hnames
  have hsteps : Path.steps path = Path.steps other := by
    rw [← (mem_testModules h).1, ← (mem_testModules h').1, hpath, hother, hnames]
  obtain ⟨spelled, -, rfl⟩ := List.mem_map.1 h
  obtain ⟨spelled', -, rfl⟩ := List.mem_map.1 h'
  rw [Path.steps_normalize, Path.steps_normalize] at hsteps
  exact Path.normalize_congr hsteps

/-! ### Trees of sources -/

/-- A tree with the given files. -/
def sourceTree (sources : List (Path × ByteArray)) : FileTree :=
  sources.foldl (fun tree source => tree.write source.1 source.2) .empty

/-- The tests of a program text, by what they are called. -/
def testKeys [Python.Recovery] (text : Text) : List (Option Text × Text) :=
  match Python.readModule text with
  | .ok module => (module.definitions.flatMap foundIn).map Found.key
  | .error _ => []

variable {sources : List (Path × ByteArray)} {names : List Text} {bytes : ByteArray}

theorem wellFormed_sourceTree (sources : List (Path × ByteArray)) :
    (sourceTree sources).WellFormed := by
  have hfold (tree : FileTree) (h : tree.WellFormed) :
      (sources.foldl (fun tree source => tree.write source.1 source.2) tree).WellFormed := by
    induction sources generalizing tree with
    | nil => exact h
    | cons source sources ih => exact ih _ (FileTree.wellFormed_write h _ _)
  exact hfold _ FileTree.wellFormed_empty

theorem at?_foldl_write {tree : FileTree}
    (h : (sources.foldl (fun tree source => tree.write source.1 source.2) tree).at? names
      = some (.file bytes)) :
    (∃ source ∈ sources, source.2 = bytes) ∨ tree.at? names = some (.file bytes) := by
  induction sources generalizing tree with
  | nil => exact .inr h
  | cons source sources ih =>
    rcases ih h with ⟨found, hmem, hbytes⟩ | hwritten
    · exact .inl ⟨found, List.mem_cons_of_mem _ hmem, hbytes⟩
    · exact (FileTree.at?_put hwritten).imp_left fun hbytes =>
        ⟨source, List.mem_cons_self, hbytes.symm⟩

/-- Whether the modules of such a tree define different names can be told file by file. -/
theorem hasDistinctNames_sourceTree [Python.Recovery] (h : ∀ source ∈ sources, ∀ text m,
      FileSystem.decode source.2 = .ok text → Python.readModule text = .ok m → m.HasDistinctNames) :
    FileSystem.HasDistinctNames (sourceTree sources) := by
  intro path m _ hmodule
  obtain ⟨text, hread, hm⟩ := readModuleAt_eq_ok.1 hmodule
  rw [FileSystem.read] at hread
  split at hread
  · next bytes hfind =>
    rcases at?_foldl_write (FileSystem.at?_wayTo hfind) with ⟨source, hmem, rfl⟩ | hempty
    · exact h source hmem text m hread hm
    · cases hway : FileSystem.wayTo (sourceTree sources) path <;> rw [hway] at hempty <;> cases hempty
  · cases hread
  · cases hread

/-- A text with one test in a class. -/
def classTest : Text := "class test_b:\n    def test_x(self):\n        pass\n"

/-- Whether the definitions of a program text have different names. -/
def isDistinct [Python.Recovery] (text : Text) : Bool :=
  match Python.readModule text with
  | .ok module => module.HasDistinctNames
  | .error _ => true

theorem hasDistinctNames_of_isDistinct [Python.Recovery] {text found : Text} {m : Python.Module}
    (h : isDistinct text = true) (hdecode : FileSystem.decode text.utf8Encode = .ok found)
    (hm : Python.readModule found = .ok m) : m.HasDistinctNames := by
  rw [FileSystem.decode_utf8Encode] at hdecode
  cases hdecode
  rw [isDistinct, hm] at h
  exact of_decide_eq_true h

theorem keys_oneTest : (none, "test_x".toList) ∈ testKeys oneTest ∧ isDistinct oneTest = true := by
  decide +kernel

theorem keys_classTest :
    (some "test_b".toList, "test_x".toList) ∈ testKeys classTest ∧ isDistinct classTest = true := by
  decide +kernel

/-- A test in a tree of sources: what is computed of it. -/
structure IsTestIn [Python.Recovery] (sources : List (Path × ByteArray)) (options : CollectOptions)
    (names : List Text) (directory : Path) (text : Text) (key : Option Text × Text) : Prop where
  place : FileSystem.find (sourceTree sources) "." = .ok (sourceTree sources)
  file : (sourceTree sources).at? names = some (.file text.utf8Encode)
  named : names.getLast?.any isTestModule
  kept : options.ignored = []
  parent : Path.parent? (entryPath "." names) = some directory
  plain : FileSystem.hasFile (sourceTree sources) (Path.extend directory initialFile) = false
  test : key ∈ testKeys text

theorem IsTestIn.exists_record [Python.Recovery] {sources : List (Path × ByteArray)} {names : List Text}
    {directory : Path} {text : Text} {key : Option Text × Text}
    (h : IsTestIn sources options names directory text key)
    {collection : Collection}
    (hcollect : (collect registry options (sourceTree sources) [] ".").1 = .ok collection) :
    ∃ record ∈ collection.records, record.location.path = entryPath "." names
      ∧ record.parentClass = key.1 ∧ record.name = key.2
      ∧ record.qualifiedId
        = qualifiedId (Path.modulePath (entryPath "." names) options.base) key.1 key.2 := by
  have hwf := wellFormed_sourceTree sources
  have hway : IsTestModuleAt options "." (sourceTree sources) names :=
    ⟨⟨_, h.file⟩, h.named, fun front _ => by simp [CollectOptions.ignores, h.kept]⟩
  have hfile := FileSystem.find_below h.place h.file hway.ne_nil (hway.isName hwf)
  have hread : FileSystem.read (sourceTree sources) (entryPath "." names) = .ok text := by
    rw [FileSystem.read, entryPath, hfile]
    exact FileSystem.decode_utf8Encode text
  have hkey := h.test
  rw [testKeys] at hkey
  split at hkey
  · next module hmodule =>
    obtain ⟨test, htest, rfl⟩ := List.mem_map.1 hkey
    obtain ⟨record, hrecord, hlocation, -, hnames, hid⟩ := Testbook.exists_record hcollect h.place
      (hway.mem hwf) hread hmodule h.parent h.plain htest
    obtain ⟨hparent, hname⟩ := Prod.mk.inj hnames
    exact ⟨record, hrecord, hlocation, hparent, hname, hid⟩
  · cases hkey

theorem exists_collect_sourceTree [Python.Recovery] {sources : List (Path × ByteArray)}
    (h : FileSystem.find (sourceTree sources) "." = .ok (sourceTree sources)) :
    ∃ collection, (collect registry options (sourceTree sources) [] ".").1 = .ok collection := by
  rw [collect_eq, outcomes, h]
  exact ⟨_, rfl⟩

theorem hasDistinctNames_pair [Python.Recovery] {text text' : Text} (path path' : Path)
    (h : isDistinct text = true) (h' : isDistinct text' = true) : FileSystem.HasDistinctNames
      (sourceTree [(path, text.utf8Encode), (path', text'.utf8Encode)]) := by
  refine hasDistinctNames_sourceTree fun source hmem found m hdecode hm => ?_
  simp only [List.mem_cons, List.not_mem_nil, or_false] at hmem
  rcases hmem with rfl | rfl
  · exact hasDistinctNames_of_isDistinct h hdecode hm
  · exact hasDistinctNames_of_isDistinct h' hdecode hm

end Testbook
