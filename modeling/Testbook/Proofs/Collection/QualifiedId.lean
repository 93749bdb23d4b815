import Testbook.Proofs.Collection.Records
import Testbook.Proofs.Path.Dotted

/-!
Full names of tests. Module, class and name of a test are joined with points, and the test's own name
has none, so tests of one full name have one name, and the names of what they are defined in are joined
to the same (`qualifiedId_cases`). That leaves three ways for two tests of a collection to share a full
name (`qualifiedId_collect`): their modules are on two sides of the base, their modules' names were
joined from different names and one of these has a point in it, or a class in one module is named like
the other module.
-/

namespace Testbook

open Testbook.Text

variable {registry : Registry} {options : CollectOptions} {files : FileSystem} {root : Path}
  {collection : Collection} {record other : Record} {base : Option Path}

/-! ### Names in two parts -/

/-- A name in two parts as one, with a point between unless the first part is empty. -/
def dotted (key : Text × Text) : Text := if key.1.isEmpty then key.2 else key.1 ++ '.' :: key.2

/-- The parts tell as much as the whole when there is no point in the second. -/
theorem dotted_inj {key key' : Text × Text} (h : '.' ∉ key.2) (h' : '.' ∉ key'.2) :
    dotted key = dotted key' ↔ key = key' := by
  refine ⟨fun heq => ?_, congrArg dotted⟩
  obtain ⟨front, last⟩ := key
  obtain ⟨front', last'⟩ := key'
  cases front with
  | nil =>
    cases front' with
    | nil => exact congrArg (Prod.mk []) heq
    | cons c cs =>
      change last = c :: cs ++ '.' :: last' at heq
      exact absurd (heq ▸ by simp) h
  | cons c cs =>
    cases front' with
    | nil =>
      change c :: cs ++ '.' :: last = last' at heq
      exact absurd (heq ▸ by simp) h'
    | cons c' cs' =>
      obtain ⟨hfront, hlast⟩ := append_sep_inj h h' heq
      exact Prod.ext hfront hlast

theorem qualifiedId_none (module name : Text) : qualifiedId module none name = dotted (module, name) := by
  cases module with
  | nil => rfl
  | cons c cs => simp [qualifiedId, dotted, join]

theorem qualifiedId_some (module parent name : Text) :
    qualifiedId module (some parent) name = dotted (module, parent) ++ '.' :: name := by
  cases module with
  | nil => simp [qualifiedId, dotted, join]
  | cons c cs => simp [qualifiedId, dotted, join]

/-- A name without points behind a front is the second part of a name in two parts only behind the
same front. -/
theorem dotted_eq_append {module name front name' : Text} (h : '.' ∉ name) (h' : '.' ∉ name')
    (heq : dotted (module, name) = front ++ '.' :: name') :
    module ≠ [] ∧ module = front ∧ name = name' := by
  cases module with
  | nil =>
    change name = front ++ '.' :: name' at heq
    exact absurd (heq ▸ by simp) h
  | cons c cs => exact ⟨List.cons_ne_nil _ _, append_sep_inj h h' heq⟩

/-! ### Tests that are named alike -/

/-- Whether two tests have the same name and class, in modules of one dotted name. -/
structure Record.IsNamedLike (record other : Record) : Prop where
  name : record.name = other.name
  parentClass : record.parentClass = other.parentClass
  modulePath : record.modulePath = other.modulePath

/-- Whether a test in a class is named like one that is in no class: the module of the other test has
the dotted name of the class. -/
structure Record.IsNamedAcross (record other : Record) : Prop where
  name : record.name = other.name
  parentClass : other.parentClass = none
  ne_nil : other.modulePath ≠ []
  exists_parent : ∃ parent, record.parentClass = some parent
    ∧ other.modulePath = dotted (record.modulePath, parent)

/-- A test in a class and one in none have the full name that the second is given by its module. -/
theorem qualifiedId_eq_of_isNamedAcross (h : record.IsNamedAcross other) :
    qualifiedId record.modulePath record.parentClass record.name
      = qualifiedId other.modulePath other.parentClass other.name := by
  obtain ⟨parent, hparent, hmodule⟩ := h.exists_parent
  rw [hparent, h.parentClass, h.name, qualifiedId_some, qualifiedId_none, ← hmodule]
  simp [dotted, h.ne_nil]

/-- Tests without points in their names and in those of their classes share a full name exactly when
they are named alike. -/
theorem qualifiedId_cases (hname : '.' ∉ record.name ∧ ∀ parent ∈ record.parentClass.toList, '.' ∉ parent)
    (hname' : '.' ∉ other.name ∧ ∀ parent ∈ other.parentClass.toList, '.' ∉ parent) :
    qualifiedId record.modulePath record.parentClass record.name
        = qualifiedId other.modulePath other.parentClass other.name
      ↔ record.IsNamedLike other ∨ record.IsNamedAcross other ∨ other.IsNamedAcross record := by
  constructor
  · intro hid
    cases hparent : record.parentClass with
    | none =>
      cases hparent' : other.parentClass with
      | none =>
        rw [hparent, hparent', qualifiedId_none, qualifiedId_none, dotted_inj hname.1 hname'.1] at hid
        obtain ⟨hmodule, hlast⟩ := Prod.mk.inj hid
        exact .inl ⟨hlast, hparent.trans hparent'.symm, hmodule⟩
      | some parent' =>
        rw [hparent, hparent', qualifiedId_none, qualifiedId_some] at hid
        obtain ⟨hne, hmodule, hlast⟩ := dotted_eq_append hname.1 hname'.1 hid
        exact .inr (.inr ⟨hlast.symm, hparent, hne, parent', hparent', hmodule⟩)
    | some parent =>
      cases hparent' : other.parentClass with
      | none =>
        rw [hparent, hparent', qualifiedId_none, qualifiedId_some] at hid
        obtain ⟨hne, hmodule, hlast⟩ := dotted_eq_append hname'.1 hname.1 hid.symm
        exact .inr (.inl ⟨hlast.symm, hparent', hne, parent, hparent, hmodule⟩)
      | some parent' =>
        rw [hparent, hparent', qualifiedId_some, qualifiedId_some] at hid
        have hpoint : '.' ∉ parent := hname.2 parent (by simp [hparent])
        have hpoint' : '.' ∉ parent' := hname'.2 parent' (by simp [hparent'])
        obtain ⟨hfront, hlast⟩ := append_sep_inj hname.1 hname'.1 hid
        obtain ⟨hmodule, rfl⟩ := Prod.mk.inj ((dotted_inj hpoint hpoint').1 hfront)
        exact .inl ⟨hlast, hparent.trans hparent'.symm, hmodule⟩
  · rintro (h | h | h)
    · rw [h.name, h.parentClass, h.modulePath]
    · exact qualifiedId_eq_of_isNamedAcross h
    · exact (qualifiedId_eq_of_isNamedAcross h).symm

/-! ### Records of a collection -/

/-- A record is made of a test of a module that was found and read. -/
structure IsCollected [Python.Recovery] (registry : Registry) (options : CollectOptions)
    (files : FileSystem) (root : Path) (place : FileTree) (source : Source) (test : Found)
    (record : Record) : Prop where
  moduleFound : source.path ∈ testModules options root place
  moduleRead : (readSource files [] source.path).1 = .ok source
  testFound : test ∈ source.found
  record_eq : record = registry.apply (source.bareRecord registry options.base test)

theorem exists_isCollected [Python.Recovery] {place : FileTree}
    (h : (collect registry options files [] root).1 = .ok collection)
    (hfind : files.find root = .ok place) (hrecord : record ∈ collection.records) :
    ∃ source test, IsCollected registry options files root place source test record := by
  obtain ⟨path, hpath, source, hsource, test, htest, hrecord⟩ := (mem_records_iff h hfind).1 hrecord
  obtain rfl := path_of_readSource hsource
  exact ⟨source, test, hpath, hsource, htest, hrecord⟩

namespace IsCollected

variable [Python.Recovery] {place : FileTree} {source source' : Source} {test test' : Found}

theorem qualifiedId_eq (h : IsCollected registry options files root place source test record) :
    record.qualifiedId = qualifiedId record.modulePath record.parentClass record.name := by
  obtain rfl := h.record_eq
  rfl

theorem modulePath_eq (h : IsCollected registry options files root place source test record) :
    record.modulePath = Path.modulePath record.location.path options.base := by
  obtain rfl := h.record_eq
  rfl

/-- The module of a record is a source file with a name. -/
theorem exists_stem (h : IsCollected registry options files root place source test record) :
    ∃ name stem, Path.fileName? record.location.path = some name ∧ dropEnd? ".py" name = some stem
      ∧ stem ≠ [] := by
  obtain ⟨-, name, stem, hname, hstem, hne⟩ := mem_testModules h.moduleFound
  obtain rfl := h.record_eq
  exact ⟨name, stem, hname, hstem, hne⟩

theorem point_not_mem (h : IsCollected registry options files root place source test record) :
    '.' ∉ record.name ∧ ∀ parent ∈ record.parentClass.toList, '.' ∉ parent := by
  obtain ⟨hname, hparent⟩ := point_not_mem_key h.moduleRead h.testFound
  obtain rfl := h.record_eq
  refine ⟨hname, fun parent hmem => ?_⟩
  obtain ⟨c, hc, rfl⟩ := Option.map_eq_some_iff.1 (Option.mem_toList.1 hmem)
  exact hparent c hc

/-- Records with the same path and the same names are the same. -/
theorem inj (h : IsCollected registry options files root place source test record)
    (h' : IsCollected registry options files root place source' test' other)
    (hnames : files.HasDistinctNames) (hpath : record.location.path = other.location.path)
    (hparent : record.parentClass = other.parentClass) (hname : record.name = other.name) :
    record = other := by
  have hmodule := (readModuleAt_of_readSource h.moduleRead).2
  obtain rfl := h.record_eq
  obtain rfl := h'.record_eq
  have hread' := h'.moduleRead
  rw [show source'.path = source.path from hpath.symm, h.moduleRead] at hread'
  obtain rfl := Except.ok.inj hread'
  have hdistinct := hnames _ _ (isTestPath_of_mem h.moduleFound) hmodule
  obtain rfl := found_inj hdistinct h.testFound h'.testFound (Prod.ext hparent hname)
  rfl

/-- Modules on one side of the base that have the same names left are the same. -/
theorem path_eq (h : IsCollected registry options files root place source test record)
    (h' : IsCollected registry options files root place source' test' other)
    (hplace : place.WellFormed)
    (hside : Path.isBeneath options.base record.location.path
      = Path.isBeneath options.base other.location.path)
    (hmodules : Path.moduleNames record.location.path options.base
      = Path.moduleNames other.location.path options.base) :
    record.location.path = other.location.path := by
  obtain ⟨name, stem, hname, hstem, -⟩ := h.exists_stem
  obtain ⟨name', stem', hname', hstem', -⟩ := h'.exists_stem
  obtain rfl := h.record_eq
  obtain rfl := h'.record_eq
  exact path_inj hplace h.moduleFound h'.moduleFound
    (Path.names_eq_of_moduleNames hname hstem hname' hstem' hside hmodules)

/-- Modules of one dotted name that were joined from different names have a point in one of them. -/
theorem exists_point (h : IsCollected registry options files root place source test record)
    (h' : IsCollected registry options files root place source' test' other)
    (hmodule : record.modulePath = other.modulePath)
    (hne : Path.moduleNames record.location.path options.base
      ≠ Path.moduleNames other.location.path options.base) :
    ∃ name ∈ Path.moduleNames record.location.path options.base
      ++ Path.moduleNames other.location.path options.base, '.' ∈ name := by
  by_contra hsharp
  have hsharp : ∀ name ∈ Path.moduleNames record.location.path options.base
      ++ Path.moduleNames other.location.path options.base, '.' ∉ name :=
    fun name hmem hpoint => hsharp ⟨name, hmem, hpoint⟩
  rw [List.forall_mem_append] at hsharp
  obtain ⟨name, stem, hname, hstem, hstemNe⟩ := h.exists_stem
  obtain ⟨name', stem', hname', hstem', hstemNe'⟩ := h'.exists_stem
  rw [h.modulePath_eq, h'.modulePath_eq] at hmodule
  by_cases hnil : Path.moduleNames record.location.path options.base = []
  · have hnil' : Path.modulePath other.location.path options.base = [] := by
      rw [← hmodule, Path.modulePath_eq_nil hname hstem hstemNe]
      exact hnil
    rw [Path.modulePath_eq_nil hname' hstem' hstemNe'] at hnil'
    exact hne (hnil.trans hnil'.symm)
  · have hnil' : Path.moduleNames other.location.path options.base ≠ [] := by
      intro hnil'
      rw [← Path.modulePath_eq_nil hname' hstem' hstemNe', ← hmodule,
        Path.modulePath_eq_nil hname hstem hstemNe] at hnil'
      exact hnil hnil'
    have hcut := congrArg (splitOn '.') hmodule
    rw [Path.modulePath_eq_join, Path.modulePath_eq_join] at hcut
    exact hne ((splitOn_join hnil hsharp.1).symm.trans (hcut.trans (splitOn_join hnil' hsharp.2)))

end IsCollected

/-! ### Full names -/

/-- The ways for two tests of a collection to share a full name. -/
inductive Record.Blurs (base : Option Path) (record other : Record) : Prop where
  /-- they are named alike, but one of their modules lies beneath the base and the other does not -/
  | side (h : record.IsNamedLike other)
    (hside : Path.isBeneath base record.location.path ≠ Path.isBeneath base other.location.path)
  /-- they are named alike, but the dotted names of their modules were joined from different names, one
  of which has a point in it -/
  | point (h : record.IsNamedLike other)
    (hmodules : Path.moduleNames record.location.path base ≠ Path.moduleNames other.location.path base)
    (hpoint : ∃ name ∈ Path.moduleNames record.location.path base
      ++ Path.moduleNames other.location.path base, '.' ∈ name)
  /-- one of them is in a class that is named like the module of the other -/
  | nesting (h : record.IsNamedAcross other ∨ other.IsNamedAcross record)

theorem Record.Blurs.isNamed (h : record.Blurs base other) :
    record.IsNamedLike other ∨ record.IsNamedAcross other ∨ other.IsNamedAcross record := by
  cases h with
  | side h _ => exact .inl h
  | point h _ _ => exact .inl h
  | nesting h => exact .inr h

/-- Two tests have one full name exactly when they are the same or share it in one of these ways. -/
theorem qualifiedId_eq_iff [Python.Recovery] (hwf : files.root.WellFormed) (hnames : files.HasDistinctNames)
    (h : (collect registry options files [] root).1 = .ok collection)
    (hrecord : record ∈ collection.records) (hother : other ∈ collection.records) :
    record.qualifiedId = other.qualifiedId ↔ record = other ∨ record.Blurs options.base other := by
  obtain ⟨place, hfind, -⟩ := place_of_collect h
  have hplace : place.WellFormed := hwf.at? (FileSystem.at?_wayTo hfind)
  obtain ⟨source, test, hcollected⟩ := exists_isCollected h hfind hrecord
  obtain ⟨source', test', hcollected'⟩ := exists_isCollected h hfind hother
  have hcases := qualifiedId_cases hcollected.point_not_mem hcollected'.point_not_mem
  rw [← hcollected.qualifiedId_eq, ← hcollected'.qualifiedId_eq] at hcases
  rw [hcases]
  constructor
  · rintro (hlike | hacross)
    · by_cases hside : Path.isBeneath options.base record.location.path
          = Path.isBeneath options.base other.location.path
      · by_cases hmodules : Path.moduleNames record.location.path options.base
            = Path.moduleNames other.location.path options.base
        · have hpath := hcollected.path_eq hcollected' hplace hside hmodules
          exact .inl (hcollected.inj hcollected' hnames hpath hlike.parentClass hlike.name)
        · exact .inr (.point hlike hmodules
            (hcollected.exists_point hcollected' hlike.modulePath hmodules))
      · exact .inr (.side hlike hside)
    · exact .inr (.nesting hacross)
  · rintro (rfl | hblurs)
    · exact .inl ⟨rfl, rfl, rfl⟩
    · exact hblurs.isNamed

theorem exists_find? (hrecord : record ∈ collection.records) :
    ∃ found ∈ collection.records, collection.find? record.qualifiedId = some found
      ∧ record.qualifiedId = found.qualifiedId := by
  cases hfound : collection.find? record.qualifiedId with
  | none => exact absurd (List.find?_eq_none.1 hfound record hrecord) (by simp)
  | some found =>
    have hid : found.qualifiedId = record.qualifiedId := by simpa using List.find?_some hfound
    exact ⟨found, List.mem_of_find?_eq_some hfound, rfl, hid.symm⟩

/-- A full name belongs to one test and to those that share it with the test in one of the three ways.
Looking for the full name of a test finds this test, or one that shares it. -/
theorem qualifiedId_collect [Python.Recovery] (hwf : files.root.WellFormed) (hnames : files.HasDistinctNames)
    (h : (collect registry options files [] root).1 = .ok collection)
    (hrecord : record ∈ collection.records) :
    (∀ other ∈ collection.records, record.qualifiedId = other.qualifiedId ↔
        record = other ∨ record.Blurs options.base other)
      ∧ ∃ found ∈ collection.records, collection.find? record.qualifiedId = some found
        ∧ (record = found ∨ record.Blurs options.base found) := by
  have hall (other : Record) (hother : other ∈ collection.records) :
      record.qualifiedId = other.qualifiedId ↔ record = other ∨ record.Blurs options.base other :=
    qualifiedId_eq_iff hwf hnames h hrecord hother
  obtain ⟨found, hmem, hfound, hid⟩ := exists_find? hrecord
  exact ⟨hall, found, hmem, hfound, (hall found hmem).1 hid⟩

theorem qualifiedId_collect_class : ∃ collection record,
    (sourceTree [("test_a.py", oneTest.utf8Encode), ("test_b.py", classTest.utf8Encode)]).WellFormed
      ∧ FileSystem.HasDistinctNames
        (sourceTree [("test_a.py", oneTest.utf8Encode), ("test_b.py", classTest.utf8Encode)])
      ∧ (collect .builtin {} (sourceTree
          [("test_a.py", oneTest.utf8Encode), ("test_b.py", classTest.utf8Encode)]) [] ".").1
        = .ok collection
      ∧ record ∈ collection.records ∧ record.qualifiedId = "test_b.test_b.test_x".toList
      ∧ ∃ found ∈ collection.records, collection.find? record.qualifiedId = some found
        ∧ (record = found ∨ record.Blurs none found) := by
  have hclass := keys_classTest
  have htest : IsTestIn [("test_a.py", oneTest.utf8Encode), ("test_b.py", classTest.utf8Encode)] {}
      ["test_b.py"] "" classTest (some "test_b".toList, "test_x".toList) :=
    ⟨rfl, rfl, by decide, rfl, by decide, rfl, hclass.1⟩
  have hnames := hasDistinctNames_pair "test_a.py" "test_b.py" keys_oneTest.2 hclass.2
  obtain ⟨collection, hcollect⟩ := @exists_collect_sourceTree .builtin {} _ _ htest.place
  obtain ⟨record, hrecord, -, -, -, hid⟩ := htest.exists_record hcollect
  have hwf := wellFormed_sourceTree
    [("test_a.py", oneTest.utf8Encode), ("test_b.py", classTest.utf8Encode)]
  exact ⟨collection, record, hwf, hnames, hcollect, hrecord, hid.trans (by decide),
    (qualifiedId_collect hwf hnames hcollect hrecord).2⟩

/-! ### Tests that share their full names -/

/-- Whether two tests of one full name are collected from the working directory of a tree, although
it is well-formed and the definitions in its modules have different names. -/
def SharesName [Python.Recovery] (options : CollectOptions) (files : FileSystem) : Prop :=
  files.root.WellFormed ∧ files.HasDistinctNames
    ∧ ∃ collection, (collect .builtin options files [] ".").1 = .ok collection
      ∧ ∃ record ∈ collection.records, ∃ other ∈ collection.records,
        record ≠ other ∧ record.qualifiedId = other.qualifiedId

theorem sharesName_sourceTree [Python.Recovery] {text text' : Text} {path path' directory directory' : Path}
    {names names' : List Text} {key key' : Option Text × Text}
    (h : IsTestIn [(path, text.utf8Encode), (path', text'.utf8Encode)] options names directory
      text key)
    (h' : IsTestIn [(path, text.utf8Encode), (path', text'.utf8Encode)] options names' directory'
      text' key')
    (htext : isDistinct text = true) (htext' : isDistinct text' = true)
    (hpath : entryPath "." names ≠ entryPath "." names')
    (hid : qualifiedId (Path.modulePath (entryPath "." names) options.base) key.1 key.2
      = qualifiedId (Path.modulePath (entryPath "." names') options.base) key'.1 key'.2) :
    SharesName options (sourceTree [(path, text.utf8Encode), (path', text'.utf8Encode)]) := by
  obtain ⟨collection, hcollect⟩ :=
    @exists_collect_sourceTree .builtin options _ _ h.place
  obtain ⟨record, hrecord, hlocation, -, -, hfull⟩ := h.exists_record hcollect
  obtain ⟨other, hother, hlocation', -, -, hfull'⟩ := h'.exists_record hcollect
  have hne : record ≠ other := by
    rintro rfl
    exact hpath (hlocation.symm.trans hlocation')
  exact ⟨wellFormed_sourceTree _, hasDistinctNames_pair path path' htext htext', collection,
    hcollect, record, hrecord, other, hother, hne, by rw [hfull, hid, hfull']⟩

/-- All three happen: points in names, modules on two sides of the base, and a class that is named
like a module. -/
theorem qualifiedId_collect_shared :
    SharesName {}
        (sourceTree [("a.b/test_c.py", oneTest.utf8Encode), ("a/b/test_c.py", oneTest.utf8Encode)])
      ∧ SharesName { base := some "tests" }
        (sourceTree [("tests/test_a.py", oneTest.utf8Encode), ("test_a.py", oneTest.utf8Encode)])
      ∧ SharesName {}
        (sourceTree
          [("test_a.py", classTest.utf8Encode), ("test_a/test_b.py", oneTest.utf8Encode)]) := by
  have hone := keys_oneTest
  have hclass := keys_classTest
  refine ⟨?_, ?_, ?_⟩
  · refine @sharesName_sourceTree _ _ _ _ _ _ "a.b" "a/b" ["a.b", "test_c.py"] ["a", "b", "test_c.py"]
      _ _ ⟨rfl, rfl, by decide, rfl, by decide, rfl, hone.1⟩
      ⟨rfl, rfl, by decide, rfl, by decide, rfl, hone.1⟩ hone.2 hone.2 (by decide) (by decide)
  · refine @sharesName_sourceTree _ _ _ _ _ _ "tests" "" ["tests", "test_a.py"] ["test_a.py"]
      _ _ ⟨rfl, rfl, by decide, rfl, by decide, rfl, hone.1⟩
      ⟨rfl, rfl, by decide, rfl, by decide, rfl, hone.1⟩ hone.2 hone.2 (by decide) (by decide)
  · refine @sharesName_sourceTree _ _ _ _ _ _ "" "test_a" ["test_a.py"] ["test_a", "test_b.py"]
      _ _ ⟨rfl, rfl, by decide, rfl, by decide, rfl, hclass.1⟩
      ⟨rfl, rfl, by decide, rfl, by decide, rfl, hone.1⟩ hclass.2 hone.2 (by decide) (by decide)

end Testbook
