import Testbook.Proofs.Collection.QualifiedId
import Mathlib.Data.List.Find

/-!
Names in reports. A report of a test run names a test in two parts, and they are the parts of its
full name (`qualifiedId_eq_dotted_iff`), but for a class in a module without a name: there the report
has a point in front that the full name has not. Without such classes a report and a full name find
the same test (`findReported?_collect`), because the name of a test holds no point.
-/

namespace Testbook

open Testbook.Text

variable {registry : Registry} {options : CollectOptions} {files : FileSystem} {root : Path}
  {collection : Collection} {record other : Record} {base : Option Path}

/-- Whether a test is in a class of a module that has no name, being the base itself. -/
def Record.IsUnplaced (base : Option Path) (record : Record) : Prop :=
  record.parentClass.isSome
    ∧ base.map Path.components = some (Path.components record.location.path)

/-- Module, class and name make up the same full name as the parts in a report, unless the class is
in a module without a name. -/
theorem qualifiedId_eq_dotted_iff (h : record.qualifiedId
      = qualifiedId record.modulePath record.parentClass record.name) :
    record.qualifiedId = dotted record.reportKey
      ↔ ¬ (record.parentClass.isSome ∧ record.modulePath = []) := by
  rw [h, Record.reportKey]
  cases hparent : record.parentClass with
  | none =>
    refine iff_of_true ?_ (by simp)
    cases hmodule : record.modulePath with
    | nil => rfl
    | cons c cs => simp [qualifiedId, dotted, join]
  | some parent =>
    cases hmodule : record.modulePath with
    | nil =>
      refine iff_of_false (fun heq => ?_) (by simp)
      -- the report has one point more
      have hlength := congrArg List.length heq
      simp [qualifiedId, dotted, join] at hlength
    | cons c cs =>
      refine iff_of_true ?_ (by simp)
      simp [qualifiedId, dotted, join]

theorem IsCollected.isUnplaced_iff [Python.Recovery] {place : FileTree} {source : Source} {test : Found}
    (h : IsCollected registry options files root place source test record) :
    record.IsUnplaced options.base ↔ record.parentClass.isSome ∧ record.modulePath = [] := by
  obtain ⟨-, name, stem, hname, hstem, hne⟩ := mem_testModules h.moduleFound
  have hmodule := @Path.modulePath_eq_nil_iff _ options.base _ _ hname hstem hne
  obtain rfl := h.record_eq
  exact and_congr_right fun _ => hmodule.symm

/-- The two parts by which a report names a test are its full name, unless it is in a class of a
module that is the base itself. Without such tests a report and a full name find the same. -/
theorem findReported?_collect [Python.Recovery]
    (h : (collect registry options files [] root).1 = .ok collection)
    (hrecord : record ∈ collection.records) :
    (record.qualifiedId = dotted record.reportKey ↔ ¬ record.IsUnplaced options.base)
      ∧ ((∀ other ∈ collection.records, ¬ other.IsUnplaced options.base) →
        ∃ found ∈ collection.records, collection.find? record.qualifiedId = some found
          ∧ collection.findReported? record.reportKey = some found) := by
  obtain ⟨place, hfind, -⟩ := place_of_collect h
  have hid (other : Record) (hother : other ∈ collection.records) :
      '.' ∉ other.name
        ∧ (other.qualifiedId = dotted other.reportKey ↔ ¬ other.IsUnplaced options.base) := by
    obtain ⟨source, test, hcollected⟩ := exists_isCollected h hfind hother
    rw [hcollected.isUnplaced_iff]
    exact ⟨hcollected.point_not_mem.1, qualifiedId_eq_dotted_iff hcollected.qualifiedId_eq⟩
  refine ⟨(hid record hrecord).2, fun hplaced => ?_⟩
  have hsame : collection.findReported? record.reportKey = collection.find? record.qualifiedId := by
    refine List.find?_congr fun other hother => decide_eq_decide.2 ?_
    rw [((hid other hother).2).2 (hplaced other hother),
      ((hid record hrecord).2).2 (hplaced record hrecord)]
    exact (dotted_inj (hid other hother).1 (hid record hrecord).1).symm
  obtain ⟨found, hmem, hfound, -⟩ := exists_find? hrecord
  exact ⟨found, hmem, hfound, hsame.trans hfound⟩

theorem findReported?_collect_class : ∃ collection record found,
    (collect .builtin {} (sourceTree [("test_b.py", classTest.utf8Encode)]) [] ".").1 = .ok collection
      ∧ record ∈ collection.records ∧ record.qualifiedId = "test_b.test_b.test_x".toList
      ∧ record.qualifiedId = dotted record.reportKey
      ∧ collection.find? record.qualifiedId = some found
      ∧ collection.findReported? record.reportKey = some found := by
  have htest : IsTestIn [("test_b.py", classTest.utf8Encode)] {} ["test_b.py"] "" classTest
      (some "test_b".toList, "test_x".toList) :=
    ⟨rfl, rfl, by decide, rfl, by decide, rfl, keys_classTest.1⟩
  obtain ⟨collection, hcollect⟩ := @exists_collect_sourceTree .builtin {} _ _ htest.place
  obtain ⟨record, hrecord, -, -, -, hid⟩ := htest.exists_record hcollect
  have hplaced (other : Record) : ¬ other.IsUnplaced none := fun h => nomatch h.2
  obtain ⟨hdotted, hfind⟩ := findReported?_collect hcollect hrecord
  obtain ⟨found, -, hfound, hreported⟩ := hfind fun other _ => hplaced other
  exact ⟨collection, record, found, hcollect, hrecord, hid.trans (by decide),
    hdotted.2 (hplaced record), hfound, hreported⟩

/-- A class in a module that is the base is reported with a point in front. -/
theorem findReported?_collect_base : ∃ collection record,
    (collect .builtin { base := some "test_b.py" }
        (sourceTree [("test_b.py", classTest.utf8Encode)]) [] ".").1 = .ok collection
      ∧ record ∈ collection.records ∧ record.qualifiedId = "test_b.test_x".toList
      ∧ record.reportKey = (".test_b".toList, "test_x".toList)
      ∧ record.qualifiedId ≠ dotted record.reportKey := by
  have htest : IsTestIn [("test_b.py", classTest.utf8Encode)] { base := some "test_b.py" }
      ["test_b.py"] "" classTest (some "test_b".toList, "test_x".toList) :=
    ⟨rfl, rfl, by decide, rfl, by decide, rfl, keys_classTest.1⟩
  obtain ⟨collection, hcollect⟩ :=
    @exists_collect_sourceTree .builtin { base := some "test_b.py" } _ _ htest.place
  obtain ⟨record, hrecord, hlocation, hparent, hname, hid⟩ := htest.exists_record hcollect
  obtain ⟨-, -, hmodule⟩ := mem_records_collect hcollect hrecord
  have hkey : record.reportKey = (".test_b".toList, "test_x".toList) := by
    rw [Record.reportKey, hparent, hname, hmodule, hlocation]
    decide
  have hfull : record.qualifiedId = "test_b.test_x".toList := hid.trans (by decide)
  refine ⟨collection, record, hcollect, hrecord, hfull, hkey, ?_⟩
  rw [hfull, hkey]
  decide

end Testbook
