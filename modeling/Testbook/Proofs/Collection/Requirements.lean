import Testbook.Collection.Requirement
import Testbook.Proofs.Record.Markers
import Testbook.Proofs.Text.Pieces

/-!
The requirements that tests name. They are listed in one pass over the tests, which adds to entries
that are there and appends new ones. The list is known in closed form at every point of the pass: a
row for each title, where it first comes, with all tests so far that name it (`requirementsOf_eq`).
One more test changes the row of its title only (`noteTest_rows_of_mem`), or adds it
(`noteTest_rows_of_not_mem`). So the tests that
name a requirement are parted among the rows (`requirementsOf_partition`).
-/

namespace Testbook

open Testbook.Text

/-- The titles that tests name, each where it first comes. -/
def titles (records : List Record) : List Text :=
  (records.filterMap Record.requirement?).eraseDups

/-- The full names of the tests that name a requirement. -/
def verifiers (records : List Record) (title : Text) : List Text :=
  (records.filter (·.requirement? = some title)).map (·.qualifiedId)

/-- The entry of a requirement, when these tests were noted for it. -/
def row (fields : Table Text) (tests : Text → List Text) (title : Text) : Requirement :=
  ⟨title, fields, tests title⟩

/-! ### What a test names -/

variable {record : Record} {title : Text}

/-- A test names the trimmed value of its field, unless nothing is left of it. -/
theorem Record.requirement?_eq_some : record.requirement? = some title
    ↔ (record.fields.get? "requirement").map trim = some title ∧ title ≠ [] := by
  have hfield : record.field? requirementField = record.fields.get? "requirement" := rfl
  rw [Record.requirement?, hfield, Option.filter_eq_some_iff]
  simp

theorem Record.requirement?_eq_filter (record : Record) :
    record.requirement? = ((record.fields.get? "requirement").map trim).filter (· ≠ []) := by
  refine Option.ext fun title => ?_
  rw [Record.requirement?_eq_some, Option.filter_eq_some_iff]
  simp

theorem Record.isSome_requirement? (record : Record) : record.requirement?.isSome
    = ((record.fields.get? "requirement").map trim).any (· ≠ []) := by
  rw [Record.requirement?_eq_filter]
  cases (record.fields.get? "requirement").map trim with
  | none => rfl
  | some title => by_cases h : title = [] <;> simp [h]

/-- What is named is trimmed. -/
theorem Record.trim_of_requirement? (h : record.requirement? = some title) : trim title = title := by
  obtain ⟨value, -, rfl⟩ := Option.map_eq_some_iff.1 (Record.requirement?_eq_some.1 h).1
  exact trim_trim value

theorem mem_titles {records : List Record} :
    title ∈ titles records ↔ ∃ record ∈ records, record.requirement? = some title := by
  rw [titles, List.mem_eraseDups, List.mem_filterMap]

theorem titles_eq (records : List Record) : titles records
    = ((records.filterMap fun record => (record.fields.get? "requirement").map trim).filter
        (· ≠ [])).eraseDups := by
  rw [titles, List.filter_filterMap]
  exact congrArg List.eraseDups
    (List.filterMap_congr fun record _ => record.requirement?_eq_filter)

/-! ### One more test -/

variable {fields : Table Text} {tests : Text → List Text} {names : List Text} {test : Text}

theorem noteTest_rows_of_not_mem (h : title ∉ names) :
    noteTest fields title test (names.map (row fields tests))
      = names.map (row fields tests) ++ [⟨title, fields, [test]⟩] := by
  induction names with
  | nil => rfl
  | cons name names ih =>
    obtain ⟨hne, hnot⟩ := not_or.1 (mt List.mem_cons.2 h)
    have hrow : (row fields tests name).title ≠ title := Ne.symm hne
    rw [List.map_cons, noteTest, if_neg hrow, ih hnot, List.cons_append]

/-- A test is noted in the row of its title, which is there once, and in no other. -/
theorem noteTest_rows_of_mem (hn : names.Nodup) (h : title ∈ names) :
    noteTest fields title test (names.map (row fields tests))
      = names.map (row fields fun t => tests t ++ if t = title then [test] else []) := by
  induction names with
  | nil => exact absurd h List.not_mem_nil
  | cons name names ih =>
    obtain ⟨hname, hnames⟩ := List.nodup_cons.1 hn
    rw [List.map_cons, noteTest, List.map_cons]
    by_cases heq : name = title
    · subst heq
      have hrest : names.map (row fields fun t => tests t ++ if t = name then [test] else [])
          = names.map (row fields tests) :=
        List.map_congr_left fun t ht => by
          have hne : t ≠ name := fun heq => hname (heq ▸ ht)
          rw [row, row, if_neg hne, List.append_nil]
      rw [hrest, row, if_pos rfl, row, if_pos rfl]
    · rw [row, if_neg heq, row, if_neg heq, List.append_nil,
        ih hnames ((List.mem_cons.1 h).resolve_left (Ne.symm heq))]

/-! ### All tests -/

theorem requirementsOf_concat (registry : Registry) (records : List Record) (record : Record) :
    requirementsOf registry (records ++ [record])
      = match record.requirement? with
        | some title => noteTest (registry.applyRequirement .empty) title record.qualifiedId
            (requirementsOf registry records)
        | none => requirementsOf registry records := by
  rw [requirementsOf, List.foldl_append]
  rfl

theorem titles_concat (records : List Record) (record : Record) :
    titles (records ++ [record]) = match record.requirement? with
      | some title => if title ∈ titles records then titles records else titles records ++ [title]
      | none => titles records := by
  rw [titles, List.filterMap_append]
  cases h : record.requirement? with
  | none => simp [h, titles]
  | some title =>
    have hone : [record].filterMap Record.requirement? = [title] := by simp [h]
    rw [hone, eraseDups_concat]
    simp only [titles, List.mem_eraseDups]

theorem verifiers_concat (records : List Record) (record : Record) (title : Text) :
    verifiers (records ++ [record]) title
      = verifiers records title
        ++ if record.requirement? = some title then [record.qualifiedId] else [] := by
  rw [verifiers, List.filter_append, List.map_append, verifiers]
  by_cases h : record.requirement? = some title <;> simp [h]

/-- A title that no test names has no tests. -/
theorem verifiers_eq_nil {records : List Record} (h : title ∉ titles records) :
    verifiers records title = [] := by
  rw [verifiers, List.map_eq_nil_iff, List.filter_eq_nil_iff]
  intro record hmem hnamed
  exact h (mem_titles.2 ⟨record, hmem, of_decide_eq_true hnamed⟩)

/-- There is a row for each title, where it first comes, with all tests that name it. -/
theorem requirementsOf_eq (registry : Registry) (records : List Record) :
    requirementsOf registry records
      = (titles records).map (row (registry.applyRequirement .empty) (verifiers records)) := by
  induction records using List.reverseRecOn with
  | nil => rfl
  | append_singleton records record ih =>
    rw [requirementsOf_concat, titles_concat, ih]
    have hrow (t : Text) : row (registry.applyRequirement .empty) (verifiers (records ++ [record])) t
        = row (registry.applyRequirement .empty) (fun t => verifiers records t
          ++ if record.requirement? = some t then [record.qualifiedId] else []) t := by
      rw [row, verifiers_concat, row]
    rw [List.map_congr_left fun t _ => hrow t]
    cases hnamed : record.requirement? with
    | none =>
      refine List.map_congr_left fun t _ => ?_
      rw [row, row, if_neg (by simp), List.append_nil]
    | some title =>
      simp only [Option.some.injEq]
      by_cases hmem : title ∈ titles records
      · have hn : (titles records).Nodup := nodup_eraseDups _
        rw [if_pos hmem, noteTest_rows_of_mem hn hmem]
        simp only [eq_comm]
      · rw [if_neg hmem, noteTest_rows_of_not_mem hmem, List.map_append, List.map_singleton, row,
          if_pos rfl, verifiers_eq_nil hmem, List.nil_append]
        congr 1
        refine List.map_congr_left fun t ht => ?_
        have hne : title ≠ t := fun heq => hmem (heq ▸ ht)
        rw [row, row, if_neg hne, List.append_nil]

theorem map_title_requirementsOf (registry : Registry) (records : List Record) :
    (requirementsOf registry records).map (·.title) = titles records := by
  rw [requirementsOf_eq, List.map_map]
  exact List.map_id _

/-! ### Parts -/

/-- Noting a test adds it to the tests of some row. -/
theorem perm_noteTest (fields : Table Text) (title test : Text) (found : List Requirement) :
    ((noteTest fields title test found).flatMap (·.verifiedBy)).Perm
      (found.flatMap (·.verifiedBy) ++ [test]) := by
  induction found with
  | nil => exact .refl _
  | cons r rs ih =>
    rw [noteTest]
    split
    · rw [List.flatMap_cons, List.flatMap_cons, List.append_assoc, List.append_assoc]
      exact List.perm_append_comm.append_left _
    · rw [List.flatMap_cons, List.flatMap_cons, List.append_assoc]
      exact ih.append_left _

/-- The rows have the tests that name a requirement among them, each as often as it comes. -/
theorem perm_requirementsOf (registry : Registry) (records : List Record) :
    ((requirementsOf registry records).flatMap (·.verifiedBy)).Perm
      ((records.filter (·.requirement?.isSome)).map (·.qualifiedId)) := by
  induction records using List.reverseRecOn with
  | nil => exact .refl _
  | append_singleton records record ih =>
    rw [requirementsOf_concat, List.filter_append, List.map_append]
    cases hnamed : record.requirement? with
    | none => simpa [hnamed] using ih
    | some title =>
      have hone : [record].filter (·.requirement?.isSome) = [record] := by simp [hnamed]
      rw [hone]
      exact (perm_noteTest _ title record.qualifiedId _).trans (ih.append_right _)

/-- The requirements of a collection have the trimmed values that its tests name, without the empty
one and each where it first comes, as their titles. Each has the tests that name it in the order of
the collection, and the fields that a requirement without any gets. Together they have every test
that names one, once. -/
theorem requirementsOf_partition (registry : Registry) (collection : Collection) :
    let named := fun record : Record => (record.fields.get? "requirement").map trim
    let found := requirementsOf registry collection.records
    found.map (·.title)
        = ((collection.records.filterMap named).filter (· ≠ [])).eraseDups
      ∧ (found.map (·.title)).Nodup
      ∧ (∀ requirement ∈ found, requirement.title ≠ [] ∧ trim requirement.title = requirement.title
        ∧ requirement.verifiedBy
          = (collection.records.filter (named · = some requirement.title)).map (·.qualifiedId)
        ∧ requirement.fields = registry.applyRequirement .empty)
      ∧ (found.flatMap (·.verifiedBy)).Perm
        ((collection.records.filter fun record =>
          (named record).any (· ≠ [])).map (·.qualifiedId)) := by
  intro named found
  have htitles : found.map (·.title) = titles collection.records :=
    map_title_requirementsOf registry collection.records
  refine ⟨htitles.trans (titles_eq _), ?_, fun requirement hmem => ?_, ?_⟩
  · rw [htitles]
    exact nodup_eraseDups _
  · rw [show found = _ from requirementsOf_eq registry collection.records] at hmem
    obtain ⟨title, htitle, rfl⟩ := List.mem_map.1 hmem
    obtain ⟨record, -, hnamed⟩ := mem_titles.1 htitle
    have hne : title ≠ [] := (Record.requirement?_eq_some.1 hnamed).2
    refine ⟨hne, Record.trim_of_requirement? hnamed, ?_, rfl⟩
    refine congrArg (List.map _) (List.filter_congr fun record _ => decide_eq_decide.2 ?_)
    rw [Record.requirement?_eq_some]
    exact and_iff_left hne
  · have hsome : (fun record : Record => (named record).any (· ≠ []))
        = fun record => record.requirement?.isSome :=
      funext fun record => record.isSome_requirement?.symm
    rw [hsome]
    exact perm_requirementsOf registry collection.records

end Testbook
