import Testbook.Collection.Validation
import Testbook.Proofs.Record.Pairs
import Testbook.Proofs.Record.StepItems
import Testbook.Proofs.Text.Pieces
import Testbook.Proofs.Text.Solid
import Testbook.Registry.Builtin

/-!
What a validation reports. The warning about lists that do not pair up is found from three counts:
those of the items and that of the pairs. No item is the text of its list, so these counts tell
just when the two values were kept as they are (`length_pairSteps_ne_iff`). So the issues of a test
are known in closed form, and a test without a warning has its steps in one of three ways
(`issues_exact`). A validation that cuts the items out finds just these issues or, behind a byte order
mark, fails on a cut (`gives_validate`).
-/

namespace Testbook

open Testbook.Text Testbook.Html

/-- The value of a field, empty where the test has none. -/
def Record.value (record : Record) (name : Text) : Text := (record.field? name).getD []

/-- All of an issue but its message. -/
structure Entry where
  code : Text
  severity : Severity
  path? : Option Text
  qualifiedId? : Option Text
  field? : Option Text
  deriving DecidableEq, Repr

/-- The entry of an issue. -/
def Issue.entry (issue : Issue) : Entry :=
  ⟨issue.code, issue.severity, issue.path?, issue.qualifiedId?, issue.field?⟩

/-- The entry of an issue with a field of a test. -/
def Record.entry (record : Record) (code : Text) (severity : Severity) (field : Text) : Entry :=
  ⟨code, severity, some record.location.path, some record.qualifiedId, some field⟩

/-- The entry of something that was not collected. -/
def Failure.entry (failure : Failure) : Entry :=
  ⟨failure.code, .error, failure.path?, failure.qualifiedId?, none⟩

/-- Both values are lists, and yet they are one pair as they are. -/
def AreKeptWhole (steps results : Text) : Prop :=
  (orderedItems? steps).isSome ∧ (orderedItems? results).isSome
    ∧ pairSteps steps results = [(steps, results)]

instance (steps results : Text) : Decidable (AreKeptWhole steps results) :=
  inferInstanceAs (Decidable (_ ∧ _ ∧ _))

/-- Neither the steps nor the expected results begin with a byte order mark. -/
def Record.IsUnmarked (record : Record) : Prop :=
  (record.value "steps").head? ≠ some byteOrderMark
    ∧ (record.value "expectedresults").head? ≠ some byteOrderMark

instance (record : Record) : Decidable record.IsUnmarked :=
  inferInstanceAs (Decidable (_ ∧ _))

/-! ### Pairs of items -/

variable {steps results : Text} {items outcomes : List Text}

/-- Two lists are kept as they are just when their items are not as many or there are none. -/
theorem pairSteps_eq_self_iff_lengths (hs : orderedItems? steps = some items)
    (hr : orderedItems? results = some outcomes) : pairSteps steps results = [(steps, results)]
      ↔ items.length ≠ outcomes.length ∨ items.length = 0 := by
  rw [pairSteps_eq_self_iff_of_lists hs hr, pairUp_iff, ← List.length_pos_iff]
  omega

/-- The counts of the items and the pairs tell whether two lists were kept as they are. -/
theorem length_pairSteps_ne_iff (hs : orderedItems? steps = some items)
    (hr : orderedItems? results = some outcomes) :
    ((pairSteps steps results).length ≠ items.length ∨ items.length ≠ outcomes.length)
      ↔ pairSteps steps results = [(steps, results)] := by
  rw [pairSteps_eq_self_iff_lengths hs hr, pairSteps_of_lists hs hr]
  split
  · next hpair =>
    rw [pairUp_iff, ← List.length_pos_iff] at hpair
    rw [List.length_zip]
    omega
  · next hpair =>
    rw [pairUp_iff, ← List.length_pos_iff] at hpair
    rw [List.length_singleton]
    omega

theorem areKeptWhole_iff : AreKeptWhole steps results
    ↔ ∃ items outcomes, orderedItems? steps = some items ∧ orderedItems? results = some outcomes
      ∧ (items.length ≠ outcomes.length ∨ items.length = 0 ∧ outcomes.length = 0) := by
  constructor
  · rintro ⟨hsteps, hresults, hpairs⟩
    obtain ⟨items, hs⟩ := Option.isSome_iff_exists.1 hsteps
    obtain ⟨outcomes, hr⟩ := Option.isSome_iff_exists.1 hresults
    have hcounts := (pairSteps_eq_self_iff_lengths hs hr).1 hpairs
    exact ⟨items, outcomes, hs, hr, by omega⟩
  · rintro ⟨items, outcomes, hs, hr, hcounts⟩
    exact ⟨Option.isSome_of_eq_some hs, Option.isSome_of_eq_some hr,
      (pairSteps_eq_self_iff_lengths hs hr).2 (by omega)⟩

/-- Values that are lists are not empty. -/
theorem AreKeptWhole.ne_nil (h : AreKeptWhole steps results) : steps ≠ [] ∧ results ≠ [] := by
  have hnil : (orderedItems? []).isSome = false := by decide +kernel
  refine ⟨?_, ?_⟩
  · rintro rfl
    exact Bool.false_ne_true (hnil.symm.trans h.1)
  · rintro rfl
    exact Bool.false_ne_true (hnil.symm.trans h.2.1)

theorem unevenItems_of_not_list {pairs : List (Text × Text)} {items outcomes : Option (List Text)}
    (h : items = none ∨ outcomes = none) : unevenItems pairs items outcomes = [] := by
  rcases h with rfl | rfl
  · rfl
  · cases items <;> rfl

theorem unevenSteps_map_entry (record : Record) :
    (unevenSteps steps results).map
        (fun d => Issue.entry (.defect record.location.path record.qualifiedId d))
      = if AreKeptWhole steps results then [record.entry "W002" .warning "steps"] else [] := by
  rw [unevenSteps]
  cases hs : orderedItems? steps with
  | none =>
    have hkept : ¬AreKeptWhole steps results := by simp [AreKeptWhole, hs]
    rw [unevenItems_of_not_list (.inl rfl), if_neg hkept, List.map_nil]
  | some items =>
    cases hr : orderedItems? results with
    | none =>
      have hkept : ¬AreKeptWhole steps results := by simp [AreKeptWhole, hr]
      rw [unevenItems_of_not_list (.inr rfl), if_neg hkept, List.map_nil]
    | some outcomes =>
      have hkept : AreKeptWhole steps results ↔ pairSteps steps results = [(steps, results)] := by
        simp [AreKeptWhole, hs, hr]
      rw [unevenItems]
      simp only [length_pairSteps_ne_iff hs hr, hkept]
      split <;> rfl

/-! ### The issues of a test -/

/-- What is left of a blank value is nothing. -/
theorem trim_eq_nil_iff {text : Text} : trim text = [] ↔ isAllBlank text = true := by
  refine ⟨fun h => ?_, fun h => ?_⟩
  · rw [← solid_eq_nil, ← solid_trimStart, ← solid_trimEnd]
    exact congrArg solid h
  · refine trimEnd_of_isAllBlank ?_
    rwa [← solid_eq_nil, solid_trimStart, solid_eq_nil]

variable {registry : Registry} {record : Record}

theorem missing_eq (record : Record) (required : List Text) :
    record.missing required = required.filter fun name => trim (record.value name) = [] := by
  refine List.filter_congr fun name _ => ?_
  rw [Record.value, Bool.eq_iff_iff, decide_eq_true_eq, trim_eq_nil_iff]
  cases record.field? name with
  | none => exact iff_of_true rfl rfl
  | some value => rfl

theorem filled?_of_value_eq_nil {name : Text} (h : record.value name = []) :
    record.filled? name = none := by
  rw [Record.value] at h
  rw [Record.filled?]
  cases hfield : record.field? name with
  | none => rfl
  | some value =>
    rw [hfield] at h
    cases (h : value = [])
    rfl

theorem filled?_of_value_ne_nil {name : Text} (h : record.value name ≠ []) :
    record.filled? name = some (record.value name) := by
  rw [Record.value] at h ⊢
  rw [Record.filled?]
  cases hfield : record.field? name with
  | none =>
    rw [hfield] at h
    exact absurd rfl h
  | some value =>
    rw [hfield] at h
    have hfull : (!value.isEmpty) = true := by simpa using h
    exact Option.filter_some_pos hfull

theorem value_of_filled? {name value : Text} (h : record.filled? name = some value) :
    record.value name = value := by
  by_cases hv : record.value name = []
  · rw [filled?_of_value_eq_nil hv] at h
    cases h
  · rw [filled?_of_value_ne_nil hv] at h
    exact Option.some.inj h

theorem stepsField_eq : Record.stepsField = "steps" := rfl

theorem expectedField_eq : Record.expectedField = "expectedresults" := rfl

/-- What a validation says on the steps of a test, by the two values. -/
theorem stepDefects_map_entry (record : Record) :
    (stepDefects record).map
        (fun d => Issue.entry (.defect record.location.path record.qualifiedId d))
      = (if record.value "steps" ≠ [] ∧ record.value "expectedresults" = [] then
            [record.entry "W001" .warning "expectedresults"] else [])
        ++ (if record.value "steps" = [] ∧ record.value "expectedresults" ≠ [] then
            [record.entry "W001" .warning "steps"] else [])
        ++ (if AreKeptWhole (record.value "steps") (record.value "expectedresults") then
            [record.entry "W002" .warning "steps"] else []) := by
  have hkept (h : record.value "steps" = [] ∨ record.value "expectedresults" = []) :
      ¬AreKeptWhole (record.value "steps") (record.value "expectedresults") := by
    intro hk
    exact h.elim hk.ne_nil.1 hk.ne_nil.2
  rw [stepDefects, stepsField_eq, expectedField_eq]
  by_cases hs : record.value "steps" = [] <;> by_cases hr : record.value "expectedresults" = []
  · rw [filled?_of_value_eq_nil hs, filled?_of_value_eq_nil hr, if_neg (hkept (.inl hs)),
      if_neg (not_and.2 fun h _ => h hs), if_neg (not_and.2 fun _ h => h hr)]
    rfl
  · rw [filled?_of_value_eq_nil hs, filled?_of_value_ne_nil hr, if_neg (hkept (.inl hs)),
      if_neg (not_and.2 fun h _ => h hs), if_pos (And.intro hs hr)]
    rfl
  · rw [filled?_of_value_ne_nil hs, filled?_of_value_eq_nil hr, if_neg (hkept (.inr hr)),
      if_pos (And.intro hs hr), if_neg (not_and.2 fun _ h => h hr)]
    rfl
  · rw [filled?_of_value_ne_nil hs, filled?_of_value_ne_nil hr, if_neg (not_and.2 fun _ => hr),
      if_neg (not_and.2 fun h => absurd h hs)]
    exact unevenSteps_map_entry record

/-- The issues of a test in order: each required field that is absent or blank, then the steps. -/
theorem recordIssues_map_entry (registry : Registry) (record : Record) :
    (recordIssues registry record).map Issue.entry
      = (registry.required.filter fun name => trim (record.value name) = []).map
          (record.entry "E005" .error)
        ++ (stepDefects record).map
          (fun d => Issue.entry (.defect record.location.path record.qualifiedId d)) := by
  rw [recordIssues, defects, List.map_append, List.map_append, List.map_map, List.map_map,
    List.map_map, missing_eq]
  rfl

theorem steps?_of_value_eq_nil
    (h : record.value "steps" = [] ∨ record.value "expectedresults" = []) :
    record.steps? = none := by
  rw [Record.steps?, stepsField_eq, expectedField_eq]
  rcases h with h | h
  · rw [filled?_of_value_eq_nil h]
    rfl
  · rw [filled?_of_value_eq_nil h]
    exact Option.bind_fun_none _

theorem steps?_of_value_ne_nil (hs : record.value "steps" ≠ [])
    (hr : record.value "expectedresults" ≠ []) :
    record.steps? = some (pairSteps (record.value "steps") (record.value "expectedresults")) := by
  rw [Record.steps?, stepsField_eq, expectedField_eq, filled?_of_value_ne_nil hs,
    filled?_of_value_ne_nil hr]
  rfl

/-! ### Codes -/

/-- The entry of some issue of a test has what a predicate asks for. -/
theorem exists_entry_iff (registry : Registry) (record : Record) (p : Entry → Prop) :
    (∃ issue ∈ recordIssues registry record, p issue.entry)
      ↔ (∃ name ∈ registry.required,
          trim (record.value name) = [] ∧ p (record.entry "E005" .error name))
        ∨ (record.value "steps" ≠ [] ∧ record.value "expectedresults" = [])
          ∧ p (record.entry "W001" .warning "expectedresults")
        ∨ (record.value "steps" = [] ∧ record.value "expectedresults" ≠ [])
          ∧ p (record.entry "W001" .warning "steps")
        ∨ AreKeptWhole (record.value "steps") (record.value "expectedresults")
          ∧ p (record.entry "W002" .warning "steps") := by
  have hone {q : Prop} [Decidable q] (e : Entry) : (∃ x ∈ if q then [e] else [], p x) ↔ q ∧ p e := by
    by_cases hq : q <;> simp [hq]
  have hmap {α : Type} (f : α → Entry) (l : List α) : (∃ x ∈ l.map f, p x) ↔ ∃ x ∈ l, p (f x) := by
    simp only [List.mem_map, exists_exists_and_eq_and]
  rw [← hmap Issue.entry, recordIssues_map_entry, stepDefects_map_entry]
  simp only [List.mem_append, or_and_right, exists_or, hone, hmap, or_assoc, List.mem_filter,
    decide_eq_true_eq, and_assoc]

theorem exists_missing_iff : (∃ issue ∈ recordIssues registry record, issue.code = "E005")
    ↔ ∃ name ∈ registry.required, trim (record.value name) = [] := by
  have h := exists_entry_iff registry record (·.code = "E005")
  simpa [Record.entry, Issue.entry] using h

theorem exists_alone_iff : (∃ issue ∈ recordIssues registry record, issue.code = "W001")
    ↔ (record.value "steps" ≠ [] ∧ record.value "expectedresults" = [])
      ∨ record.value "steps" = [] ∧ record.value "expectedresults" ≠ [] := by
  have h := exists_entry_iff registry record (·.code = "W001")
  simpa [Record.entry, Issue.entry] using h

theorem exists_uneven_iff : (∃ issue ∈ recordIssues registry record, issue.code = "W002")
    ↔ AreKeptWhole (record.value "steps") (record.value "expectedresults") := by
  have h := exists_entry_iff registry record (·.code = "W002")
  simpa [Record.entry, Issue.entry] using h

theorem exists_severity_iff : (∃ issue ∈ recordIssues registry record, issue.severity = .error)
    ↔ ∃ issue ∈ recordIssues registry record, issue.code = "E005" := by
  have h := exists_entry_iff registry record (·.severity = .error)
  rw [exists_missing_iff]
  simpa [Record.entry, Issue.entry] using h

/-- A test without a warning has no steps at all, or all items of two lists in pairs, or two values
of which one is no list. -/
theorem steps?_of_no_warning
    (h : ∀ issue ∈ recordIssues registry record, issue.code ≠ "W001" ∧ issue.code ≠ "W002") :
    (record.steps? = none ∧ record.value "steps" = [] ∧ record.value "expectedresults" = [])
    ∨ (∃ items outcomes, orderedItems? (record.value "steps") = some items
        ∧ orderedItems? (record.value "expectedresults") = some outcomes
        ∧ items.length = outcomes.length ∧ record.steps? = some (items.zip outcomes))
    ∨ ((orderedItems? (record.value "steps") = none
          ∨ orderedItems? (record.value "expectedresults") = none)
        ∧ record.steps? = some [(record.value "steps", record.value "expectedresults")]) := by
  have halone : ¬((record.value "steps" ≠ [] ∧ record.value "expectedresults" = [])
      ∨ record.value "steps" = [] ∧ record.value "expectedresults" ≠ []) := by
    rw [← @exists_alone_iff registry]
    rintro ⟨issue, hmem, hcode⟩
    exact (h issue hmem).1 hcode
  have hkept : ¬AreKeptWhole (record.value "steps") (record.value "expectedresults") := by
    rw [← @exists_uneven_iff registry]
    rintro ⟨issue, hmem, hcode⟩
    exact (h issue hmem).2 hcode
  by_cases hs : record.value "steps" = []
  · have hr : record.value "expectedresults" = [] := by
      by_contra hr
      exact halone (.inr ⟨hs, hr⟩)
    exact .inl ⟨steps?_of_value_eq_nil (.inl hs), hs, hr⟩
  · have hr : record.value "expectedresults" ≠ [] := fun hr => halone (.inl ⟨hs, hr⟩)
    have hsteps := steps?_of_value_ne_nil hs hr
    cases hitems : orderedItems? (record.value "steps") with
    | none =>
      rw [pairSteps_of_not_list (.inl hitems)] at hsteps
      exact .inr (.inr ⟨.inl rfl, hsteps⟩)
    | some items =>
      cases houtcomes : orderedItems? (record.value "expectedresults") with
      | none =>
        rw [pairSteps_of_not_list (.inr houtcomes)] at hsteps
        exact .inr (.inr ⟨.inr rfl, hsteps⟩)
      | some outcomes =>
        have hcounts : items.length = outcomes.length ∧ 0 < items.length := by
          rw [areKeptWhole_iff] at hkept
          by_contra hne
          exact hkept ⟨items, outcomes, hitems, houtcomes, by omega⟩
        have hpair : pairUp items outcomes = true :=
          pairUp_iff.2 ⟨List.length_pos_iff.1 hcounts.2, hcounts.1⟩
        rw [pairSteps_of_lists hitems houtcomes, if_pos hpair] at hsteps
        exact .inr (.inl ⟨items, outcomes, rfl, rfl, hcounts.1, hsteps⟩)

/-! ### Collections -/

theorem collectionIssues_map_entry (registry : Registry) (collection : Collection) :
    (collectionIssues registry collection).map Issue.entry
      = collection.failures.map Failure.entry
        ++ collection.records.flatMap
          (fun record => (recordIssues registry record).map Issue.entry) := by
  rw [collectionIssues, List.map_append, List.map_map, List.map_flatMap]
  rfl

theorem areValid_recordIssues : areValid (recordIssues registry record) = true
    ↔ ∀ issue ∈ recordIssues registry record, issue.code ≠ "E005" := by
  have hnot := not_congr (@exists_severity_iff registry record)
  simpa [areValid] using hnot

/-- The issues of a collection are all but warnings just when there is no failure in it and no test
lacks a required field. -/
theorem areValid_collectionIssues {collection : Collection} :
    areValid (collectionIssues registry collection) = true
      ↔ collection.failures = [] ∧ ∀ record ∈ collection.records,
        ∀ issue ∈ recordIssues registry record, issue.code ≠ "E005" := by
  have hfailures : (collection.failures.map Issue.uncollected).all (·.severity != .error) = true
      ↔ collection.failures = [] := by
    cases collection.failures with
    | nil => exact iff_of_true rfl rfl
    | cons failure failures => simp [Issue.severity]
  rw [areValid, collectionIssues, List.all_append, Bool.and_eq_true, hfailures, List.all_flatMap,
    List.all_eq_true]
  exact and_congr_right fun _ => forall₂_congr fun _ _ => areValid_recordIssues

/-! ### Reading the lists

An item that cannot be cut out of its list ends a validation. Without a byte order mark this does not
happen, and where it does not happen nothing else is found than with the items as they are. -/

theorem Record.IsUnmarked.filled {steps expected : Text} (hs : record.filled? stepsField = some steps)
    (hr : record.filled? expectedField = some expected) (h : record.IsUnmarked) :
    steps.head? ≠ some byteOrderMark ∧ expected.head? ≠ some byteOrderMark := by
  rw [← value_of_filled? hs, ← value_of_filled? hr]
  exact h

theorem gives_readSteps (record : Record) :
    Gives record.readSteps record.IsUnmarked record.steps? := by
  rw [Record.readSteps, Record.steps?]
  split
  · next steps expected hs hr =>
    rw [hs, hr]
    exact ((gives_cutSteps steps expected).of_stronger (Record.IsUnmarked.filled hs hr)).map some
  · next hfilled =>
    cases hs : record.filled? Record.stepsField with
    | none => exact .ok none
    | some steps =>
      cases hr : record.filled? Record.expectedField with
      | none => exact .ok none
      | some expected => exact absurd hr (hfilled steps expected hs)

theorem gives_readStepDefects (record : Record) :
    Gives (readStepDefects record) record.IsUnmarked (stepDefects record) := by
  rw [readStepDefects]
  split
  · next steps expected hs hr =>
    have hsteps := (gives_readItems steps).of_stronger fun h : record.IsUnmarked =>
      (h.filled hs hr).1
    have hexpected := (gives_readItems expected).of_stronger fun h : record.IsUnmarked =>
      (h.filled hs hr).2
    have hpairs := (gives_cutSteps steps expected).of_stronger (Record.IsUnmarked.filled hs hr)
    rw [stepDefects, hs, hr]
    exact hsteps.bind (hexpected.bind (hpairs.bind (.ok _)))
  · exact .ok _

theorem gives_validate (registry : Registry) (record : Record) :
    Gives (validate registry record) record.IsUnmarked (recordIssues registry record) :=
  (gives_readStepDefects record).bind (.ok _)

theorem gives_validateAll (registry : Registry) (collection : Collection) :
    Gives (validateAll registry collection) (∀ record ∈ collection.records, record.IsUnmarked)
      (collectionIssues registry collection) :=
  (Gives.mapM fun record _ => gives_validate registry record).bind (.ok _)

/-- A validation that is not cut short, as none is without a byte order mark in front of the steps or
the expected results, has all of the issues and no other. Those of a test are, in this order: an error
for each required field that is absent or blank; a warning when one of the steps and the expected
results is there and the other is not, which names the one that is not; and a warning when both are
lists and yet were kept as they are, because their items are not as many or there are none. Never are
there both warnings, and a test with neither has all of its steps. A collection has an error for each
failure and then the issues of all of its tests; it is valid when there is no failure and no required
field is wanting. -/
theorem issues_exact (registry : Registry) :
    (∀ record : Record,
      let steps := record.value "steps"
      let results := record.value "expectedresults"
      let issues := recordIssues registry record
      Gives (validate registry record) record.IsUnmarked issues
        ∧ Gives record.readSteps record.IsUnmarked record.steps?
        ∧ issues.map Issue.entry
          = (registry.required.filter fun name => trim (record.value name) = []).map
              (record.entry "E005" .error)
            ++ (if steps ≠ [] ∧ results = [] then
                [record.entry "W001" .warning "expectedresults"] else [])
            ++ (if steps = [] ∧ results ≠ [] then [record.entry "W001" .warning "steps"] else [])
            ++ (if AreKeptWhole steps results then [record.entry "W002" .warning "steps"] else [])
        ∧ (AreKeptWhole steps results ↔ ∃ items outcomes, orderedItems? steps = some items
          ∧ orderedItems? results = some outcomes
          ∧ (items.length ≠ outcomes.length ∨ items.length = 0 ∧ outcomes.length = 0))
        ∧ ¬((∃ issue ∈ issues, issue.code = "W001") ∧ ∃ issue ∈ issues, issue.code = "W002")
        ∧ ((∀ issue ∈ issues, issue.code ≠ "W001" ∧ issue.code ≠ "W002") →
          (record.steps? = none ∧ steps = [] ∧ results = [])
          ∨ (∃ items outcomes, orderedItems? steps = some items
            ∧ orderedItems? results = some outcomes ∧ items.length = outcomes.length
            ∧ record.steps? = some (items.zip outcomes))
          ∨ ((orderedItems? steps = none ∨ orderedItems? results = none)
            ∧ record.steps? = some [(steps, results)])))
    ∧ ∀ collection : Collection,
      let issues := collectionIssues registry collection
      Gives (validateAll registry collection) (∀ record ∈ collection.records, record.IsUnmarked) issues
        ∧ issues.map Issue.entry
          = collection.failures.map Failure.entry
            ++ collection.records.flatMap
              (fun record => (recordIssues registry record).map Issue.entry)
        ∧ (areValid issues = true
          ↔ collection.failures = [] ∧ ∀ record ∈ collection.records,
            ∀ issue ∈ recordIssues registry record, issue.code ≠ "E005") := by
  refine ⟨fun record => ?_, fun collection => ?_⟩
  · refine ⟨gives_validate registry record, gives_readSteps record, ?_, areKeptWhole_iff, ?_,
      steps?_of_no_warning⟩
    · rw [recordIssues_map_entry, stepDefects_map_entry, List.append_assoc, List.append_assoc,
        List.append_assoc]
    · rw [exists_alone_iff, exists_uneven_iff]
      rintro ⟨⟨-, hr⟩ | ⟨hs, -⟩, hkept⟩
      · exact hkept.ne_nil.2 hr
      · exact hkept.ne_nil.1 hs
  · exact ⟨gives_validateAll registry collection, collectionIssues_map_entry registry collection,
      areValid_collectionIssues⟩

/-- A test with steps and expected results. -/
def stepsTest (steps expected : Text) : Record where
  name := "test_x"
  qualifiedId := "test_a.test_x"
  modulePath := "test_a"
  parentClass := none
  doc := none
  location := ⟨"test_a.py", 1⟩
  fields := .ofList [("id", "1"), ("steps", steps), ("expectedresults", expected)]
  markers := []
  decorators := []
  classDecorators := []
  moduleMarks := []

/-- A collection of a test with two steps and one expected result, in which a module is wanting. -/
theorem issues_exact_uneven :
    let record := stepsTest "<ol><li>a</li><li>日</li></ol>" "<ol><li>b</li></ol>"
    let collection : Collection := ⟨[("test_a.py", [record])], [.notFound "test_b.py"]⟩
    let uneven : Issue := .defect "test_a.py" "test_a.test_x" (.uneven 2 1)
    record.IsUnmarked ∧ validate .builtin record = .ok [uneven]
      ∧ validateAll .builtin collection = .ok [.uncollected (.notFound "test_b.py"), uneven] := by
  intro record collection uneven
  have hrecord : record.IsUnmarked := by decide +kernel
  have hissues : recordIssues .builtin record = [uneven]
      ∧ collectionIssues .builtin collection = [.uncollected (.notFound "test_b.py"), uneven] := by
    decide +kernel
  obtain ⟨hrecords, hcollections⟩ := issues_exact .builtin
  have hvalidate := (hrecords record).1.ok_of hrecord
  have hvalidateAll := (hcollections collection).1.ok_of (List.forall_mem_singleton.2 hrecord)
  exact ⟨hrecord, hvalidate.trans (congrArg Except.ok hissues.1),
    hvalidateAll.trans (congrArg Except.ok hissues.2)⟩

/-- Behind a byte order mark there may be nothing to cut out: this test has all it needs, and yet its
validation fails. -/
theorem validate_marked :
    let record := stepsTest "\ufeff<ol><li 日>x</li></ol>" "y"
    recordIssues .builtin record = [] ∧ validate .builtin record = .error ⟨12, 13⟩ := by
  decide +kernel

end Testbook
