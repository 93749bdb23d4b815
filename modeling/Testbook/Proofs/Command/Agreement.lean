import Testbook.Proofs.Collection.Account
import Testbook.Proofs.Command.Completion
import Testbook.Proofs.Report.Json

/-!
What the commands that collect tests have in common. The code that a run ends with and the document
that it writes for other programs depend on its task and its place alone (`code_run`,
`output_run_eq_iff`), so commands can be compared: they all stop at what keeps tests from being
collected, and otherwise a module that could not be collected is an error to each of them
(`runs_agree`). Only the document of a validation that stops lists an issue that its counts leave out
(`countsAddUp_fatal`).
-/

namespace Testbook

open Testbook.Text

variable {registry : Registry} {collection : Collection} {files : FileSystem} {place : Place}
  {task : Task} {request : Request} {failure : Failure} {level : Option Text} {outcome : Outcome}

/-! ### Documents -/

/-- What is said in a document that a command ends with. -/
structure Envelope where
  command : Text
  status : Text
  data : JsonValue
  issues : List JsonValue

namespace Envelope

/-- The document as it is written. -/
def text (e : Envelope) : Text :=
  JsonValue.write 0 (.object [("schema_version", .text "1"), ("command", .text e.command),
    ("status", .text e.status), ("data", e.data), ("issues", .array e.issues)]) ++ "\n"

/-- What is said can be told from what is written. -/
theorem text_injective : Function.Injective text := by
  intro e e' h
  have hobject := JsonValue.write_injective 0 (List.append_cancel_right h)
  obtain ⟨command, status, data, issues⟩ := e
  obtain ⟨command', status', data', issues'⟩ := e'
  simpa using hobject

/-- That a document of a validation counts the issues that it lists. -/
def CountsAddUp (e : Envelope) : Prop :=
  ∃ valid tests errors warnings, e.data = .object [("valid", .boolean valid),
      ("test_count", .number tests), ("error_count", .number errors),
      ("warning_count", .number warnings)]
    ∧ errors + warnings = e.issues.length

end Envelope

/-! ### Tasks -/

/-- The code that a task ends with. -/
def taskCode [Python.Recovery] (files : FileSystem) (place : Place) (task : Task) : Nat :=
  match load files place with
  | .error failure => failure.exitCode
  | .ok (registry, collection) => (plainAnswer registry collection task).code

/-- What an answer with these data says to other programs. -/
def Answer.envelope (task : Task) (answer : Answer) (data : JsonValue) : Envelope :=
  ⟨task.name, Report.statusText answer.failed, data, answer.issues⟩

/-- What a failure says to other programs. -/
def fatalEnvelope (task : Task) (failure : Failure) : Envelope :=
  ⟨task.name, Report.statusText true, emptyData task, [Report.failureJson failure]⟩

/-- What a task says to other programs. -/
def taskEnvelope [Python.Recovery] (files : FileSystem) (place : Place) (task : Task) : Envelope :=
  match load files place with
  | .error failure => fatalEnvelope task failure
  | .ok (registry, collection) =>
    (plainAnswer registry collection task).envelope task (plainData registry collection task)

theorem code_taskOutcome [Python.Recovery] (json quiet : Bool) (files : FileSystem) (task : Task)
    (place : Place) :
    (taskOutcome json quiet files task place).code = taskCode files place task := by
  rw [taskOutcome, taskCode]
  cases load files place with
  | error failure => cases json <;> rfl
  | ok loaded => cases json <;> rfl

theorem output_taskOutcome [Python.Recovery] (quiet : Bool) (files : FileSystem) (task : Task) (place : Place) :
    (taskOutcome true quiet files task place).output = (taskEnvelope files place task).text := by
  rw [taskOutcome, taskEnvelope]
  cases load files place with
  | error failure => rfl
  | ok loaded => rfl

theorem exitCode_ne_zero (failure : Failure) : failure.exitCode ≠ 0 := by
  cases failure <;> exact Nat.succ_ne_zero _

theorem statusText_eq_error_iff {failed : Bool} :
    Report.statusText failed = "error" ↔ failed = true := by
  cases failed <;> decide

theorem Answer.code_ne_zero_iff {answer : Answer} : answer.code ≠ 0 ↔ answer.failed = true := by
  rw [Answer.code]
  cases answer.failed <;> decide

theorem status_taskEnvelope [Python.Recovery] (files : FileSystem) (place : Place) (task : Task) :
    (taskEnvelope files place task).status = "error" ↔ taskCode files place task ≠ 0 := by
  unfold taskEnvelope taskCode
  split
  · next failure _ => exact iff_of_true rfl (exitCode_ne_zero failure)
  · exact statusText_eq_error_iff.trans Answer.code_ne_zero_iff.symm

/-! ### Runs -/

theorem run_of_request [Python.Recovery] {arguments : List Text} {config : Option Text}
    (h : Query.ofArguments? arguments config = some (.request request)) (level : Option Text)
    (files : FileSystem) : run arguments config level files = request.run level files := by
  rw [run, h]

theorem code_run [Python.Recovery] (h : request.command = .perform task place)
    (hrun : request.run level files = .ok outcome) : outcome.code = taskCode files place task := by
  rw [(gives_run h level files).eq_of_ok outcome hrun]
  exact code_taskOutcome _ _ files task place

/-- What a run shows to other programs is the document of its task and no other one. -/
theorem output_run_eq_iff [Python.Recovery] (h : request.command = .perform task place)
    (hjson : request.json = true)
    (hrun : request.run level files = .ok outcome) (e : Envelope) :
    outcome.output = e.text ↔ e = taskEnvelope files place task := by
  have houtput : outcome.output = (taskEnvelope files place task).text := by
    rw [(gives_run h level files).eq_of_ok outcome hrun, hjson]
    exact output_taskOutcome _ files task place
  rw [houtput]
  exact Envelope.text_injective.eq_iff.trans eq_comm

/-! ### Modules that fail -/

/-- That every test module at a place is collected. -/
def CollectsAll [Python.Recovery] (registry : Registry) (files : FileSystem) (place : Place) : Prop :=
  ∃ tree, files.find place.path = .ok tree
    ∧ ∀ path ∈ testModules place.options place.path tree,
      ∃ records, (collectModule registry place.options files [] path).1 = .ok records

theorem collect_of_load [Python.Recovery] (h : load files place = .ok (registry, collection)) :
    (collect registry place.options files [] place.path).1 = .ok collection := by
  unfold load at h
  split at h
  · cases h
  · next loaded _ =>
    cases hcollect : (collect loaded place.options files [] place.path).1 with
    | error failure =>
      rw [hcollect] at h
      cases h
    | ok found =>
      rw [hcollect] at h
      cases h
      exact hcollect

theorem failures_ofOutcomes_eq_nil_iff {found : List (Path × Except Failure (List Record))} :
    (Collection.ofOutcomes found).failures = []
      ↔ ∀ outcome ∈ found, ∃ records, outcome.2 = .ok records := by
  rw [Collection.ofOutcomes, List.filterMap_eq_nil_iff]
  refine forall₂_congr fun outcome _ => ?_
  obtain ⟨path, failure | records⟩ := outcome
  · simp
  · simp

theorem failures_eq_nil_iff [Python.Recovery] (h : load files place = .ok (registry, collection)) :
    collection.failures = [] ↔ CollectsAll registry files place := by
  obtain ⟨tree, hfind, rfl⟩ := place_of_collect (collect_of_load h)
  rw [failures_ofOutcomes_eq_nil_iff, List.forall_mem_map]
  constructor
  · intro hall
    exact ⟨tree, hfind, hall⟩
  · rintro ⟨tree', hfind', hall⟩
    rw [hfind] at hfind'
    cases hfind'
    exact hall

/-- What could not be collected is an error to a validation. -/
theorem failures_of_areValid (h : areValid (collectionIssues registry collection) = true) :
    collection.failures = [] := by
  rw [areValid, collectionIssues, List.all_append, Bool.and_eq_true] at h
  rw [List.eq_nil_iff_forall_not_mem]
  intro failure hfailure
  have hissue := List.all_eq_true.1 h.1 _ (List.mem_map_of_mem hfailure)
  cases hissue

theorem countSeverity_error_add_warning (issues : List Issue) :
    countSeverity .error issues + countSeverity .warning issues = issues.length := by
  rw [countSeverity, countSeverity, List.length_eq_countP_add_countP (·.severity = .error)]
  congr 1
  refine List.countP_congr fun issue _ => ?_
  cases issue.severity <;> decide

/-! ### Agreement -/

/-- That the runs with a request for a task at a place, as far as they end, end with a code, and show a
document and no other one if they are for other programs. -/
structure EndsWith [Python.Recovery] (files : FileSystem) (place : Place) (code : Task → Nat)
    (envelope : Task → Envelope) : Prop where
  code (request : Request) (level : Option Text) (task : Task) (outcome : Outcome) :
    request.command = .perform task place → request.run level files = .ok outcome →
      outcome.code = code task
  output (request : Request) (level : Option Text) (task : Task) (outcome : Outcome) :
    request.command = .perform task place → request.json = true →
      request.run level files = .ok outcome →
      ∀ e : Envelope, outcome.output = e.text ↔ e = envelope task

/-- That the runs with a request for a task at a place all end at a failure, with its code, and show
nothing but the failure. -/
structure StopsAt [Python.Recovery] (files : FileSystem) (place : Place) (code : Task → Nat)
    (envelope : Task → Envelope) (failure : Failure) : Prop where
  code (task : Task) : code task = failure.exitCode
  envelope (task : Task) : envelope task
    = ⟨task.name, "error", emptyData task, [Report.failureJson failure]⟩
  ends (request : Request) (level : Option Text) (task : Task) :
    request.command = .perform task place → ∃ outcome, request.run level files = .ok outcome
  shown (request : Request) (level : Option Text) (task : Task) :
    request.command = .perform task place → request.json = false →
      ∃ notices, request.run level files
        = .ok ⟨failure.exitCode, [], notices ++ Report.failureLine failure⟩

/-- That the commands agree on whether all tests at a place could be collected. Runs end unless they
read steps or expected results with a byte order mark in front. -/
structure AgreesOn [Python.Recovery] (registry : Registry) (collection : Collection) (files : FileSystem)
    (place : Place) (code : Task → Nat) (envelope : Task → Envelope) : Prop where
  ends (request : Request) (level : Option Text) (task : Task) :
    request.command = .perform task place → task.IsReadable request.json collection →
      ∃ outcome, request.run level files = .ok outcome
  collect (showFields : Bool) : code (.collect showFields) = code .requirements
  requirements : code .requirements = 0 ↔ CollectsAll registry files place
  validate (strict : Bool) : code (.validate strict) = 0 → code .requirements = 0
  counts (strict : Bool) : (envelope (.validate strict)).CountsAddUp

theorem endsWith_taskCode [Python.Recovery] (files : FileSystem) (place : Place) :
    EndsWith files place (taskCode files place) (taskEnvelope files place) where
  code _ _ _ _ h hrun := code_run h hrun
  output _ _ _ _ h hjson hrun e := output_run_eq_iff h hjson hrun e

/-- A run that stops at a failure ends. -/
theorem run_of_load_error [Python.Recovery] (hload : load files place = .error failure)
    (h : request.command = .perform task place) (level : Option Text) :
    request.run level files = .ok ((fatalOutcome request.json task failure).withNotices
      (request.noticed level files)) := by
  have hrun := (gives_run h level files).ok_of fun registry collection hloaded => by
    rw [hload] at hloaded
    cases hloaded
  rw [hrun, taskOutcome, hload]

theorem stopsAt_of_load [Python.Recovery] (h : load files place = .error failure) :
    StopsAt files place (taskCode files place) (taskEnvelope files place) failure where
  code task := by rw [taskCode, h]
  envelope task := by
    rw [taskEnvelope, h]
    rfl
  ends _ level _ hcommand := ⟨_, run_of_load_error h hcommand level⟩
  shown request level task hcommand hjson := by
    refine ⟨request.noticed level files, ?_⟩
    rw [run_of_load_error h hcommand level, hjson]
    rfl

theorem agreesOn_of_load [Python.Recovery] (h : load files place = .ok (registry, collection)) :
    AgreesOn registry collection files place (taskCode files place) (taskEnvelope files place) := by
  have hcode (task : Task) :
      taskCode files place task = (plainAnswer registry collection task).code := by
    rw [taskCode, h]
  have hzero (task : Task) :
      taskCode files place task = 0 ↔ (plainAnswer registry collection task).failed = false := by
    rw [hcode, ← not_iff_not, Bool.not_eq_false]
    exact Answer.code_ne_zero_iff
  have hfailures : taskCode files place .requirements = 0 ↔ collection.failures = [] := by
    rw [hzero]
    simp [plainAnswer, requirementsAnswer]
  refine ⟨fun request level task hcommand hreadable => ?_, fun showFields => ?_, ?_,
    fun strict => ?_, fun strict => ?_⟩
  · refine ⟨_, (gives_run hcommand level files).ok_of fun registry' collection' hload => ?_⟩
    rw [h] at hload
    cases hload
    exact hreadable
  · rw [hcode, hcode]
    rfl
  · exact hfailures.trans (failures_eq_nil_iff h)
  · rw [hzero, hfailures]
    intro hvalid
    have hissues : areValid (collectionIssues registry collection) = true := by
      simpa using (Bool.or_eq_false_iff.1 hvalid).1
    exact failures_of_areValid hissues
  · rw [taskEnvelope, h]
    refine ⟨_, _, _, _, rfl, ?_⟩
    rw [countSeverity_error_add_warning]
    exact (List.length_map _).symm

theorem code_strict [Python.Recovery] (h : taskCode files place (.validate false) ≠ 0) :
    taskCode files place (.validate true) ≠ 0 := by
  unfold taskCode at h ⊢
  split
  · next failure _ => exact exitCode_ne_zero failure
  · next registry collection hload =>
    rw [hload] at h
    have hfailed := Answer.code_ne_zero_iff.1 h
    refine Answer.code_ne_zero_iff.2 ?_
    simp only [plainAnswer, validationAnswer, Bool.or_eq_true, Bool.false_and, Bool.false_eq_true,
      or_false] at hfailed ⊢
    exact .inl hfailed

/-- The commands agree on what fails at a place, whatever is asked to be shown. Either all of them stop
at one failure, with its code, or those that list tests and requirements fail if and only if a module
could not be collected, and a validation fails then too. A strict validation fails where a plain one
does. A document says that there is an error if and only if the code is not zero, and that of a
validation that was carried out counts the issues that it lists. Of a run that does not end, because
steps or expected results that it reads begin with a byte order mark, nothing is said. -/
theorem runs_agree [Python.Recovery] (files : FileSystem) (place : Place) :
    ∃ (code : Task → Nat) (envelope : Task → Envelope), EndsWith files place code envelope
      ∧ (∀ task, (envelope task).status = "error" ↔ code task ≠ 0)
      ∧ (code (.validate false) ≠ 0 → code (.validate true) ≠ 0)
      ∧ ((∃ failure, load files place = .error failure ∧ StopsAt files place code envelope failure)
        ∨ ∃ registry collection, load files place = .ok (registry, collection)
          ∧ AgreesOn registry collection files place code envelope) := by
  refine ⟨taskCode files place, taskEnvelope files place, endsWith_taskCode files place,
    status_taskEnvelope files place, code_strict, ?_⟩
  cases h : load files place with
  | error failure => exact .inl ⟨failure, rfl, stopsAt_of_load h⟩
  | ok loaded => exact .inr ⟨loaded.1, loaded.2, rfl, agreesOn_of_load h⟩

theorem not_countsAddUp_fatalEnvelope (strict : Bool) (failure : Failure) :
    ¬ (fatalEnvelope (.validate strict) failure).CountsAddUp := by
  rintro ⟨valid, tests, errors, warnings, hdata, hsum⟩
  cases hdata
  exact Nat.zero_ne_one hsum

/-- A validation of a place with nothing there lists one issue and counts none. -/
theorem countsAddUp_fatal : ∃ (outcome : Outcome) (e : Envelope),
    run ["--json", "validate", "nope"] none (some "off") FileTree.empty = .ok outcome
    ∧ (∀ e' : Envelope, outcome.output = e'.text ↔ e' = e)
    ∧ e.command = "validate" ∧ e.issues = [Report.failureJson (.notFound "nope")]
    ∧ ¬ e.CountsAddUp := by
  have hrequest : Query.ofArguments? ["--json", "validate", "nope"] none
      = some (.request ⟨false, false, true, .perform (.validate false) ⟨"nope", [], none, none⟩⟩) := by
    decide +kernel
  have hload : load FileTree.empty ⟨"nope", [], none, none⟩ = .error (.notFound "nope") := rfl
  have hrun := (run_of_request hrequest (some "off") FileTree.empty).trans
    (run_of_load_error hload rfl (some "off"))
  refine ⟨_, fatalEnvelope (.validate false) (.notFound "nope"), hrun, fun e' => ?_, rfl, rfl,
    not_countsAddUp_fatalEnvelope _ _⟩
  rw [output_run_eq_iff rfl rfl (run_of_load_error hload rfl (some "off")), taskEnvelope, hload]

end Testbook
