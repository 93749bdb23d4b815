import Testbook.Command.Run
import Testbook.Proofs.Collection.Defects

/-!
When the program comes to an end. What breaks a run off is an item that cannot be cut out of its
list, which takes a value with a byte order mark in front. A run that ends leaves behind what it would
with the items as they are, and it does end where no such value is read (`gives_run`).
-/

namespace Testbook

open Testbook.Text Testbook.Html

variable {registry : Registry} {collection : Collection} {files : FileSystem} {place : Place}
  {task : Task} {request : Request}

/-- Neither steps nor expected results begin with a byte order mark. -/
def Collection.IsUnmarked (collection : Collection) : Prop :=
  ∀ record ∈ collection.records, record.IsUnmarked

/-- That a task reads no steps with a byte order mark in front; the argument says whether the answer is
for other programs. -/
def Task.IsReadable (json : Bool) (collection : Collection) : Task → Prop
  | .collect _ => json = true → collection.IsUnmarked
  | .validate _ => collection.IsUnmarked
  | .requirements => True

/-! ### Documents -/

namespace Report

/-- Collected tests with their steps as they are. -/
def collectionJson (collection : Collection) : JsonValue :=
  modulesJson (collection.modules.map fun m =>
    moduleJson m.1 (m.2.map fun record => testJson record record.steps?)) collection.testCount

theorem gives_readModule (path : Path) (records : List Record) :
    Gives (readModule path records) (∀ record ∈ records, record.IsUnmarked)
      (moduleJson path (records.map fun record => testJson record record.steps?)) :=
  (Gives.mapM fun record _ => (gives_readSteps record).map (testJson record)).map _

theorem gives_readCollection (collection : Collection) :
    Gives (readCollection collection) collection.IsUnmarked (collectionJson collection) := by
  have hmodules := Gives.mapM fun m (_ : m ∈ collection.modules) => gives_readModule m.1 m.2
  refine (hmodules.of_stronger fun h m hm record hrecord => ?_).map _
  exact h record (List.mem_flatMap.2 ⟨m, hm, hrecord⟩)

end Report

/-! ### Answers -/

/-- The answer to a task with the items of lists as they are. -/
def plainAnswer (registry : Registry) (collection : Collection) : Task → Answer
  | .collect showFields => collectAnswer showFields collection
  | .validate strict =>
    validationAnswer strict collection.testCount (collectionIssues registry collection)
  | .requirements => requirementsAnswer registry collection

/-- The data of the answer to a task with the items of lists as they are. -/
def plainData (registry : Registry) (collection : Collection) : Task → JsonValue
  | .collect _ => Report.collectionJson collection
  | .validate strict =>
    let issues := collectionIssues registry collection
    let failed := (validationAnswer strict collection.testCount issues).failed
    Report.validationJson (!failed) collection.testCount issues
  | .requirements => Report.requirementsJson (requirementsOf registry collection.records)

theorem gives_answer (json : Bool) (registry : Registry) (collection : Collection) (task : Task) :
    Gives (answer registry collection task) (task.IsReadable json collection)
      (plainAnswer registry collection task) := by
  cases task with
  | collect showFields => exact .ok _
  | validate strict => exact (gives_validateAll registry collection).map _
  | requirements => exact .ok _

theorem gives_data (registry : Registry) (collection : Collection) (task : Task) :
    Gives (plainAnswer registry collection task).data (task.IsReadable true collection)
      (plainData registry collection task) := by
  cases task with
  | collect showFields => exact (Report.gives_readCollection collection).of_stronger fun h => h rfl
  | validate strict => exact .ok _
  | requirements => exact .ok _

/-! ### Runs -/

/-- What is shown of an answer that has these data. -/
def Answer.shown (json quiet : Bool) (task : Task) (answer : Answer) (data : JsonValue) : Outcome :=
  if json then answer.document task data
  else ⟨answer.code, if quiet then [] else answer.listing, answer.remarks quiet⟩

/-- What a task leaves behind with the items of lists as they are. -/
def taskOutcome [Python.Recovery] (json quiet : Bool) (files : FileSystem) (task : Task)
    (place : Place) : Outcome :=
  match load files place with
  | .error failure => fatalOutcome json task failure
  | .ok (registry, collection) =>
    (plainAnswer registry collection task).shown json quiet task (plainData registry collection task)

theorem gives_outcome (json quiet : Bool) (registry : Registry) (collection : Collection)
    (task : Task) : Gives ((plainAnswer registry collection task).outcome json quiet task)
      (task.IsReadable json collection)
      ((plainAnswer registry collection task).shown json quiet task
        (plainData registry collection task)) := by
  cases json with
  | false => exact .ok _
  | true => exact (gives_data registry collection task).map _

theorem gives_perform [Python.Recovery] (json quiet : Bool) (files : FileSystem) (task : Task) (place : Place) :
    Gives (perform json quiet files task place)
      (∀ registry collection, load files place = .ok (registry, collection) →
        task.IsReadable json collection) (taskOutcome json quiet files task place) := by
  rw [perform, taskOutcome]
  cases hload : load files place with
  | error failure => exact .ok _
  | ok loaded =>
    obtain ⟨registry, collection⟩ := loaded
    have hanswer := (gives_answer json registry collection task).bind
      (gives_outcome json quiet registry collection task)
    exact hanswer.of_stronger fun h => h registry collection rfl

/-- A run for a task that ends adds its notices to what the task leaves behind with the items of lists
as they are. It ends unless the task reads steps or expected results with a byte order mark in
front. -/
theorem gives_run [Python.Recovery] (h : request.command = .perform task place) (level : Option Text)
    (files : FileSystem) : Gives (request.run level files)
      (∀ registry collection, load files place = .ok (registry, collection) →
        task.IsReadable request.json collection)
      ((taskOutcome request.json request.quiet files task place).withNotices
        (request.noticed level files)) := by
  rw [Request.run, Request.outcome, h]
  exact (gives_perform request.json request.quiet files task place).map _

end Testbook
