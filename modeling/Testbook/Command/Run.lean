import Testbook.Collection.Collect
import Testbook.Command.Arguments
import Testbook.Command.Filter
import Testbook.Registry.Settings
import Testbook.Report.Document
import Testbook.Report.Listing

/-!
The program as a function: from its arguments, its environment and the files around it to what it
writes and the status that it ends with. A command that cannot start ends with the status of the
failure; any other ends with one if something is wrong and with zero otherwise, whatever of it is
shown. An item that cannot be cut out of its list breaks a run off.
-/

namespace Testbook

open Testbook.Text

/-- What a run of the program leaves behind. -/
structure Outcome where
  code : Nat
  output : Text
  diagnostics : Text
  deriving DecidableEq, Repr

/-- An outcome with notices before all else that is said. -/
def Outcome.withNotices (notices : Text) (outcome : Outcome) : Outcome :=
  { outcome with diagnostics := notices ++ outcome.diagnostics }

/-- The version of the program. -/
def versionText : Text := "0.1.0"

/-! ### Loading -/

variable [Python.Recovery]

/-- The registry with the configuration in a file, if one is named. -/
def loadRegistry (files : FileSystem) : Option Path → Except Failure Registry
  | none => .ok .builtin
  | some path => match files.read path with
    | .error fault => .error (.badConfiguration (some path) (.unreadable fault))
    | .ok text => match Registry.ofToml text with
      | .error problem => .error (.badConfiguration (some path) problem)
      | .ok registry => .ok (Registry.builtin.layer registry)

/-- How to collect the tests of a place. -/
def Place.options (place : Place) : CollectOptions := ⟨place.ignored, place.base⟩

/-- The registry for a place, and its tests. -/
def load (files : FileSystem) (place : Place) : Except Failure (Registry × Collection) :=
  match loadRegistry files place.config with
  | .error failure => .error failure
  | .ok registry => (collect registry place.options files [] place.path).1.map (registry, ·)

/-! ### Tasks -/

/-- What a task comes to. -/
structure Answer where
  failed : Bool
  /-- what other programs are told, as far as it can be read -/
  data : Except Html.BadCut JsonValue
  issues : List JsonValue
  /-- what people are shown unless they want quiet -/
  listing : Text
  /-- what people are shown of the issues; the argument says whether they want quiet -/
  remarks : Bool → Text

/-- The tests of a collection as an answer. -/
def collectAnswer (showFields : Bool) (collection : Collection) : Answer where
  failed := !collection.failures.isEmpty
  data := Report.readCollection collection
  issues := collection.failures.map Report.failureJson
  listing := Report.collectionLines showFields collection
  remarks := fun _ => []

/-- The issues that a validation of tests found as an answer. -/
def validationAnswer (strict : Bool) (tests : Nat) (issues : List Issue) : Answer :=
  let failed := !areValid issues || (strict && 0 < countSeverity .warning issues)
  { failed
    data := .ok (Report.validationJson (!failed) tests issues)
    issues := issues.map Report.issueJson
    listing := Report.validationLine tests issues
    remarks := fun quiet => Report.issueLines (!quiet) issues }

/-- The requirements that a collection has as an answer. -/
def requirementsAnswer (registry : Registry) (collection : Collection) : Answer :=
  let requirements := requirementsOf registry collection.records
  { failed := !collection.failures.isEmpty
    data := .ok (Report.requirementsJson requirements)
    issues := collection.failures.map Report.failureJson
    listing := Report.requirementsLines requirements
    remarks := fun _ => [] }

/-- The answer to a task. -/
def answer (registry : Registry) (collection : Collection) : Task → Except Html.BadCut Answer
  | .collect showFields => .ok (collectAnswer showFields collection)
  | .validate strict =>
    validationAnswer strict collection.testCount <$> validateAll registry collection
  | .requirements => .ok (requirementsAnswer registry collection)

/-- The data of a task that could not start. -/
def emptyData : Task → JsonValue
  | .collect _ => Report.modulesJson [] 0
  | .validate _ => Report.validationJson false 0 []
  | .requirements => Report.requirementsJson []

/-- The status of a command that was carried out. -/
def Answer.code (answer : Answer) : Nat := if answer.failed then 1 else 0

/-- What other programs are shown of an answer with this data. -/
def Answer.document (task : Task) (answer : Answer) (data : JsonValue) : Outcome :=
  ⟨answer.code, Report.document task.name answer.failed data answer.issues, []⟩

/-- What is shown of an answer. -/
def Answer.outcome (json quiet : Bool) (task : Task) (answer : Answer) :
    Except Html.BadCut Outcome :=
  if json then answer.document task <$> answer.data
  else .ok ⟨answer.code, if quiet then [] else answer.listing, answer.remarks quiet⟩

/-- What is shown of a failure that keeps a task from being carried out. -/
def fatalOutcome (json : Bool) (task : Task) (failure : Failure) : Outcome :=
  if json then
    ⟨failure.exitCode,
      Report.document task.name true (emptyData task) [Report.failureJson failure], []⟩
  else ⟨failure.exitCode, [], Report.failureLine failure⟩

/-- Carries out a task. -/
def perform (json quiet : Bool) (files : FileSystem) (task : Task) (place : Place) :
    Except Html.BadCut Outcome :=
  match load files place with
  | .error failure => .ok (fatalOutcome json task failure)
  | .ok (registry, collection) => do
    (← answer registry collection task).outcome json quiet task

/-! ### Notices -/

/-- What there is to say about reading a configuration. -/
def configNotices (files : FileSystem) : Option Path → List Notice
  | none => []
  | some path =>
    ⟨.debug, .command, "loading configuration from " ++ path⟩ ::
      match files.read path with
      | .ok text => tomlNotices text
      | .error _ => []

/-- What there is to say about the end of a task. -/
def taskNotices (registry : Registry) (collection : Collection) : Task → List Notice
  | .requirements => [requirementNotice (requirementsOf registry collection.records)]
  | _ => []

/-- What there is to say about carrying out a task. -/
def performNotices (files : FileSystem) (task : Task) (place : Place) : List Notice :=
  configNotices files place.config
    ++ match loadRegistry files place.config with
      | .error _ => []
      | .ok registry =>
        collectNotices registry place.options files place.path
          ++ match (collect registry place.options files [] place.path).1 with
            | .error _ => []
            | .ok collection => taskNotices registry collection task

/-- The level that is shown unless another one is asked for. -/
def usualLevel (verbose quiet : Bool) : NoticeLevel :=
  if verbose then .debug else if quiet then .warning else .info

/-- The filter for the notices to show, and what is said of one that makes no sense. The environment may
name one; an empty one does not count. -/
def filterFor (verbose quiet : Bool) : Option Text → Text × Filter
  | none | some [] => ([], .startingAt (usualLevel verbose quiet))
  | some text => match readFilter text with
    | .ok filter => ([], filter)
    | .error problem =>
      ("warning: ignoring invalid CASEPORT_LOG: " ++ problem ++ "\n", .startingAt (usualLevel verbose quiet))

/-! ### The program -/

/-- What is said if no command is given. -/
def bannerText : Text :=
  "caseport v" ++ versionText ++ "\nUse --help for usage information\n"

/-- What is said of the version. -/
def versionLines (verbose : Bool) : Text :=
  "caseport " ++ versionText ++ "\n"
    ++ if verbose then
        "  parser:     tree-sitter-python\n  config:     TOML (--config or CASEPORT_CONFIG)\n"
      else ""

/-- What is said of the version to other programs. -/
def versionDocument : Text :=
  Report.document "version" false (.object [("version", .text versionText)]) []

/-- Carries out a request. -/
def Request.outcome (files : FileSystem) (request : Request) : Except Html.BadCut Outcome :=
  match request.command with
  | .banner => .ok ⟨0, if request.quiet then [] else bannerText, []⟩
  | .version =>
    .ok ⟨0, if request.json then versionDocument
      else if request.quiet then [] else versionLines request.verbose, []⟩
  | .perform task place => perform request.json request.quiet files task place

/-- What there is to say about carrying out a request. -/
def Request.notices (files : FileSystem) (request : Request) : List Notice :=
  match request.command with
  | .perform task place => performNotices files task place
  | _ => []

/-- What is shown of these notices, through the filter that the environment names. -/
def Request.noticed (filter : Option Text) (files : FileSystem) (request : Request) : Text :=
  let (problem, filter) := filterFor request.verbose request.quiet filter
  problem ++ if filter.isShut then [] else filter.lines (request.notices files)

/-- A run of the program with a request, and with the filter for notices that the environment names. -/
def Request.run (filter : Option Text) (files : FileSystem) (request : Request) :
    Except Html.BadCut Outcome :=
  Outcome.withNotices (request.noticed filter files) <$> request.outcome files

/-- How the program is used. -/
def usageText : Text :=
  "usage: caseport [-v] [-q] [--json] (collect | validate | requirements) PATH [--ignore PATH] "
    ++ "[--config FILE] [--base-dir DIR] [--fields] [--strict]\n       caseport version\n"

/-- A run of the program, with the configuration and the filter for notices that the environment
names. -/
def run (arguments : List Text) (config filter : Option Text) (files : FileSystem) :
    Except Html.BadCut Outcome :=
  match Query.ofArguments? arguments config with
  | none => .ok ⟨2, [], usageText⟩
  | some .help => .ok ⟨0, usageText, []⟩
  | some .version => .ok ⟨0, versionLines false, []⟩
  | some (.request request) => request.run filter files

end Testbook
