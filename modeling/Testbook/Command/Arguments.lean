import Testbook.Path

/-!
What can be asked for on a command line. Arguments are first told apart into switches, options
with a value and plain values; they are then gathered into a request (`Query.ofArguments?`), which
fails if they make no sense. Asking for help or for the version ends the reading at once, whatever
stands behind.
-/

namespace Testbook

open Testbook.Text

/-- What to do with collected tests. -/
inductive Task where
  | collect (showFields : Bool)
  | validate (strict : Bool)
  | requirements
  deriving DecidableEq, Repr

/-- The name of the command for a task. -/
def Task.name : Task → Text
  | collect _ => "collect"
  | validate _ => "validate"
  | requirements => "requirements"

/-- Where to collect tests, and how. -/
structure Place where
  path : Path
  ignored : List Path
  config : Option Path
  base : Option Path
  deriving DecidableEq, Repr

/-- The commands. -/
inductive Command where
  /-- what is done if no command is given -/
  | banner
  | version
  | perform (task : Task) (place : Place)
  deriving DecidableEq, Repr

/-- A command, and how to report on it. -/
structure Request where
  verbose : Bool
  quiet : Bool
  json : Bool
  command : Command
  deriving DecidableEq, Repr

/-- What the program is asked: for help, for its version as an option asks for it, or to do something. -/
inductive Query where
  | help
  | version
  | request (request : Request)
  deriving DecidableEq, Repr

/-- An argument. -/
inductive Argument where
  | switch (name : Text)
  | option (name value : Text)
  | value (text : Text)
  /-- two dashes, behind which there are plain values only -/
  | separator
  /-- what makes no sense wherever it stands -/
  | stray
  deriving DecidableEq, Repr

/-- The names of options that have values. -/
def valuedOptions : List Text := ["ignore", "config", "base-dir"]

/-- Whether an argument can be the value of an option. -/
def isOptionValue : Text → Bool
  | [] => false
  | ['-'] => true
  | c :: _ => c != '-'

/-- The switch that a letter stands for. -/
def switchOf : Char → Argument
  | 'v' => .switch "verbose"
  | 'q' => .switch "quiet"
  | 'h' => .switch "help"
  | 'V' => .switch "version"
  | _ => .stray

/-- Cuts a text at the first equals sign. -/
def cutAtEquals (text : Text) : Text × Option Text :=
  (text.takeWhile (· != '='), (text.dropWhile (· != '=')).tail?)

/-- Tells arguments apart. -/
def readArguments : List Text → List Argument
  | [] => []
  | ['-', '-'] :: rest => .separator :: rest.map .value
  | ('-' :: '-' :: long) :: rest =>
    match cutAtEquals long, rest with
    | (name, some value), rest =>
      if valuedOptions.contains name then .option name value :: readArguments rest else [.stray]
    | (name, none), [] => if valuedOptions.contains name then [.stray] else [.switch name]
    | (name, none), value :: rest =>
      if valuedOptions.contains name then
        if isOptionValue value then .option name value :: readArguments rest else [.stray]
      else .switch name :: readArguments (value :: rest)
  | ('-' :: c :: letters) :: rest => (c :: letters).map switchOf ++ readArguments rest
  | text :: rest => .value text :: readArguments rest

/-- A request in the making. -/
structure RequestDraft where
  verbose : Bool := false
  quiet : Bool := false
  json : Bool := false
  command : Option Text := none
  /-- the command that help is asked for -/
  topic : Option Text := none
  showFields : Bool := false
  strict : Bool := false
  path : Option Path := none
  ignored : List Path := []
  config : Option Path := none
  base : Option Path := none
  isSeparated : Bool := false

namespace RequestDraft

/-- The commands that collect tests. -/
def collecting : List Text := ["collect", "validate", "requirements"]

/-- All commands. -/
def commands : List Text := "version" :: "help" :: collecting

/-- Whether the command so far is one that collects tests. -/
def isCollecting (draft : RequestDraft) : Bool := draft.command.any collecting.contains

/-- The draft with a switch. -/
def addSwitch (draft : RequestDraft) (name : Text) : Option RequestDraft :=
  if name = "verbose" then some { draft with verbose := true }
  else if name = "quiet" then some { draft with quiet := true }
  else if name = "json" then some { draft with json := true }
  else if name = "fields" ∧ draft.command = some "collect" then
    some { draft with showFields := true }
  else if name = "strict" ∧ draft.command = some "validate" then some { draft with strict := true }
  else none

/-- The draft with an option. -/
def addOption (draft : RequestDraft) (name value : Text) : Option RequestDraft :=
  if !draft.isCollecting || value.isEmpty then none
  else if name = "ignore" then some { draft with ignored := draft.ignored ++ [value] }
  else if name = "config" ∧ draft.config = none then some { draft with config := some value }
  else if name = "base-dir" ∧ draft.base = none then some { draft with base := some value }
  else none

/-- The draft with a plain value: the first is the command, the second the path, or the command that
help is asked for. -/
def addValue (draft : RequestDraft) (value : Text) : Option RequestDraft :=
  match draft.command with
  | none =>
    if commands.contains value && !draft.isSeparated then some { draft with command := some value }
    else none
  | some command =>
    if command = "help" then
      if commands.contains value && draft.topic.isNone then some { draft with topic := some value }
      else none
    else if draft.isCollecting && draft.path.isNone && !value.isEmpty then
      some { draft with path := some value }
    else none

/-- The draft with one more argument. Behind the command for help there is nothing but a command. -/
def add (draft : RequestDraft) (argument : Argument) : Option RequestDraft :=
  match argument with
  | .value text => draft.addValue text
  | .stray => none
  | argument =>
    if draft.command = some "help" then none
    else match argument with
      | .switch name => draft.addSwitch name
      | .option name value => draft.addOption name value
      | _ => some { draft with isSeparated := true }

/-- The task that a draft asks for. -/
def task (draft : RequestDraft) : Task :=
  if draft.command = some "collect" then .collect draft.showFields
  else if draft.command = some "validate" then .validate draft.strict
  else .requirements

/-- The command that a draft asks for. A configuration may be named by the environment too, but an
option is stronger. -/
def command? (draft : RequestDraft) (config : Option Path) : Option Command :=
  if draft.command = none then some .banner
  else if draft.isCollecting then do
    let path ← draft.path
    let config := draft.config.or config
    if config = some [] then none
    else return .perform draft.task ⟨path, draft.ignored, config, draft.base⟩
  else some .version

/-- What a draft asks for in the end. -/
def query? (draft : RequestDraft) (config : Option Path) : Option Query :=
  if draft.command = some "help" then some .help
  else (draft.command? config).map fun command =>
    .request ⟨draft.verbose, draft.quiet, draft.json, command⟩

/-- What a switch asks for that ends the reading. The version can be asked for only in front of a
command. -/
def queryOf? (draft : RequestDraft) : Argument → Option Query
  | .switch name =>
    if draft.command = some "help" then none
    else if name = "help" then some .help
    else if name = "version" ∧ draft.command = none then some .version
    else none
  | _ => none

/-- What a draft with more arguments asks for. -/
def query (draft : RequestDraft) (config : Option Path) : List Argument → Option Query
  | [] => draft.query? config
  | argument :: rest => match draft.queryOf? argument with
    | some query => some query
    | none => (draft.add argument).bind (query · config rest)

end RequestDraft

/-- What arguments ask for, with the configuration that the environment names. -/
def Query.ofArguments? (arguments : List Text) (config : Option Path) : Option Query :=
  RequestDraft.query {} config (readArguments arguments)

end Testbook
