import Testbook.Markup.Line
import Testbook.Registry.Problem

/-!
What can go wrong, by cause. Each cause has a code, an exit status and a text of one line; the
text names the file, where there is one.
-/

namespace Testbook

open Testbook.Text

/-- A failure. -/
inductive Failure where
  /-- a source file that is not a program; lines and columns count from one -/
  | badSyntax (path : Text) (line column : Nat) (message : Text)
  /-- nothing is at the path that was to be looked through -/
  | notFound (path : Text)
  | unreadable (path : Text) (fault : ReadFault)
  /-- a configuration that makes no sense, with the file it is from -/
  | badConfiguration (path : Option Text) (problem : ConfigurationProblem)
  /-- a field that must have a value has none -/
  | missingField (path qualifiedId field : Text)
  /-- a structured text that holds what no such text may hold -/
  | badMarkup (bad : Markup.BadCharacter)
  /-- a directory that cannot be looked through, and why -/
  | unwalkable (path message : Text)
  deriving DecidableEq, Repr

namespace Failure

/-- The code of a failure's cause. -/
def code : Failure → Text
  | badSyntax .. => "E001"
  | notFound _ => "E002"
  | unreadable .. => "E003"
  | badConfiguration .. => "E004"
  | missingField .. => "E005"
  | badMarkup _ => "E006"
  | unwalkable .. => "E007"

/-- The exit status of a program that stops at the failure. -/
def exitCode : Failure → Nat
  | badSyntax .. | missingField .. => 1
  | notFound _ | unreadable .. | unwalkable .. => 2
  | badMarkup _ => 3
  | badConfiguration .. => 4

/-- The file that the failure is about, if it is about one. -/
def path? : Failure → Option Text
  | badSyntax path .. | notFound path | unreadable path _ | missingField path .. | unwalkable path _ =>
    some path
  | badConfiguration path _ => path
  | badMarkup _ => none

/-- The test that the failure is about, if it is about one. -/
def qualifiedId? : Failure → Option Text
  | missingField _ qualifiedId _ => some qualifiedId
  | _ => none

/-- The line that the failure is about, if it is about one. -/
def line? : Failure → Option Nat
  | badSyntax _ line .. => some line
  | badMarkup bad => some bad.line
  | _ => none

/-- Where a configuration comes from, as part of a sentence. -/
def originText : Option Text → Text
  | some path => " in " ++ path
  | none => []

/-- What went wrong, behind the code. -/
def description : Failure → Text
  | badSyntax path line column message =>
    path ++ ":" ++ decimal line ++ ":" ++ decimal column ++ ": syntax error: " ++ message
  | notFound path => "path not found: " ++ path
  | unreadable path fault => "failed to read " ++ path ++ ": " ++ fault.message
  | badConfiguration path problem =>
    "configuration error" ++ originText path ++ ": " ++ problem.message
  | missingField path qualifiedId field =>
    path ++ ": " ++ qualifiedId ++ ": missing required field '" ++ field ++ "'"
  | badMarkup bad => "malformed markup at line " ++ decimal bad.line ++ ": " ++ bad.message
  | unwalkable path message => "failed to walk " ++ path ++ ": " ++ message

/-- The text of a failure. -/
def message (f : Failure) : Text := f.code ++ ": " ++ f.description

end Failure

end Testbook
