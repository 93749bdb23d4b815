import Testbook.Text.Basic

/-!
Notices about what the program does, for those who want to follow it. They are no results: each
has a level, and only those of the levels asked for are shown, one on a line.
-/

namespace Testbook

open Testbook.Text

/-- How much attention a notice asks for, the least first. -/
inductive NoticeLevel where
  | trace | debug | info | warning | error
  deriving DecidableEq, Repr

/-- The rank of a level. -/
def NoticeLevel.rank : NoticeLevel → Nat
  | .trace => 0
  | .debug => 1
  | .info => 2
  | .warning => 3
  | .error => 4

/-- The word in front of a notice. -/
def NoticeLevel.label : NoticeLevel → Text
  | .trace => "TRACE"
  | .debug => "DEBUG"
  | .info => "INFO"
  | .warning => "WARN"
  | .error => "ERROR"

/-- The part of the program that a notice comes from. -/
inductive Origin where
  | fields | html | registry | collector | requirement | command
  deriving DecidableEq, Repr

/-- The full name of a part of the program. -/
def Origin.target : Origin → Text
  | .fields => "caseport_core::fields"
  | .html => "caseport_core::html"
  | .registry => "caseport_core::config"
  | .collector => "caseport_core::collector"
  | .requirement => "caseport_core::requirement"
  | .command => "caseport::commands"

/-- A notice. -/
structure Notice where
  level : NoticeLevel
  origin : Origin
  text : Text
  deriving DecidableEq, Repr

/-- The line that shows a notice: the words of the levels are aligned at their ends. -/
def Notice.line (n : Notice) : Text := padLeft 5 n.level.label ++ " " ++ n.text ++ "\n"

end Testbook
