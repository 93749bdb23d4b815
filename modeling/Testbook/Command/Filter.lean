import Testbook.Notice
import Testbook.Text.Digits

/-!
Filters for notices. A filter is a row of directives with commas between them. A directive names the
front of the parts of the program that it is about, or none, and the level from which their notices are
shown; it may also name data that a notice must hold. Of the directives that concern a notice the most
specific one decides whether it is shown, and the last one of those that are equally specific.
-/

namespace Testbook

open Testbook.Text

/-! ### Levels -/

/-- The words for levels; none at all is shown for the first. -/
def levelWords : List (Text × Option NoticeLevel) := [
  ("off", none), ("error", some .error), ("warn", some .warning), ("info", some .info),
  ("debug", some .debug), ("trace", some .trace)]

/-- The level that a text stands for: a word in either case, its number, or nothing for errors. -/
def levelOf? (text : Text) : Option (Option NoticeLevel) :=
  let digits := (dropStart? "+" text).getD text
  if text.isEmpty then some (some .error)
  else if !digits.isEmpty && digits.all Char.isDigit then
    (levelWords[numeralValue 10 digits]?).map (·.2)
  else levelWords.lookup (text.map Char.toLower)

/-! ### Directives -/

/-- From which level on notices are shown; none are if there is no level. -/
structure Directive where
  target : Option Text := none
  fields : List Text := []
  level : Option NoticeLevel
  deriving DecidableEq, Repr

namespace Directive

/-- Whether a directive concerns a notice. A notice holds its text and no other data. -/
def concerns (d : Directive) (n : Notice) : Bool :=
  d.target.all (·.isPrefixOf n.origin.target) && d.fields.all (· = "message")

/-- Whether a directive is at most as specific as another one: the length of the target counts first,
then how many data it names. -/
def isAtMost (d other : Directive) : Bool :=
  let length (d : Directive) := (d.target.map fun target => target.length + 1).getD 0
  length d < length other || (length d = length other && d.fields.length ≤ other.fields.length)

/-- Whether a directive shows a notice that it concerns. -/
def shows (d : Directive) (n : Notice) : Bool := d.level.any fun level => level.rank ≤ n.level.rank

end Directive

/-- Cuts a text at the first occurrence of `part`, and drops it. -/
def cutAt? (part : Text) : Text → Option (Text × Text)
  | [] => none
  | c :: cs => match dropStart? part (c :: cs) with
    | some rest => some ([], rest)
    | none => (cutAt? part cs).map fun (before, rest) => (c :: before, rest)

/-- Drops `ending` from the end of a text as often as it stands there; `limit` bounds how often. -/
def dropEnds (ending : Text) : Nat → Text → Text
  | 0, text => text
  | limit + 1, text => match dropEnd? ending text with
    | some front => dropEnds ending limit front
    | none => text

/-- The target of a directive, with the data that it names behind it in brackets. -/
def readTarget (text : Text) : Except Text (Text × List Text) :=
  match cutAt? "[\x7b" text with
  | none => .ok (text, [])
  | some (target, rest) =>
    if (cutAt? "[\x7b" rest).isSome then
      .error "invalid filter directive: too many '[\x7b' in filter directive, expected 0 or 1"
    else if (dropEnd? "\x7d]" rest).isNone then
      .error "invalid filter directive: expected fields list to end with '\x7d]'"
    else .ok (target, (splitOn ',' (dropEnds "\x7d]" rest.length rest)).filter (!·.isEmpty))

/-- A directive: a level, a target, or a target and a level with an equals sign between them. All is
shown of a target alone. -/
def readDirective (text : Text) : Except Text Directive :=
  match splitOn '=' text with
  | [word] => match levelOf? word with
    | some level => .ok { level }
    | none => .ok { target := some word, level := some .trace }
  | [place, word] => do
    let (target, fields) ← readTarget place
    match levelOf? word with
    | some level => return { target, fields, level }
    | none => .error ("error parsing level filter: expected one of \"off\", \"error\", \"warn\", "
        ++ "\"info\", \"debug\", \"trace\", or a number 0-5")
  | _ => .error "invalid filter directive: too many '=' in filter directive, expected 0 or 1"

/-! ### Filters -/

/-- A filter for notices. -/
abbrev Filter := List Directive

/-- The directives in a text, or what is wrong with the first that makes no sense. -/
def readFilter (text : Text) : Except Text Filter := (splitOn ',' text).mapM readDirective

namespace Filter

/-- The filter that shows all notices from a level on. -/
def startingAt (level : NoticeLevel) : Filter := [{ level := some level }]

/-- The directive that decides about a notice. -/
def decisive? (filter : Filter) (n : Notice) : Option Directive :=
  (filter.filter (·.concerns n)).foldl
    (fun best d => if best.all (·.isAtMost d) then some d else best) none

/-- Whether a notice is shown. -/
def shows (filter : Filter) (n : Notice) : Bool := (filter.decisive? n).any (·.shows n)

/-- Whether nothing is shown, whatever the notices are. -/
def isShut (filter : Filter) : Bool := filter.all (·.level.isNone)

/-- The lines of the notices that are shown. -/
def lines (filter : Filter) (notices : List Notice) : Text := (notices.filter filter.shows).flatMap Notice.line

end Filter

end Testbook
