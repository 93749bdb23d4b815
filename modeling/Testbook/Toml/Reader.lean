import Testbook.Text.Digits

/-!
Readers of TOML: functions from a text to what stands at its front and the text behind it, or
nothing where the text is not as it must be.
-/

namespace Testbook.Toml

open Testbook.Text

/-- A reader. -/
abbrev Reader := StateT Text Option

/-- The next character, which stays unread. -/
def peek : Reader (Option Char) := return (← get).head?

/-- Reads the given text. -/
def expect (word : Text) : Reader Unit := do
  set (← dropStart? word (← get))

/-- Reads the given text if it is next, and tells whether it was. -/
def expect? (word : Text) : Reader Bool := fun text =>
  match dropStart? word text with
  | some rest => some (true, rest)
  | none => some (false, text)

/-- Reads all characters of a kind. -/
def span (kind : Char → Bool) : Reader Text := fun text =>
  some (text.takeWhile kind, text.dropWhile kind)

/-- What a reader reads, if it can. -/
def optional {α : Type} (reader : Reader α) : Reader (Option α) := fun text =>
  match reader text with
  | some (a, rest) => some (some a, rest)
  | none => some (none, text)

/-- Repeats a step until it yields a result, at most `n` times. -/
def iterate {σ α : Type} (step : σ → Reader (σ ⊕ α)) : Nat → σ → Reader α
  | 0, _ => failure
  | n + 1, s => do
    match ← step s with
    | .inl s => iterate step n s
    | .inr a => return a

/-- Repeats a step until it yields a result; each repetition reads something. -/
def repeating {σ α : Type} (step : σ → Reader (σ ⊕ α)) (s : σ) : Reader α := do
  iterate step ((← get).length + 1) s

/-! ### Between the values -/

/-- Blanks within a line. -/
def isSpace (c : Char) : Bool := c = ' ' || c = '\t'

/-- Whether a character may stand in a comment: no control character but the tab may. -/
def isVisible (c : Char) : Bool := c = '\t' || (0x20 ≤ c.toNat && c.toNat != 0x7F)

/-- Reads blanks. -/
def spaces : Reader Unit := do
  let _ ← span isSpace

/-- Reads the end of a line if it is next, and tells whether it was. -/
def lineBreak? : Reader Bool := do
  if ← expect? ['\n'] then return true else expect? ['\r', '\n']

/-- Reads a comment if there is one, up to the end of its line. -/
def comment? : Reader Unit := do
  if (← peek) = some '#' then
    let _ ← span isVisible

/-- Reads what may stand behind a value or header: blanks, a comment, and the end of the line or
of the text. -/
def lineEnd : Reader Unit := do
  spaces
  comment?
  if !(← get).isEmpty then
    if !(← lineBreak?) then failure

/-- Reads blanks, comments and line breaks, as they may stand between the values of an array. -/
def gap : Reader Unit :=
  repeating (fun _ => do
    spaces
    let marked := (← peek) = some '#'
    comment?
    if ← lineBreak? then return .inl ()
    else if marked then failure
    else return .inr ()) ()

end Testbook.Toml
