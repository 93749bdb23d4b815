import Testbook.Python.Cursor
import Testbook.Python.Syntax

/-!
Readers of program text: functions from a cursor to what was read and the cursor behind it. A
`Grammar` bundles the readers of the constructs that nest; each reader is defined over a grammar
for the constructs within, so that the readers themselves do not recurse.
-/

namespace Testbook.Python

open Testbook.Text

/-- Why a program text cannot be read: a parameter list is not closed, where the given text goes
on, or the text is not a program for any other reason. -/
inductive Fault where
  | missingParenthesis (rest : Text)
  | invalid

/-- A reader of program text. -/
abbrev Reader := StateT Cursor (Except Fault)

/-- The readers of nested constructs, the text they read from, and how many steps a loop in it may
take at most. -/
structure Grammar where
  source : Text
  steps : Nat
  /-- an expression of a level, where the first lexeme and the one behind are expected -/
  expression : Nat → Expect → Expect → Reader Expr
  /-- operands joined by operators of at least a given strength -/
  binary : Nat → Expect → Expect → Reader Expr
  /-- a type, where the lexeme behind is expected -/
  typeHint : Expect → Reader Unit
  /-- a pattern of a case, where the lexeme behind is expected -/
  casePattern : Expect → Reader Unit
  /-- a statement, within a block or not -/
  statement : Bool → Reader (List Stmt)

/-- The grammar that reads nothing. -/
def Grammar.nothing (source : Text) : Grammar where
  source := source
  steps := 0
  expression _ _ _ := throw .invalid
  binary _ _ _ := throw .invalid
  typeHint _ := throw .invalid
  casePattern _ := throw .invalid
  statement _ := throw .invalid

/-- Fails. -/
def refuse {α : Type} : Reader α := throw .invalid

/-- The next lexeme, which stays unread. -/
def peek (e : Expect) : Reader Lexeme := return next e (← get)

/-- Reads a lexeme that was looked at. -/
def take (l : Lexeme) : Reader Unit := set l.after

/-- The second reader where the first fails. -/
def either {α : Type} (first second : Reader α) : Reader α := fun c =>
  match first c with
  | .ok r => .ok r
  | .error _ => second c

/-- Repeats a step until it yields a result, at most `n` times. -/
def iterate {σ α : Type} (step : σ → Reader (σ ⊕ α)) : Nat → σ → Reader α
  | 0, _ => refuse
  | n + 1, s => do
    match ← step s with
    | .inl s => iterate step n s
    | .inr a => return a

/-- Whether a lexeme is the given operator. -/
def Lexeme.isOp (l : Lexeme) (symbol : String) : Bool := l.token = .op symbol

/-- Whether a lexeme is the given word. -/
def Lexeme.isWord (l : Lexeme) (word : String) : Bool := l.token = .word word.toList

/-- Reads the given operator. -/
def readOp (e : Expect) (symbol : String) : Reader Unit := do
  let l ← peek e
  if l.isOp symbol then take l else refuse

/-- Reads the given operator if it is next, and tells whether it was. -/
def readOp? (e : Expect) (symbol : String) : Reader Bool := do
  let l ← peek e
  if l.isOp symbol then
    take l
    return true
  else return false

/-- Reads the given word. -/
def readWord (e : Expect) (word : String) : Reader Unit := do
  let l ← peek e
  if l.isWord word then take l else refuse

/-- Reads the given word if it is next, and tells whether it was. -/
def readWord? (e : Expect) (word : String) : Reader Bool := do
  let l ← peek e
  if l.isWord word then
    take l
    return true
  else return false

/-- Reads a name, for which any word will do. -/
def readName : Reader Text := do
  let l ← peek {}
  match l.token with
  | .word w =>
    take l
    return w
  | _ => refuse

/-- The text from `start` up to the cursor. -/
def textSince (start : Text) : Reader Text := do
  let c ← get
  return start.take (start.length - c.rest.length)

/-- What was read since `start`, kept as it was written. -/
def verbatimSince (start : Text) : Reader Expr := return .verbatim (← textSince start)

/-- The line continuations in front of a lexeme, as parts of a list. -/
def Lexeme.gap (l : Lexeme) : List Expr := l.continuations.map .verbatim

/-- Nothing but words, numbers, operators and strings are expected. -/
def operandNext : Expect := { string := true }

/-- A bracket may close. -/
def closerNext : Expect := { closer := true }

/-- The line may end. -/
def newlineNext : Expect := { newline := true }

/-- An operand is expected as well. -/
def Expect.orOperand (e : Expect) : Expect := { e with string := true }

end Testbook.Python
