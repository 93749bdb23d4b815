import Testbook.Python.Reader

/-!
String literals in program text. Between its quotes a literal holds content, escape sequences and
interpolated expressions. A line may end within a literal with single quotes only where nothing
but blanks stand before it in the stretch of content that it would break.
-/

namespace Testbook.Python

open Testbook.Text

/-- Where a stretch of content ends: at a place from which reading goes on, at the closing quotes,
or where there is no content to be read. -/
inductive Stretch where
  | content (rest : Text)
  | finish (rest : Text)
  | stop

/-- A stretch that ends in front of a text, if it holds anything. -/
def Stretch.upTo (isNonempty : Bool) (rest : Text) : Stretch :=
  if isNonempty then .content rest else .stop

/-- What is left behind a line break, if there is one at the front of a text. -/
def dropBreak : Text → Text
  | '\r' :: '\n' :: rest => rest
  | '\r' :: rest => rest
  | '\n' :: rest => rest
  | rest => rest

/-- What is left behind a backslash in a raw literal: a quote or backslash, and a line break,
belong to it. -/
def dropRawEscape (quote : Char) : Text → Text
  | [] => []
  | c :: cs => if c = quote || c = '\\' then dropBreak cs else dropBreak (c :: cs)

theorem length_dropBreak_le (text : Text) : (dropBreak text).length ≤ text.length := by
  unfold dropBreak
  split <;> simp
  omega

theorem length_dropRawEscape_le (quote : Char) (text : Text) :
    (dropRawEscape quote text).length ≤ text.length := by
  cases text with
  | nil => simp [dropRawEscape]
  | cons c cs =>
    simp only [dropRawEscape]
    split
    · exact Nat.le_succ_of_le (length_dropBreak_le cs)
    · exact length_dropBreak_le (c :: cs)

/-- The stretch of content at the front of a text. -/
def readStretch (o : Opening) (isNonempty : Bool) (text : Text) : Stretch :=
  match text with
  | [] => .stop
  | c :: cs =>
    if o.format && (c = '{' || c = '}') then .upTo isNonempty (c :: cs)
    else if c = '\\' then
      if o.raw then readStretch o isNonempty (dropRawEscape o.quote cs)
      else if o.bytes && cs.head?.any (· ∈ ['N', 'u', 'U']) then readStretch o true (cs.drop 1)
      else .upTo isNonempty (c :: cs)
    else if c = o.quote then
      if o.triple then
        match cs with
        | a :: b :: rest =>
          if a = c && b = c then
            if isNonempty then .content (c :: cs) else .finish rest
          else if a = c then .content (b :: rest)
          else .content cs
        | [a] => if a = c then .content [] else .content cs
        | [] => .content []
      else if isNonempty then .content (c :: cs) else .finish cs
    else if c = '\n' && isNonempty && !o.triple then .stop
    else readStretch o true cs
termination_by text.length
decreasing_by
  · exact Nat.lt_succ_of_le (length_dropRawEscape_le _ _)
  · simp only [List.length_drop, List.length_cons]; omega
  · exact Nat.lt_succ_self _

/-- The length of an escape sequence behind its backslash, one or more, or zero if there is none. -/
def escapeLength : Text → Nat
  | 'u' :: rest => if hexPrefixed 4 rest then 5 else 0
  | 'U' :: rest => if hexPrefixed 8 rest then 9 else 0
  | 'x' :: rest => if hexPrefixed 2 rest then 3 else 0
  | 'N' :: '{' :: rest =>
    let name := rest.takeWhile (· != '}')
    if name.isEmpty || name.length = rest.length then 0 else name.length + 3
  | '\n' :: _ => 1
  | '\r' :: '\n' :: _ => 2
  | c :: rest =>
    if c.isDigit then 1 + ((rest.take 2).takeWhile Char.isDigit).length
    else if (simpleEscape? c).isSome then 1 else 0
  | [] => 0
where
  /-- Whether a text starts with `n` hexadecimal digits. -/
  hexPrefixed (n : Nat) (text : Text) : Bool := ((text.take n).takeWhile isHexDigit).length = n

/-- The pieces of a literal that were read, the last first, and the content read since. -/
structure Pieces where
  done : List Expr
  content : Text

/-- The pieces with the content read since as one of them. -/
def Pieces.flush (p : Pieces) : List Expr :=
  if p.content.isEmpty then p.done else .chunk p.content :: p.done

/-- Whether a token can begin an expression. -/
def Token.startsExpression : Token → Bool
  | .word _ | .integer _ | .float _ | .opening _ => true
  | .op symbol => symbol ∈ ["(", "[", "\x7b", "+", "-", "~", "*", "..."]
  | _ => false

/-- Expressions with commas between them, as they stand without brackets: one by itself, or a
tuple when there is a comma. -/
def readExpressions (g : Grammar) (opening after : Expect) : Reader Expr := do
  let first ← g.expression 0 opening after
  iterate (fun (items, isTuple) => do
    let comma ← peek after
    if !comma.isOp "," then
      return .inr (if isTuple then .display .round items else first)
    take comma
    let l ← peek after.orOperand
    if l.token.startsExpression then
      let item ← g.expression 0 after after
      return .inl (items ++ comma.gap ++ l.gap ++ [item], true)
    else return .inl (items ++ comma.gap, true)) g.steps ([first], false)

/-- A yield expression, of which the first word is next; it stays as it was written. -/
def readYield (g : Grammar) (l : Lexeme) (after : Expect) : Reader Expr := do
  take l
  if ← readWord? after.orOperand "from" then
    let _ ← g.expression 0 {} after
  else
    let l ← peek after.orOperand
    if l.token.startsExpression then
      let _ ← readExpressions g after after
  verbatimSince l.start

/-- The value of an interpolation: expressions, or a yield expression. -/
def readInterpolated (g : Grammar) : Reader Expr := do
  let l ← peek operandNext
  if l.isWord "yield" then readYield g l closerNext
  else readExpressions g {} closerNext

/-- The format of an interpolated value, where `inner` reads interpolations within it; yields what
is left behind its last piece. -/
def readSpec (inner : Reader Unit) (steps : Nat) : Reader Text := do
  iterate (fun (behind : Text) => do
    let c ← get
    match c.rest with
    | [] => refuse
    | d :: ds =>
      if d = '}' then return .inr behind
      else if d = '{' then
        set { c with rest := ds }
        inner
        return .inl (← get).rest
      else if d = '\n' then
        set { c with rest := ds }
        return .inl behind
      else
        let rest := c.rest.dropWhile fun e => e != '{' && e != '}' && e != '\n'
        set { c with rest := rest }
        return .inl rest) steps (← get).rest

/-- What stands behind the opening brace of an interpolation, up to the closing one; `depth` bounds
how deep formats may hold interpolations again. -/
def readInterpolation (g : Grammar) : Nat → Reader Expr
  | 0 => refuse
  | depth + 1 => do
    let value ← readInterpolated g
    let isShown ← readOp? closerNext "="
    let l ← peek closerNext
    let conversion ← match l.token with
      | .conversion text => do
        take l
        pure text
      | _ => pure []
    let spec ← if ← readOp? closerNext ":" then do
        let start := (← get).rest
        let behind ← readSpec (do let _ ← readInterpolation g depth) g.steps
        pure (some (start.take (start.length - behind.length)))
      else pure none
    readOp closerNext "\x7d"
    return .interpolation value isShown conversion spec

/-- One step through a literal: a stretch of content, an escape sequence, an interpolation, or the
closing quotes. -/
def readPiece (g : Grammar) (o : Opening) (p : Pieces) : Reader (Pieces ⊕ List Expr) := do
  let c ← get
  let keep (rest : Text) : Reader (Pieces ⊕ List Expr) := do
    set { c with rest := rest }
    return .inl { p with content := p.content ++ c.rest.take (c.rest.length - rest.length) }
  match c.rest with
  | [] => refuse
  | d :: ds =>
    if o.format && (d = '{' || d = '}') && ds.head? = some d then keep (ds.drop 1)
    else match readStretch o false c.rest with
    | .content rest => keep rest
    | .finish rest =>
      set { c with rest := rest, inFormat := false }
      return .inr p.flush.reverse
    | .stop =>
      if d = '\\' then keep (ds.drop (escapeLength ds))
      else match c.rest.dropWhile isGapChar with
        | '{' :: rest =>
          set { c with rest := rest }
          let piece ← readInterpolation g g.steps
          return .inl ⟨piece :: p.flush, []⟩
        | '#' :: rest =>
          set { c with rest := rest.dropWhile (· != '\n') }
          return .inl p
        | rest =>
          match continuation? rest with
          | some (_, rest) =>
            set { c with rest := rest }
            return .inl p
          | none => refuse

/-- A string literal, of which the opening quotes are next. -/
def readString (g : Grammar) (l : Lexeme) (o : Opening) : Reader Expr := do
  take l
  let pieces ← iterate (readPiece g o) g.steps ⟨[], []⟩
  let source ← textSince l.start
  return if o.format then .format source pieces else .plain source

/-- Adjacent string literals, of which the first is next. -/
def readStrings (g : Grammar) (l : Lexeme) (o : Opening) (after : Expect) : Reader Expr := do
  let first ← readString g l o
  iterate (fun parts => do
    let l ← peek after.orOperand
    match l.token with
    | .opening o => return .inl ((← readString g l o) :: parts)
    | _ => return .inr (.strings parts.reverse)) g.steps [first]

end Testbook.Python
