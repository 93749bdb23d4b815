import Testbook.Text.Blank
import Testbook.Text.Identifier
import Testbook.Python.Escape

/-!
Program text as lexemes. What the next lexeme is depends on what the reader can use: a line break
is a lexeme of its own only where a statement may end, a deeper or shallower margin only where a
block may begin or end, and a quote only where a string may begin. Elsewhere line breaks are
blanks, except that a shallower margin ends a line that no closing bracket can end.
-/

namespace Testbook.Python

open Testbook.Text

/-- How a string literal begins: its letters, its quote, and whether there are three of them. -/
structure Opening where
  raw : Bool
  bytes : Bool
  format : Bool
  quote : Char
  triple : Bool
  deriving DecidableEq, Repr

/-- A lexeme without its place in the text. -/
inductive Token where
  | newline
  | indent
  | dedent
  | finish
  | word (text : Text)
  | integer (text : Text)
  | float (text : Text)
  | opening (opening : Opening)
  /-- an exclamation mark with the letter behind it, which converts an interpolated value -/
  | conversion (text : Text)
  | op (symbol : String)
  | invalid
  deriving DecidableEq, Repr

/-- What the reader can use next, beside words, numbers and operators. -/
structure Expect where
  newline : Bool := false
  indent : Bool := false
  dedent : Bool := false
  /-- a bracket may close here -/
  closer : Bool := false
  /-- a string may begin here -/
  string : Bool := false
  /-- an exception handler may begin here -/
  handler : Bool := false
  /-- a colon with an equals sign is one operator here -/
  walrus : Bool := false

/-- A place in program text: the text that is left, the margins of the open blocks, innermost
first, and whether, within a block, the innermost string entered last interpolates. -/
structure Cursor where
  rest : Text
  margins : List Nat := []
  inFormat : Bool := false
  deriving DecidableEq

/-- The margin of the innermost open block. -/
def Cursor.margin (c : Cursor) : Nat := c.margins.headD 0

/-! ### Margins -/

/-- What lies between two lexemes: whether a line ends, how far the next line is indented, how far
the first comment on a line of its own is, and the text behind. -/
structure Gap where
  broken : Bool
  indent : Nat
  comment : Option Nat
  rest : Text
  deriving DecidableEq

/-- Reads on from a gap: `comments` tells whether comments on lines of their own belong to it,
`inside` whether one is being passed over. There is no gap in front of a comment behind code, nor
where a backslash is not at the end of its line. -/
def Gap.extend (comments inside : Bool) (gap : Gap) : Text → Option Gap
  | [] => some { gap with broken := true, indent := 0, rest := [] }
  | c :: cs =>
    if inside then
      if c = '\n' then Gap.extend comments false { gap with indent := 0 } cs
      else Gap.extend comments true gap cs
    else if c = '\n' then Gap.extend comments false { gap with broken := true, indent := 0 } cs
    else if c = ' ' then Gap.extend comments false { gap with indent := gap.indent + 1 } cs
    else if c = '\r' || c = '\x0c' then Gap.extend comments false { gap with indent := 0 } cs
    else if c = '\t' then Gap.extend comments false { gap with indent := gap.indent + 8 } cs
    else if c = '#' && comments then
      if gap.broken then
        Gap.extend comments true { gap with comment := gap.comment <|> some gap.indent } cs
      else none
    else if c = '\\' then
      match cs with
      | '\n' :: rest => Gap.extend comments false gap rest
      | '\r' :: '\n' :: rest => Gap.extend comments false gap rest
      | ['\r'] | [] => some { gap with broken := true, indent := 0, rest := [] }
      | _ => none
    else some { gap with rest := c :: cs }

/-- The gap in front of a text. -/
def Gap.before (comments : Bool) (text : Text) : Option Gap :=
  Gap.extend comments false ⟨false, 0, none, text⟩ text

/-- Whether a string literal begins with this character. -/
def isStringQuote (c : Char) : Bool := c = '\'' || c = '"' || c = '\x60'

/-- Whether a letter may stand in front of the quotes of a string literal. -/
def isStringLetter (c : Char) : Bool := c.toLower ∈ ['f', 'r', 'b', 'u']

/-- The opening of a string literal at the front of a text, and the text behind it. -/
def readOpening (text : Text) : Option (Opening × Text) :=
  let letters := text.takeWhile isStringLetter
  let has (letter : Char) : Bool := letters.any (·.toLower = letter)
  let opening := Opening.mk (has 'r') (has 'b') (has 'f')
  match text.dropWhile isStringLetter with
  | [] => none
  | quote :: rest =>
    if !isStringQuote quote then none
    else match rest with
      | a :: b :: inner =>
        if a = quote && b = quote && quote != '\x60' then some (opening quote true, inner)
        else some (opening quote false, rest)
      | _ => some (opening quote false, rest)

/-- A lexeme that line breaks or quotes make up, with the cursor behind it and the text from its
first character on. -/
def layout? (e : Expect) (c : Cursor) : Option (Token × Text × Cursor) :=
  match Gap.before (e.indent || e.dedent || e.newline || e.handler) c.rest with
  | none => none
  | some gap =>
    let quoted := gap.rest.head?.any isStringQuote
    let mayLeave := e.dedent || (!e.newline && !(e.string && quoted) && !e.closer)
    if gap.broken && e.indent && c.margin < gap.indent then
      some (.indent, c.rest, { c with margins := gap.indent :: c.margins })
    else if gap.broken && mayLeave && gap.indent < c.margin && !c.inFormat
        && gap.comment.all (· < c.margin) then
      some (.dedent, c.rest, { c with margins := c.margins.drop 1 })
    else if gap.broken && e.newline then some (.newline, c.rest, c)
    else if e.string && gap.comment.isNone then
      (readOpening gap.rest).map fun (opening, rest) =>
        (.opening opening, gap.rest,
          { c with rest := rest, inFormat := opening.format && !c.margins.isEmpty })
    else none

/-! ### Words, numbers and operators -/

/-- The decimal digits at the front of a text; one underscore may stand behind each. -/
def spanDecimal (behindDigit : Bool) : Text → Text × Text
  | [] => ([], [])
  | c :: cs =>
    if c.isDigit || (behindDigit && c = '_') then
      let (digits, rest) := spanDecimal c.isDigit cs
      (c :: digits, rest)
    else ([], c :: cs)

/-- The digits of the base that a letter names, at the front of a text. -/
def spanBase (letter : Char) (text : Text) : Text × Text :=
  match letter.toLower with
  | 'x' => spanBased isHexDigit text
  | 'o' => spanBased isOctalDigit text
  | 'b' => spanBased isBinaryDigit text
  | _ => ([], text)

/-- An optional letter at the front of a text. -/
def spanLetter (letters : List Char) : Text → Text × Text
  | c :: cs => if c ∈ letters then ([c], cs) else ([], c :: cs)
  | [] => ([], [])

/-- An exponent at the front of a text, empty if there is none. -/
def spanExponent (text : Text) : Text × Text :=
  let (e, afterE) := spanLetter ['e', 'E'] text
  let (sign, afterSign) := spanLetter ['+', '-'] afterE
  let (digits, rest) := spanDecimal false afterSign
  if e.isEmpty || digits.isEmpty then ([], text) else (e ++ sign ++ digits, rest)

/-- A number in base ten at the front of a text. -/
def readDecimal (text : Text) : Token × Text :=
  let (whole, afterWhole) := spanDecimal false text
  let (point, afterPoint) := spanLetter ['.'] afterWhole
  let (fraction, afterFraction) :=
    if point.isEmpty then ([], afterWhole) else spanDecimal false afterPoint
  let (exponent, afterExponent) := spanExponent afterFraction
  if point.isEmpty && exponent.isEmpty then
    let (suffix, rest) := spanLetter ['l', 'L', 'j', 'J'] afterWhole
    (.integer (whole ++ suffix), rest)
  else
    let (suffix, rest) := spanLetter ['j', 'J'] afterExponent
    (.float (whole ++ point ++ fraction ++ exponent ++ suffix), rest)

/-- A number at the front of a text that starts with a digit, or a point and a digit. -/
def readNumber (text : Text) : Token × Text :=
  match text with
  | '0' :: letter :: rest =>
    let (digits, behind) := spanBase letter rest
    if digits.isEmpty then readDecimal text
    else
      let (suffix, behind) := spanLetter ['l', 'L'] behind
      (.integer ('0' :: letter :: digits ++ suffix), behind)
  | _ => readDecimal text

/-- The operators and brackets, longer ones first. -/
def operators : List String :=
  ["**=", "//=", ">>=", "<<=", "...", "**", "//", ">>", "<<", "<=", ">=", "==", "!=", "<>", "->",
   "+=", "-=", "*=", "/=", "%=", "&=", "|=", "^=", "@=", "+", "-", "*", "/", "%", "@", "&", "|",
   "^", "~", "<", ">", "(", ")", "[", "]", "\x7b", "\x7d", ",", ":", ".", ";", "="]

/-- The operator at the front of a text. -/
def readOperator (symbols : List String) (text : Text) : Token × Text :=
  match symbols with
  | [] => (.invalid, text)
  | symbol :: symbols =>
    match dropStart? symbol.toList text with
    | some rest => (.op symbol, rest)
    | none => readOperator symbols text

/-- The word, number or operator at the front of a text. -/
def readToken (walrus : Bool) (text : Text) : Token × Text :=
  match text with
  | [] => (.finish, [])
  | c :: cs =>
    if isIdentifierStart c then
      (.word (text.takeWhile isIdentifierContinue), text.dropWhile isIdentifierContinue)
    else if c.isDigit || (c = '.' && cs.head?.any Char.isDigit) then readNumber text
    else if c = '!' && cs.head?.any Char.isLower then (.conversion (text.take 2), cs.drop 1)
    else readOperator (if walrus then ":=" :: operators else operators) text

/-- Whether a character is blank between lexemes. -/
def isGapChar (c : Char) : Bool :=
  c = ' ' || (9 ≤ c.toNat && c.toNat ≤ 13) || c.toNat ∈ [0xFEFF, 0x2060, 0x200B]

/-- A line continuation at the front of a text: a backslash at the end of its line. -/
def continuation? : Text → Option (Text × Text)
  | ['\\'] => some (['\\'], [])
  | '\\' :: '\n' :: rest => some (['\\', '\n'], rest)
  | '\\' :: '\r' :: '\n' :: rest => some (['\\', '\r', '\n'], rest)
  | _ => none

/-- A lexeme: the line continuations in front of it, the token, the text from its first character
on, and the cursor behind it. -/
structure Lexeme where
  continuations : List Text
  token : Token
  start : Text
  after : Cursor
  deriving DecidableEq

theorem length_continuation?_lt {text mark rest : Text} (h : continuation? text = some (mark, rest)) :
    rest.length < text.length := by
  unfold continuation? at h
  split at h <;> simp at h <;> obtain ⟨_, rfl⟩ := h <;> simp only [List.length_cons] <;> omega

/-- The next lexeme. Comments are passed over; a line continuation is passed over too, but kept in
mind unless it stands in the gap before a lexeme that line breaks or quotes make up. -/
def next (e : Expect) (c : Cursor) : Lexeme :=
  match layout? e c with
  | some (token, start, after) => ⟨[], token, start, after⟩
  | none =>
    match _hr : c.rest.dropWhile isGapChar with
    | [] => ⟨[], .finish, [], { c with rest := [] }⟩
    | d :: ds =>
      if d = '#' then next e { c with rest := ds.dropWhile (· != '\n') }
      else
        match _hc : continuation? (d :: ds) with
        | some (mark, rest) =>
          let lexeme := next e { c with rest := rest }
          { lexeme with continuations := mark :: lexeme.continuations }
        | none =>
          let (token, rest) := readToken e.walrus (d :: ds)
          ⟨[], token, d :: ds, { c with rest := rest }⟩
termination_by c.rest.length
decreasing_by
  · have h1 := (List.dropWhile_sublist (l := c.rest) isGapChar).length_le
    have h2 := (List.dropWhile_sublist (l := ds) (· != '\n')).length_le
    rw [_hr] at h1
    simp only [List.length_cons] at h1
    show (ds.dropWhile (· != '\n')).length < c.rest.length
    omega
  · have h1 := (List.dropWhile_sublist (l := c.rest) isGapChar).length_le
    have h2 := length_continuation?_lt _hc
    rw [_hr] at h1
    show rest.length < c.rest.length
    omega

end Testbook.Python
