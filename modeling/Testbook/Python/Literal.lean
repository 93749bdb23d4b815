import Testbook.Python.Escape

/-!
String and bytes literals, read and written. A literal is read by cutting it into the letters in
front, the quotes and the body between them. It is written with single quotes, or with double
quotes when only these spare an escape; a backslash, the quote in use and control characters are
escaped, and a bytes literal escapes all that is not printable ASCII.
-/

namespace Testbook.Python

open Testbook.Text

/-- A string literal: the letters in front of its quotes, and what stands between them. -/
structure StringLiteral where
  letters : Text
  body : Text
  deriving DecidableEq, Repr

namespace StringLiteral

/-- Whether a character is a quote that encloses literals. -/
def isQuote (c : Char) : Bool := c = '\'' || c = '"'

/-- The quotes in front of a text: three equal ones, or one. -/
def openingQuotes : Text → Text
  | a :: b :: c :: _ => if isQuote a && a = b && b = c then [a, b, c] else [a]
  | a :: _ => [a]
  | [] => []

/-- Cuts a literal at its quotes. -/
def split? (text : Text) : Option StringLiteral :=
  let letters := text.takeWhile (!isQuote ·)
  let quoted := text.dropWhile (!isQuote ·)
  if quoted.isEmpty then none
  else
    let quotes := openingQuotes quoted
    ((dropStart? quotes quoted).bind (dropEnd? quotes)).map fun body => ⟨letters, body⟩

/-- Whether a letter stands in front of the quotes, in either case. -/
def hasLetter (literal : StringLiteral) (letter : Char) : Bool :=
  literal.letters.any (·.toLower = letter)

/-- Whether backslashes stand for themselves. -/
def isRaw (literal : StringLiteral) : Bool := literal.hasLetter 'r'

/-- Whether the literal stands for bytes. -/
def isBytes (literal : StringLiteral) : Bool := literal.hasLetter 'b'

/-- Whether the literal holds interpolated expressions. -/
def isFormat (literal : StringLiteral) : Bool := literal.hasLetter 'f'

/-- Whether the literal is marked as text. -/
def isUnicode (literal : StringLiteral) : Bool := literal.hasLetter 'u'

/-- The text that the literal stands for. -/
def text (literal : StringLiteral) : Text :=
  if literal.isRaw then literal.body else decodeText literal.body

/-- The bytes that the literal stands for. -/
def bytes (literal : StringLiteral) : List UInt8 :=
  if literal.isRaw then utf8 literal.body else decodeBytes literal.body

end StringLiteral

/-! ### Writing -/

/-- A character within a literal enclosed by `quote`. -/
def writeChar (quote c : Char) : Text :=
  if c = '\\' then ['\\', '\\']
  else if c = '\n' then ['\\', 'n']
  else if c = '\r' then ['\\', 'r']
  else if c = '\t' then ['\\', 't']
  else if c = quote then ['\\', c]
  else if isControl c then '\\' :: 'x' :: hexLower 2 c.toNat
  else [c]

/-- The quote for a literal: a double one if there are single ones inside and no double ones. -/
def quoteFor {α : Type} [BEq α] (single double : α) (content : List α) : Char :=
  if content.contains single && !content.contains double then '"' else '\''

/-- A text as a string literal. -/
def writeText (text : Text) : Text :=
  let quote := quoteFor '\'' '"' text
  quote :: text.flatMap (writeChar quote) ++ [quote]

/-- A byte within a literal enclosed by `quote`. -/
def writeByte (quote : Char) (byte : UInt8) : Text :=
  let c := Char.ofNat byte.toNat
  if c = '\\' then ['\\', '\\']
  else if c = '\n' then ['\\', 'n']
  else if c = '\r' then ['\\', 'r']
  else if c = '\t' then ['\\', 't']
  else if c = quote then ['\\', c]
  else if 0x20 ≤ byte && byte ≤ 0x7E then [c]
  else '\\' :: 'x' :: hexLower 2 byte.toNat

/-- Bytes as a bytes literal. -/
def writeBytes (bytes : List UInt8) : Text :=
  let quote := quoteFor 0x27 0x22 bytes
  'b' :: quote :: bytes.flatMap (writeByte quote) ++ [quote]

end Testbook.Python
