import Testbook.Text.Blank
import Testbook.Text.Digits

/-!
Escape sequences in string literals. A backslash and what follows it stand for one character, for
none (in front of a line feed) or, when the sequence is not known or not complete, for themselves.
In a bytes literal the same sequences stand for bytes, without those that name a code point.
-/

namespace Testbook.Python

open Testbook.Text

/-- The character that a letter or sign behind a backslash stands for. -/
def simpleEscape? : Char → Option Char
  | '\\' => some '\\'
  | '\'' => some '\''
  | '"' => some '"'
  | 'a' => some '\x07'
  | 'b' => some '\x08'
  | 'f' => some '\x0c'
  | 'n' => some '\n'
  | 'r' => some '\r'
  | 't' => some '\t'
  | 'v' => some '\x0b'
  | _ => none

/-- The digits of an octal escape whose first digit is `c`: up to three in all. -/
def octalDigits (c : Char) (rest : Text) : Text := c :: (rest.take 2).takeWhile isOctalDigit

/-- What a hexadecimal escape of `width` digits stands for, and how many characters behind the
backslash belong to it. An incomplete one, or one that names no character, stands for itself. -/
def hexEscape (letter : Char) (width : Nat) (rest : Text) : Text × Nat :=
  let digits := (rest.take width).takeWhile isHexDigit
  match charOf? (numeralValue 16 digits) with
  | some c =>
    if digits.length = width then ([c], 1 + width)
    else ('\\' :: letter :: digits, 1 + digits.length)
  | none => ('\\' :: letter :: digits, 1 + digits.length)

/-- What an escape sequence stands for, given the text behind its backslash, and how many
characters of that text belong to it. -/
def readEscape : Text → Text × Nat
  | [] => (['\\'], 0)
  | 'x' :: rest => hexEscape 'x' 2 rest
  | 'u' :: rest => hexEscape 'u' 4 rest
  | 'U' :: rest => hexEscape 'U' 8 rest
  | '\n' :: _ => ([], 1)
  | c :: rest =>
    if isOctalDigit c then
      let digits := octalDigits c rest
      ([Char.ofNat (numeralValue 8 digits)], digits.length)
    else match simpleEscape? c with
      | some e => ([e], 1)
      | none => (['\\', c], 1)

/-- The text that the body of a string literal stands for. -/
def decodeText (body : Text) : Text :=
  match body with
  | [] => []
  | c :: cs =>
    if c = '\\' then
      let (meaning, used) := readEscape cs
      meaning ++ decodeText (cs.drop used)
    else c :: decodeText cs
termination_by body.length
decreasing_by
  · simp only [List.length_drop, List.length_cons]; omega
  · exact Nat.lt_succ_self _

/-- The bytes of a text in UTF-8. -/
def utf8 (text : Text) : List UInt8 := text.flatMap String.utf8EncodeChar

/-- What an escape sequence stands for in a bytes literal. -/
def readByteEscape : Text → List UInt8 × Nat
  | [] => (utf8 ['\\'], 0)
  | 'x' :: rest =>
    let digits := (rest.take 2).takeWhile isHexDigit
    if digits.length = 2 then ([UInt8.ofNat (numeralValue 16 digits)], 3)
    else (utf8 ('\\' :: 'x' :: digits), 1 + digits.length)
  | '\n' :: _ => ([], 1)
  | c :: rest =>
    if isOctalDigit c then
      let digits := octalDigits c rest
      ([UInt8.ofNat (numeralValue 8 digits)], digits.length)
    else match simpleEscape? c with
      | some e => (utf8 [e], 1)
      | none => (utf8 ['\\', c], 1)

/-- The bytes that the body of a bytes literal stands for. -/
def decodeBytes (body : Text) : List UInt8 :=
  match body with
  | [] => []
  | c :: cs =>
    if c = '\\' then
      let (meaning, used) := readByteEscape cs
      meaning ++ decodeBytes (cs.drop used)
    else utf8 [c] ++ decodeBytes cs
termination_by body.length
decreasing_by
  · simp only [List.length_drop, List.length_cons]; omega
  · exact Nat.lt_succ_self _

end Testbook.Python
