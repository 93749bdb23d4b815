import Testbook.Number.Numeral
import Testbook.Toml.Reader
import Testbook.Toml.Value

/-!
Values that hold no other values, and keys. Strings have one or three quotes; only those with
double quotes know escape sequences, and only those with three quotes may hold line breaks. Whole
numbers have 64 bits, dates must exist, and a number must not be too great to be finite.
-/

namespace Testbook.Toml

open Testbook.Text Testbook.Number

/-! ### Strings -/

/-- A character that is named by `width` hexadecimal digits at the front of a text. -/
def readCodePoint (width : Nat) (text : Text) : Option Char :=
  let digits := text.take width
  if digits.length = width && digits.all isHexDigit then charOf? (numeralValue 16 digits)
  else none

/-- The character that an escape sequence stands for, and how many characters behind the backslash
belong to it, given the text there. -/
def readEscape : Text → Option (Char × Nat)
  | 'b' :: _ => some ('\x08', 1)
  | 't' :: _ => some ('\t', 1)
  | 'n' :: _ => some ('\n', 1)
  | 'f' :: _ => some ('\x0c', 1)
  | 'r' :: _ => some ('\r', 1)
  | '"' :: _ => some ('"', 1)
  | '\\' :: _ => some ('\\', 1)
  | 'u' :: rest => (readCodePoint 4 rest).map (·, 5)
  | 'U' :: rest => (readCodePoint 8 rest).map (·, 9)
  | _ => none

/-- Whether every carriage return in a text stands in front of a line feed. -/
def hasWholeBreaks : Text → Bool
  | '\r' :: '\n' :: rest => hasWholeBreaks rest
  | '\r' :: _ => false
  | _ :: rest => hasWholeBreaks rest
  | [] => true

/-- How many blanks and line breaks stand in front of a text, if there is a line break among them
and all are whole: a backslash in front of them joins lines. -/
def joint? (text : Text) : Option Nat :=
  let joint := text.takeWhile fun c => isSpace c || c = '\n' || c = '\r'
  if joint.contains '\n' && hasWholeBreaks joint then some joint.length else none

/-- What stands for part of a string's body: the part, and how many characters take it up behind
`c`, which is no closing quote. -/
def readPart (quote : Char) (triple : Bool) (c : Char) (cs : Text) : Option (Text × Nat) :=
  if c = '\\' && quote = '"' then
    match (if triple then joint? cs else none) with
    | some used => some ([], used)
    | none => (readEscape cs).map fun (e, used) => ([e], used)
  else if triple && c = '\n' then some (['\n'], 0)
  else if triple && c = '\r' && cs.head? = some '\n' then some (['\n'], 1)
  else if isVisible c then some ([c], 0)
  else none

/-- The body of a string behind its opening quotes, and the text behind the closing ones. In front
of three closing quotes up to two more belong to the body. -/
def readBody (quote : Char) (triple : Bool) (text : Text) : Option (Text × Text) :=
  match text with
  | [] => none
  | c :: cs =>
    if c = quote && !triple then some ([], cs)
    else if c = quote && 2 ≤ (cs.takeWhile (· = quote)).length then
      let inner := min 2 ((cs.takeWhile (· = quote)).length - 2)
      some (cs.take inner, cs.drop (inner + 2))
    else
      match readPart quote triple c cs with
      | none => none
      | some (part, used) =>
        (readBody quote triple (cs.drop used)).map fun (body, rest) => (part ++ body, rest)
termination_by text.length
decreasing_by simp only [List.length_drop, List.length_cons]; omega

/-- A string on one line, of which the opening quote is next. -/
def readLineString : Reader Text := fun text =>
  match text with
  | c :: rest => if c = '"' || c = '\'' then readBody c false rest else none
  | [] => none

/-- A string, of which the opening quotes are next. A line break right behind three of them does
not count. -/
def readString : Reader Text := fun text =>
  match text with
  | a :: b :: c :: rest =>
    if (a = '"' || a = '\'') && a = b && b = c then
      match rest with
      | '\n' :: rest => readBody a true rest
      | '\r' :: '\n' :: rest => readBody a true rest
      | _ => readBody a true rest
    else readLineString text
  | _ => readLineString text

/-! ### Keys -/

/-- Whether a character may stand in a key without quotes. -/
def isKeyChar (c : Char) : Bool := c.isAlphanum || c = '_' || c = '-'

/-- A key without points. -/
def readSimpleKey : Reader Text := do
  match ← peek with
  | some '"' | some '\'' => readLineString
  | _ =>
    let key ← span isKeyChar
    if key.isEmpty then failure else return key

/-- How deep arrays, tables and keys may nest. -/
def maxDepth : Nat := 79

/-- A key: simple ones with points between them. -/
def readKey : Reader (List Text) := do
  let keys ← repeating (fun keys => do
    spaces
    let key ← readSimpleKey
    spaces
    if ← expect? ['.'] then return .inl (keys ++ [key]) else return .inr (keys ++ [key])) []
  if keys.length ≤ maxDepth then return keys else failure

/-! ### Numbers -/

/-- Digits with single underscores between them. -/
def readDigits (isDigit : Char → Bool) : Reader Text := do
  match ← peek with
  | some c =>
    if isDigit c then
      let (digits, rest) := spanBased isDigit (← get)
      set rest
      return digits
    else failure
  | none => failure

/-- A sign, if there is one. -/
def readSign : Reader Text := do
  match ← peek with
  | some '+' =>
    expect ['+']
    return ['+']
  | some '-' =>
    expect ['-']
    return ['-']
  | _ => return []

/-- The digits of a whole number in base ten, which has no zeros in front. -/
def readWhole : Reader Text := do
  if ← expect? ['0'] then return ['0'] else readDigits Char.isDigit

/-- The value of digits with underscores between them. -/
def wholeValue (base : Nat) (digits : Text) : Nat := numeralValue base (digits.filter (· != '_'))

/-- The magnitude of the least whole number; the greatest one is smaller by one. -/
def leastMagnitude : Nat := 9223372036854775808

/-- A whole number, if it is not too great. -/
def integer? (negative : Bool) (magnitude : Nat) : Option Value :=
  if negative then if magnitude ≤ leastMagnitude then some (.integer (-magnitude)) else none
  else if magnitude < leastMagnitude then some (.integer magnitude) else none

/-- A whole number in a base named by a letter. -/
def readBased : Reader Value := do
  let based (base : Nat) (isDigit : Char → Bool) : Reader Value := do
    integer? false (wholeValue base (← readDigits isDigit))
  if ← expect? ['0', 'x'] then based 16 isHexDigit
  else if ← expect? ['0', 'o'] then based 8 isOctalDigit
  else if ← expect? ['0', 'b'] then based 2 isBinaryDigit
  else failure

/-- A whole number. -/
def readInteger : Reader Value := do
  match ← optional readBased with
  | some value => return value
  | none =>
    let sign ← readSign
    integer? (sign = ['-']) (wholeValue 10 (← readWhole))

/-- The exponent of a number: the letter, a sign and digits. -/
def readExponent : Reader Text := do
  if !(← expect? ['e']) then expect ['E']
  let sign ← readSign
  return 'e' :: sign ++ (← readDigits Char.isDigit)

/-- The fraction of a number: the point and digits. -/
def readFraction : Reader Text := do
  expect ['.']
  return '.' :: (← readDigits Char.isDigit)

/-- A number with a fraction or an exponent, or one that is infinite or none. -/
def readFloat : Reader Value := do
  let sign ← readSign
  if ← expect? "inf" then return .float (sign ++ "inf")
  if ← expect? "nan" then return .float (sign ++ "nan")
  let whole ← readWhole
  let fraction := (← optional readFraction).getD []
  let exponent := (← optional readExponent).getD []
  if fraction.isEmpty && exponent.isEmpty then failure
  let numeral := (whole ++ fraction ++ exponent).filter (· != '_')
  if sign != ['-'] && Binary64.ofNumeral numeral = .infinite false then failure
  return .float (sign ++ numeral)

/-! ### Dates and times -/

/-- A number of exactly `width` digits. -/
def readFixed (width : Nat) : Reader Nat := do
  let digits := (← get).take width
  if digits.length = width && digits.all Char.isDigit then
    expect digits
    return numeralValue 10 digits
  else failure

/-- A number of two digits within bounds. -/
def readBounded (least most : Nat) : Reader Unit := do
  let n ← readFixed 2
  if !(least ≤ n && n ≤ most) then failure

/-- Whether a year has a leap day. -/
def isLeapYear (year : Nat) : Bool := year % 4 = 0 && (year % 100 != 0 || year % 400 = 0)

/-- The number of days in a month. -/
def daysIn (year month : Nat) : Nat :=
  if month = 2 then (if isLeapYear year then 29 else 28)
  else if month ∈ [4, 6, 9, 11] then 30
  else 31

/-- A date that exists. -/
def readDate : Reader Unit := do
  let year ← readFixed 4
  expect ['-']
  let month ← readFixed 2
  expect ['-']
  let day ← readFixed 2
  if !(1 ≤ month && month ≤ 12 && 1 ≤ day && day ≤ daysIn year month) then failure

/-- A time of day, with a leap second if need be. -/
def readTime : Reader Unit := do
  readBounded 0 23
  expect [':']
  readBounded 0 59
  expect [':']
  readBounded 0 60
  let _ ← optional do
    expect ['.']
    let digits ← span Char.isDigit
    if digits.isEmpty then failure

/-- The distance of a time from the standard one. -/
def readOffset : Reader Unit := do
  if !((← expect? ['Z']) || (← expect? ['z'])) then
    if (← readSign).isEmpty then failure
    readBounded 0 23
    expect [':']
    readBounded 0 59

/-- A date, a time, or both, and then perhaps an offset. -/
def readDatetime : Reader Value := do
  let start ← get
  let dated : Reader Unit := do
    readDate
    let _ ← optional do
      match ← peek with
      | some c =>
        if c = 'T' || c = 't' || c = ' ' then expect [c] else failure
      | none => failure
      readTime
      let _ ← optional readOffset
  if (← optional dated).isNone then readTime
  return .datetime (start.take (start.length - (← get).length))

/-! ### All of them -/

/-- A value that holds no others, the first character of which is `c`. -/
def readScalar (c : Char) : Reader Value := do
  if c = '"' || c = '\'' then return .string (← readString)
  else if c = 't' then
    expect "true"
    return .boolean true
  else if c = 'f' then
    expect "false"
    return .boolean false
  else if c = 'i' || c = 'n' then readFloat
  else if c.isDigit || c = '+' || c = '-' then
    match ← optional readDatetime with
    | some value => return value
    | none =>
      match ← optional readFloat with
      | some value => return value
      | none => readInteger
  else failure

end Testbook.Toml
