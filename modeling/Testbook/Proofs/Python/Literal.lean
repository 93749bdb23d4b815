import Mathlib.Data.List.Basic
import Testbook.Python.Literal
import Testbook.Python.StringReader

/-!
String and bytes literals as they are written. Each character between the quotes stands for itself or
is escaped, and an escape sequence is read back as the character it was written for (`IsEscape`), so
cutting a written literal at its quotes and decoding its body undoes the writing (`split?_writeText`
and, for bytes, `split?_writeBytes`).
-/

namespace Testbook.Python

open Testbook.Text

variable {code rest body : Text} {quote c : Char} {byte : UInt8}

/-! ### Escape sequences -/

/-- That a text behind a backslash is an escape sequence: how far it reaches is seen from it, and a
bytes literal has it too. -/
structure IsEscape (code : Text) : Prop where
  length (rest : Text) : escapeLength (code ++ rest) = code.length
  head : ∃ c cs, code = c :: cs ∧ ['N', 'u', 'U'].contains c = false

/-- Letters and signs behind a backslash that stand for one character. -/
def simpleEscapes : List Char := ['\\', '\'', '"', 'n', 'r', 't']

theorem readEscape_simple {d : Char} (h : d ∈ simpleEscapes) (rest : Text) :
    readEscape (d :: rest) = (((simpleEscape? d).toList), 1) := by
  simp only [simpleEscapes, List.mem_cons, List.not_mem_nil, or_false] at h
  rcases h with rfl | rfl | rfl | rfl | rfl | rfl <;> rfl

theorem readByteEscape_simple {d : Char} (h : d ∈ simpleEscapes) (rest : Text) :
    readByteEscape (d :: rest) = (utf8 (simpleEscape? d).toList, 1) := by
  simp only [simpleEscapes, List.mem_cons, List.not_mem_nil, or_false] at h
  rcases h with rfl | rfl | rfl | rfl | rfl | rfl <;> rfl

theorem isEscape_simple {d : Char} (h : d ∈ simpleEscapes) : IsEscape [d] := by
  have hhead := List.all_eq_true.1
    (by decide : (simpleEscapes.all fun d => !(['N', 'u', 'U'].contains d)) = true) d h
  refine ⟨fun rest => ?_, d, [], rfl, by simpa using hhead⟩
  simp only [simpleEscapes, List.mem_cons, List.not_mem_nil, or_false] at h
  rcases h with rfl | rfl | rfl | rfl | rfl | rfl <;> rfl

/-- Two hexadecimal digits are the code of every character below 256. -/
theorem exists_hexLower {n : Nat} (h : n < 256) : ∃ a b, hexLower 2 n = [a, b] ∧ isHexDigit a = true
    ∧ isHexDigit b = true ∧ numeralValue 16 [a, b] = n := by
  have hchecks := (by decide +kernel : ∀ n < 256, (hexLower 2 n).length = 2
    ∧ (hexLower 2 n).all isHexDigit = true ∧ numeralValue 16 (hexLower 2 n) = n) n h
  obtain ⟨a, b, hab⟩ := List.length_eq_two.1 hchecks.1
  rw [hab] at hchecks
  have hdigits : isHexDigit a = true ∧ isHexDigit b = true := by simpa using hchecks.2.1
  exact ⟨a, b, hab, hdigits.1, hdigits.2, hchecks.2.2⟩

theorem charOf?_toNat (c : Char) : charOf? c.toNat = some c := by
  have hvalid : c.toNat.isValidChar := c.valid
  rw [charOf?, if_pos hvalid, Char.ofNat_toNat]

theorem length_hex {n : Nat} (h : n < 256) : ('x' :: hexLower 2 n).length = 3 := by
  obtain ⟨a, b, hab, -⟩ := exists_hexLower h
  rw [hab]
  rfl

theorem readEscape_hex (h : c.toNat < 256) (rest : Text) :
    readEscape ('x' :: (hexLower 2 c.toNat ++ rest)) = ([c], 3) := by
  obtain ⟨a, b, hab, ha, hb, hvalue⟩ := exists_hexLower h
  rw [hab, readEscape]
  simp [hexEscape, ha, hb, hvalue, charOf?_toNat]

theorem readByteEscape_hex (byte : UInt8) (rest : Text) :
    readByteEscape ('x' :: (hexLower 2 byte.toNat ++ rest)) = ([byte], 3) := by
  obtain ⟨a, b, hab, ha, hb, hvalue⟩ := exists_hexLower byte.toNat_lt
  rw [hab, readByteEscape]
  simp [ha, hb, hvalue]

theorem isEscape_hex {n : Nat} (h : n < 256) : IsEscape ('x' :: hexLower 2 n) := by
  obtain ⟨a, b, hab, ha, hb, -⟩ := exists_hexLower h
  rw [hab]
  refine ⟨fun rest => ?_, 'x', [a, b], rfl, by decide⟩
  simp [escapeLength, escapeLength.hexPrefixed, ha, hb]

/-! ### Bodies -/

/-- That a text may stand between the given quotes: characters that stand for themselves, and escape
sequences. -/
inductive IsBody (quote : Char) : Text → Prop
  | nil : IsBody quote []
  | plain {c : Char} {body : Text} (hc : c ∉ ['\\', '\n', quote]) (hbody : IsBody quote body) :
      IsBody quote (c :: body)
  | escape {code body : Text} (hcode : IsEscape code) (hbody : IsBody quote body) :
      IsBody quote ('\\' :: (code ++ body))

/-- Whether a character encloses literals. -/
theorem quote_cases (h : StringLiteral.isQuote quote = true) : quote = '\'' ∨ quote = '"' := by
  simpa [StringLiteral.isQuote] using h

/-- The letter or sign that is written behind a backslash for a character between the given quotes, if
it has one. -/
def simpleCode? (quote c : Char) : Option Char :=
  if c = '\\' then some '\\'
  else if c = '\n' then some 'n'
  else if c = '\r' then some 'r'
  else if c = '\t' then some 't'
  else if c = quote then some c
  else none

theorem simpleCode?_eq_some (hquote : StringLiteral.isQuote quote = true) {d : Char}
    (h : simpleCode? quote c = some d) :
    d ∈ simpleEscapes ∧ simpleEscape? d = some c ∧ c.toNat < 128 := by
  unfold simpleCode? at h
  split at h
  · next hc => cases h; rw [hc]; decide
  split at h
  · next hc => cases h; rw [hc]; decide
  split at h
  · next hc => cases h; rw [hc]; decide
  split at h
  · next hc => cases h; rw [hc]; decide
  split at h
  · next hc =>
    cases h
    rcases quote_cases hquote with h | h <;> rw [hc, h] <;> decide
  · cases h

theorem simpleCode?_eq_none (h : simpleCode? quote c = none) : c ∉ ['\\', '\n', quote] := by
  unfold simpleCode? at h
  split_ifs at h with hback hfeed hreturn htab heq
  simp [hback, hfeed, heq]

theorem writeChar_eq (quote c : Char) : writeChar quote c
    = match simpleCode? quote c with
      | some d => ['\\', d]
      | none => if isControl c then '\\' :: 'x' :: hexLower 2 c.toNat else [c] := by
  unfold writeChar simpleCode?
  split_ifs with hback hfeed hreturn htab heq <;> rfl

/-- A character is written as itself or as an escape sequence, and read back. -/
theorem writeChar_cases (hquote : StringLiteral.isQuote quote = true) (c : Char) :
    (writeChar quote c = [c] ∧ c ∉ ['\\', '\n', quote])
      ∨ ∃ code, writeChar quote c = '\\' :: code ∧ IsEscape code
        ∧ ∀ rest, readEscape (code ++ rest) = ([c], code.length) := by
  rw [writeChar_eq]
  cases hcode : simpleCode? quote c with
  | some d =>
    obtain ⟨hd, hc, -⟩ := simpleCode?_eq_some hquote hcode
    refine .inr ⟨[d], rfl, isEscape_simple hd, fun rest => ?_⟩
    rw [List.singleton_append, readEscape_simple hd, hc]
    rfl
  | none =>
    by_cases hcontrol : isControl c = true
    · have hlow : c.toNat < 256 := by
        simp only [isControl, Bool.or_eq_true, Bool.and_eq_true, decide_eq_true_eq] at hcontrol
        omega
      refine .inr ⟨_, if_pos hcontrol, isEscape_hex hlow, fun rest => ?_⟩
      rw [List.cons_append, readEscape_hex hlow, length_hex hlow]
    · exact .inl ⟨if_neg hcontrol, simpleCode?_eq_none hcode⟩

theorem isBody_writeChar (hquote : StringLiteral.isQuote quote = true) (text : Text) :
    IsBody quote (text.flatMap (writeChar quote)) := by
  induction text with
  | nil => exact .nil
  | cons c cs ih =>
    rw [List.flatMap_cons]
    rcases writeChar_cases hquote c with ⟨hself, hc⟩ | ⟨code, hcode, hescape, -⟩
    · rw [hself]
      exact .plain hc ih
    · rw [hcode]
      exact .escape hescape ih

theorem decodeText_cons (h : c ≠ '\\') (rest : Text) : decodeText (c :: rest) = c :: decodeText rest := by
  rw [decodeText, if_neg h]

theorem decodeText_escape {meaning : Text} (h : readEscape (code ++ rest) = (meaning, code.length)) :
    decodeText ('\\' :: (code ++ rest)) = meaning ++ decodeText rest := by
  rw [decodeText, if_pos rfl, h]
  simp

/-- Decoding undoes the writing of a text. -/
theorem decodeText_flatMap_writeChar (hquote : StringLiteral.isQuote quote = true) (text : Text) :
    decodeText (text.flatMap (writeChar quote)) = text := by
  induction text with
  | nil => rw [List.flatMap_nil, decodeText]
  | cons c cs ih =>
    rw [List.flatMap_cons]
    rcases writeChar_cases hquote c with ⟨hself, hc⟩ | ⟨code, hcode, -, hread⟩
    · rw [hself, List.singleton_append, decodeText_cons (fun h => hc (h ▸ List.mem_cons_self)), ih]
    · rw [hcode, List.cons_append, decodeText_escape (hread _), ih]
      rfl

/-! ### Bytes -/

theorem writeByte_eq (quote : Char) (byte : UInt8) : writeByte quote byte
    = match simpleCode? quote (Char.ofNat byte.toNat) with
      | some d => ['\\', d]
      | none => if 0x20 ≤ byte && byte ≤ 0x7E then [Char.ofNat byte.toNat]
        else '\\' :: 'x' :: hexLower 2 byte.toNat := by
  unfold writeByte simpleCode?
  generalize Char.ofNat byte.toNat = c
  dsimp only
  split_ifs <;> rfl

/-- A character of ASCII is one byte. -/
theorem utf8_ofNat (h : byte.toNat < 128) : utf8 [Char.ofNat byte.toNat] = [byte] := by
  have hchecks := (by decide +kernel : ∀ n < 128, utf8 [Char.ofNat n] = [UInt8.ofNat n])
  rw [hchecks byte.toNat h, UInt8.ofNat_toNat]

theorem toNat_ofNat_byte (byte : UInt8) : (Char.ofNat byte.toNat).toNat = byte.toNat := by
  have hchecks := (by decide +kernel : ∀ n < 256, (Char.ofNat n).toNat = n)
  exact hchecks byte.toNat byte.toNat_lt

/-- A byte is written as a character of ASCII or as an escape sequence, and read back. -/
theorem writeByte_cases (hquote : StringLiteral.isQuote quote = true) (byte : UInt8) :
    (∃ c, writeByte quote byte = [c] ∧ c ∉ ['\\', '\n', quote] ∧ utf8 [c] = [byte])
      ∨ ∃ code, writeByte quote byte = '\\' :: code ∧ IsEscape code
        ∧ ∀ rest, readByteEscape (code ++ rest) = ([byte], code.length) := by
  rw [writeByte_eq]
  cases hcode : simpleCode? quote (Char.ofNat byte.toNat) with
  | some d =>
    obtain ⟨hd, hc, hlow⟩ := simpleCode?_eq_some hquote hcode
    rw [toNat_ofNat_byte] at hlow
    refine .inr ⟨[d], rfl, isEscape_simple hd, fun rest => ?_⟩
    rw [List.singleton_append, readByteEscape_simple hd, hc, Option.toList_some, utf8_ofNat hlow]
    rfl
  | none =>
    by_cases hprintable : (0x20 ≤ byte && byte ≤ 0x7E) = true
    · have hlow : byte.toNat < 128 := by
        rw [Bool.and_eq_true, decide_eq_true_eq, decide_eq_true_eq] at hprintable
        have hle : byte.toNat ≤ (0x7E : UInt8).toNat := hprintable.2
        exact Nat.lt_of_le_of_lt hle (by decide)
      exact .inl ⟨_, if_pos hprintable, simpleCode?_eq_none hcode, utf8_ofNat hlow⟩
    · refine .inr ⟨_, if_neg hprintable, isEscape_hex byte.toNat_lt, fun rest => ?_⟩
      rw [List.cons_append, readByteEscape_hex, length_hex byte.toNat_lt]

theorem isBody_writeByte (hquote : StringLiteral.isQuote quote = true) (bytes : List UInt8) :
    IsBody quote (bytes.flatMap (writeByte quote)) := by
  induction bytes with
  | nil => exact .nil
  | cons byte bytes ih =>
    rw [List.flatMap_cons]
    rcases writeByte_cases hquote byte with ⟨c, hself, hc, -⟩ | ⟨code, hcode, hescape, -⟩
    · rw [hself]
      exact .plain hc ih
    · rw [hcode]
      exact .escape hescape ih

/-- Decoding undoes the writing of bytes. -/
theorem decodeBytes_flatMap_writeByte (hquote : StringLiteral.isQuote quote = true)
    (bytes : List UInt8) : decodeBytes (bytes.flatMap (writeByte quote)) = bytes := by
  induction bytes with
  | nil => rw [List.flatMap_nil, decodeBytes]
  | cons byte bytes ih =>
    rw [List.flatMap_cons]
    rcases writeByte_cases hquote byte with ⟨c, hself, hc, hutf8⟩ | ⟨code, hcode, -, hread⟩
    · have hback : c ≠ '\\' := fun h => hc (h ▸ List.mem_cons_self)
      rw [hself, List.singleton_append, decodeBytes, if_neg hback, ih, hutf8]
      rfl
    · rw [hcode, List.cons_append, decodeBytes, if_pos rfl, hread]
      simpa using ih

/-! ### Literals -/

theorem head?_ne_of_isBody (h : IsBody quote body) (hquote : StringLiteral.isQuote quote = true) :
    body.head? ≠ some quote := by
  cases h with
  | nil => simp
  | @plain c body hc _ =>
    intro heq
    cases heq
    exact hc (by simp)
  | @escape code body _ _ =>
    intro heq
    cases heq
    exact absurd hquote (by decide)

/-- A literal in quotes is cut at them. -/
theorem split?_quoted (h : IsBody quote body) (hquote : StringLiteral.isQuote quote = true)
    {letters : Text} (hletters : letters.all (!StringLiteral.isQuote ·) = true) :
    StringLiteral.split? (letters ++ quote :: (body ++ [quote])) = some ⟨letters, body⟩ := by
  have htake : (letters ++ quote :: (body ++ [quote])).takeWhile (!StringLiteral.isQuote ·) = letters := by
    rw [List.takeWhile_append_of_pos (List.all_eq_true.1 hletters),
      List.takeWhile_cons_of_neg (by simp [hquote]), List.append_nil]
  have hdrop : (letters ++ quote :: (body ++ [quote])).dropWhile (!StringLiteral.isQuote ·)
      = quote :: (body ++ [quote]) := by
    rw [List.dropWhile_append_of_pos (List.all_eq_true.1 hletters),
      List.dropWhile_cons_of_neg (by simp [hquote])]
  have hquotes : StringLiteral.openingQuotes (quote :: (body ++ [quote])) = [quote] := by
    have hhead := head?_ne_of_isBody h hquote
    cases body with
    | nil => rfl
    | cons c cs =>
      have hc : quote ≠ c := fun heq => hhead (by rw [heq]; rfl)
      cases cs <;> simp [StringLiteral.openingQuotes, hc]
  have hstart : dropStart? [quote] (quote :: (body ++ [quote])) = some (body ++ [quote]) := by
    simp [dropStart?]
  have hend : dropEnd? [quote] (body ++ [quote]) = some body := by
    simp [dropEnd?, dropStart?]
  rw [StringLiteral.split?, htake, hdrop, hquotes]
  simp [hstart, hend]

theorem isQuote_quoteFor {α : Type} [BEq α] (single double : α) (content : List α) :
    StringLiteral.isQuote (quoteFor single double content) = true := by
  rw [quoteFor]
  split <;> rfl

/-- A written text is cut into its quotes and a body that stands for it, whatever letters stand in
front. -/
theorem split?_writeText {letters : Text} (hletters : letters.all (!StringLiteral.isQuote ·) = true)
    (text : Text) : ∃ body, StringLiteral.split? (letters ++ writeText text) = some ⟨letters, body⟩
      ∧ decodeText body = text :=
  have hquote := isQuote_quoteFor '\'' '"' text
  ⟨_, split?_quoted (isBody_writeChar hquote text) hquote hletters,
    decodeText_flatMap_writeChar hquote text⟩

/-- Written bytes are cut into their quotes and a body that stands for them. -/
theorem split?_writeBytes (bytes : List UInt8) : ∃ body,
    StringLiteral.split? (writeBytes bytes) = some ⟨['b'], body⟩ ∧ decodeBytes body = bytes :=
  have hquote := isQuote_quoteFor 0x27 0x22 bytes
  have hletters : ['b'].all (!StringLiteral.isQuote ·) = true := rfl
  ⟨_, split?_quoted (isBody_writeByte hquote bytes) hquote hletters,
    decodeBytes_flatMap_writeByte hquote bytes⟩

end Testbook.Python
