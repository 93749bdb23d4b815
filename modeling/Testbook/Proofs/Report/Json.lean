import Mathlib.Tactic.SplitIfs
import Testbook.Proofs.Text.Decimal
import Testbook.Report.Json
import Testbook.Text.Digits

/-!
JSON documents are told from what is written. A character is read back from its escape, a number ends
where its digits do, and the character behind an entry says whether there is another one; so a text
that begins with a document begins with no other one (`isTold_write`), and no two documents are written
alike (`write_injective`).
-/

namespace Testbook.JsonValue

open Testbook.Text

variable {rest rest' : Text} {level : Nat}

/-- Whether a number may end in front of a text. -/
def EndsNumber (rest : Text) : Prop := rest.head?.all (!·.isDigit) = true

/-- That what is written of a value shows the value, and where it ends. -/
def IsTold {α : Type} (written : α → Text) (value : α) : Prop :=
  ∀ value' rest rest', EndsNumber rest → EndsNumber rest' →
    written value ++ rest = written value' ++ rest' → value = value' ∧ rest = rest'

/-! ### Texts -/

/-- The character that a letter or sign behind a backslash stands for. -/
def escapedChar (c : Char) : Char :=
  if c = 'n' then '\n'
  else if c = 'r' then '\r'
  else if c = 't' then '\t'
  else if c = 'b' then '\x08'
  else if c = 'f' then '\x0c'
  else c

/-- A character within quotes, and the text behind it. -/
def readChar? : Text → Option (Char × Text)
  | '\\' :: 'u' :: a :: b :: c :: d :: rest =>
    some (Char.ofNat (numeralValue 16 [a, b, c, d]), rest)
  | '\\' :: c :: rest => some (escapedChar c, rest)
  | c :: rest => some (c, rest)
  | [] => none

theorem readChar?_code {n : Nat} (h : n < 32) (rest : Text) :
    readChar? ("\\u".toList ++ hexLower 4 n ++ rest) = some (Char.ofNat n, rest) := by
  have hcode : ∀ n < 32, (hexLower 4 n).length = 4 ∧ numeralValue 16 (hexLower 4 n) = n := by
    decide +kernel
  obtain ⟨hlength, hvalue⟩ := hcode n h
  match hdigits : hexLower 4 n, hlength with
  | [a, b, c, d], _ =>
    rw [hdigits] at hvalue
    simp [readChar?, hvalue]

theorem readChar?_escapeChar (c : Char) (rest : Text) :
    readChar? (escapeChar c ++ rest) = some (c, rest) := by
  unfold escapeChar
  split_ifs with hquote hback hfeed hreturn htab hbackspace hform hlow
  · rw [hquote]; rfl
  · rw [hback]; rfl
  · rw [hfeed]; rfl
  · rw [hreturn]; rfl
  · rw [htab]; rfl
  · rw [hbackspace]; rfl
  · rw [hform]; rfl
  · have hcode : c.toNat < 32 := hlow
    rw [readChar?_code hcode, Char.ofNat_toNat]
  · simp [readChar?, hback]

/-- No character within quotes begins with a quote. -/
theorem escapeChar_append_ne (c : Char) (behind rest : Text) :
    escapeChar c ++ behind ≠ '"' :: rest := by
  intro h
  have hread : some (c, behind) = some ('"', rest) :=
    (readChar?_escapeChar c behind).symm.trans (congrArg readChar? h)
  obtain ⟨rfl, -⟩ := Prod.mk.inj (Option.some.inj hread)
  exact absurd (List.cons.inj h).1 (by decide)

theorem quoted_inj {text text' : Text}
    (h : text.flatMap escapeChar ++ '"' :: rest = text'.flatMap escapeChar ++ '"' :: rest') :
    text = text' ∧ rest = rest' := by
  induction text generalizing text' with
  | nil =>
    cases text' with
    | nil => exact ⟨rfl, (List.cons.inj h).2⟩
    | cons c cs =>
      rw [List.flatMap_cons, List.append_assoc] at h
      exact absurd h.symm (escapeChar_append_ne c _ _)
  | cons c cs ih =>
    cases text' with
    | nil =>
      rw [List.flatMap_cons, List.append_assoc] at h
      exact absurd h (escapeChar_append_ne c _ _)
    | cons c' cs' =>
      rw [List.flatMap_cons, List.flatMap_cons, List.append_assoc, List.append_assoc] at h
      have hread := congrArg readChar? h
      rw [readChar?_escapeChar, readChar?_escapeChar] at hread
      obtain ⟨rfl, hbehind⟩ := Prod.mk.inj (Option.some.inj hread)
      obtain ⟨rfl, rfl⟩ := ih hbehind
      exact ⟨rfl, rfl⟩

theorem isTold_quote (text : Text) : IsTold quote text := by
  intro text' rest rest' _ _ h
  have hquoted : '"' :: (text.flatMap escapeChar ++ '"' :: rest)
      = '"' :: (text'.flatMap escapeChar ++ '"' :: rest') := by simpa [quote] using h
  exact quoted_inj (List.cons.inj hquoted).2

/-! ### Numbers -/

theorem takeWhile_decimal (n : Nat) (h : EndsNumber rest) :
    (decimal n ++ rest).takeWhile Char.isDigit = decimal n := by
  rw [List.takeWhile_append_of_pos fun c hc => isDigit_of_mem_decimal hc]
  cases rest with
  | nil => simp
  | cons c cs =>
    have hc : c.isDigit = false := by simpa [EndsNumber] using h
    rw [List.takeWhile_cons_of_neg (by simp [hc]), List.append_nil]

theorem isTold_decimal (n : Nat) : IsTold decimal n := by
  intro n' rest rest' hrest hrest' h
  have hdigits : decimal n = decimal n' := by
    rw [← takeWhile_decimal n hrest, h, takeWhile_decimal n' hrest']
  have hn : n = n' := by rw [← foldl_decimal n, hdigits, foldl_decimal]
  subst hn
  exact ⟨rfl, List.append_cancel_left h⟩

/-! ### Entries -/

theorem join_cons (separator piece : Text) (pieces : List Text) :
    join separator (piece :: pieces) = piece ++ pieces.flatMap (separator ++ ·) := by
  induction pieces generalizing piece with
  | nil => simp [join]
  | cons next pieces ih => rw [join, ih, List.flatMap_cons, List.append_assoc, List.append_assoc]

theorem bracketed_nil (level : Nat) (opening closing : Char) :
    bracketed level opening closing [] = [opening, closing] := rfl

theorem bracketed_cons (level : Nat) (opening closing : Char) (entry : Text) (entries : List Text) :
    bracketed level opening closing (entry :: entries)
      = opening :: newLine (level + 1) ++ (entry ++ (entries.flatMap (',' :: newLine (level + 1) ++ ·)
        ++ newLine level ++ [closing])) := by
  rw [bracketed, if_neg (by simp), join_cons]
  simp

section

variable {α : Type} {written : α → Text} {values values' : List α}

/-- No number goes on behind an entry: a comma or a line end stands there. -/
theorem endsNumber_entries (written : α → Text) (separator : Text) (values : List α) (rest : Text) :
    EndsNumber ((values.map written).flatMap (',' :: separator ++ ·) ++ '\n' :: rest) := by
  cases values <;> rfl

/-- The entries behind the first: a comma stands in front of each, and a line end behind the last. -/
theorem entries_inj (separator : Text) (h : ∀ value ∈ values, IsTold written value)
    (heq : (values.map written).flatMap (',' :: separator ++ ·) ++ '\n' :: rest
      = (values'.map written).flatMap (',' :: separator ++ ·) ++ '\n' :: rest') :
    values = values' ∧ rest = rest' := by
  induction values generalizing values' with
  | nil =>
    cases values' with
    | nil => exact ⟨rfl, (List.cons.inj heq).2⟩
    | cons value' values' => exact absurd (List.cons.inj heq).1 (by decide)
  | cons value values ih =>
    obtain ⟨hvalue, hvalues⟩ := List.forall_mem_cons.1 h
    cases values' with
    | nil => exact absurd (List.cons.inj heq).1 (by decide)
    | cons value' values' =>
      have hends := endsNumber_entries written separator
      simp only [List.map_cons, List.flatMap_cons, List.append_assoc, List.append_cancel_left_eq] at heq
      obtain ⟨rfl, hbehind⟩ := hvalue value' _ _ (hends values rest) (hends values' rest') heq
      obtain ⟨rfl, rfl⟩ := ih hvalues hbehind
      exact ⟨rfl, rfl⟩

theorem bracketed_inj (level : Nat) (opening closing : Char) (hclosing : closing ≠ '\n')
    (h : ∀ value ∈ values, IsTold written value)
    (heq : bracketed level opening closing (values.map written) ++ rest
      = bracketed level opening closing (values'.map written) ++ rest') :
    values = values' ∧ rest = rest' := by
  cases values with
  | nil =>
    cases values' with
    | nil => simpa [bracketed_nil] using heq
    | cons value' values' =>
      rw [List.map_nil, bracketed_nil, List.map_cons, bracketed_cons] at heq
      exact absurd (List.cons.inj (List.cons.inj heq).2).1 hclosing
  | cons value values =>
    obtain ⟨hvalue, hvalues⟩ := List.forall_mem_cons.1 h
    cases values' with
    | nil =>
      rw [List.map_nil, bracketed_nil, List.map_cons, bracketed_cons] at heq
      exact absurd (List.cons.inj (List.cons.inj heq).2).1.symm hclosing
    | cons value' values' =>
      have hends := endsNumber_entries written (newLine (level + 1))
      simp only [List.map_cons, bracketed_cons, List.append_assoc, List.append_cancel_left_eq] at heq
      obtain ⟨rfl, hbehind⟩ := hvalue value' _ _ (hends values _) (hends values' _) heq
      obtain ⟨rfl, hrest⟩ := entries_inj (newLine (level + 1)) hvalues hbehind
      exact ⟨rfl, List.append_cancel_left (List.append_cancel_left hrest)⟩

end

/-! ### Documents -/

theorem writeItems_eq (level : Nat) (items : List JsonValue) :
    writeItems level items = items.map (write level) := by
  induction items with
  | nil => rfl
  | cons item items ih => rw [writeItems, ih, List.map_cons]

/-- An entry of an object as it is written. -/
def writeEntry (level : Nat) (entry : Text × JsonValue) : Text :=
  quote entry.1 ++ ": " ++ entry.2.write level

theorem writeEntries_eq (level : Nat) (entries : List (Text × JsonValue)) :
    writeEntries level entries = entries.map (writeEntry level) := by
  induction entries with
  | nil => rfl
  | cons entry entries ih => rw [writeEntries, ih, List.map_cons, writeEntry]

theorem isTold_writeEntry {entry : Text × JsonValue} (h : IsTold (write level) entry.2) :
    IsTold (writeEntry level) entry := by
  intro entry' rest rest' hrest hrest' heq
  obtain ⟨key, value⟩ := entry
  obtain ⟨key', value'⟩ := entry'
  simp only [writeEntry, List.append_assoc] at heq
  obtain ⟨rfl, hbehind⟩ := isTold_quote key key' _ _ (by rfl) (by rfl) heq
  obtain ⟨rfl, rfl⟩ := h value' rest rest' hrest hrest' (List.append_cancel_left hbehind)
  exact ⟨rfl, rfl⟩

/-- The kinds of documents, told by the first character of what is written. -/
inductive Kind where
  | text | number | boolean | array | object
  deriving DecidableEq

/-- The kind of a document. -/
def kind : JsonValue → Kind
  | text _ => .text
  | number _ => .number
  | boolean _ => .boolean
  | array _ => .array
  | object _ => .object

/-- The kind of the documents that begin with a character. -/
def kindOf (c : Char) : Kind :=
  if c = '"' then .text
  else if c = '[' then .array
  else if c = '\x7b' then .object
  else if c.isDigit then .number
  else .boolean

theorem kind_eq (level : Nat) (value : JsonValue) (rest : Text) :
    (value.write level ++ rest).head?.map kindOf = some value.kind := by
  cases value with
  | text text => rfl
  | number n =>
    obtain ⟨c, cs, hn, hc⟩ := exists_decimal_eq_cons n
    rw [write, hn, kind, List.cons_append, List.head?_cons, Option.map_some, kindOf,
      if_neg (ne_of_isDigit hc (by decide)), if_neg (ne_of_isDigit hc (by decide)),
      if_neg (ne_of_isDigit hc (by decide)), if_pos hc]
  | boolean b => cases b <;> rfl
  | array items => cases items <;> rfl
  | object entries => cases entries <;> rfl

theorem kind_eq_of_write {value value' : JsonValue}
    (h : value.write level ++ rest = value'.write level ++ rest') : value.kind = value'.kind := by
  have hkinds : some value.kind = some value'.kind := by
    rw [← kind_eq level value rest, h, kind_eq]
  exact Option.some.inj hkinds

/-- A text that begins with a document begins with no other one. -/
theorem isTold_write : ∀ (value : JsonValue) (level : Nat), IsTold (write level) value
  | text t, level => by
    intro value' rest rest' hrest hrest' h
    match value', kind_eq_of_write h with
    | text t', _ =>
      obtain ⟨rfl, hbehind⟩ := isTold_quote t t' rest rest' hrest hrest' h
      exact ⟨rfl, hbehind⟩
  | number n, level => by
    intro value' rest rest' hrest hrest' h
    match value', kind_eq_of_write h with
    | number n', _ =>
      obtain ⟨rfl, hbehind⟩ := isTold_decimal n n' rest rest' hrest hrest' h
      exact ⟨rfl, hbehind⟩
  | boolean b, level => by
    intro value' rest rest' _ _ h
    match value', kind_eq_of_write h with
    | boolean b', _ => cases b <;> cases b' <;> simp_all [write]
  | array items, level => by
    intro value' rest rest' _ _ h
    have hitems : ∀ item ∈ items, IsTold (write (level + 1)) item :=
      fun item _ => isTold_write item (level + 1)
    match value', kind_eq_of_write h with
    | array items', _ =>
      rw [write, write, writeItems_eq, writeItems_eq] at h
      obtain ⟨rfl, hbehind⟩ := bracketed_inj level '[' ']' (by decide) hitems h
      exact ⟨rfl, hbehind⟩
  | object entries, level => by
    intro value' rest rest' _ _ h
    have hentries : ∀ entry ∈ entries, IsTold (writeEntry (level + 1)) entry :=
      fun entry _ => isTold_writeEntry (isTold_write entry.2 (level + 1))
    match value', kind_eq_of_write h with
    | object entries', _ =>
      rw [write, write, writeEntries_eq, writeEntries_eq] at h
      obtain ⟨rfl, hbehind⟩ := bracketed_inj level '{' '}' (by decide) hentries h
      exact ⟨rfl, hbehind⟩
termination_by value => sizeOf value
decreasing_by
  · next hitem =>
    have hsmaller := List.sizeOf_lt_of_mem hitem
    rw [array.sizeOf_spec]
    omega
  · next hentry =>
    have hsmaller := List.sizeOf_lt_of_mem hentry
    have hvalue : sizeOf entry.2 < sizeOf entry := by
      rw [Prod.mk.sizeOf_spec]
      omega
    rw [object.sizeOf_spec]
    omega

/-- No two documents are written alike. -/
theorem write_injective (level : Nat) : Function.Injective (write level) := by
  intro value value' h
  have hends : EndsNumber [] := rfl
  have happend : value.write level ++ [] = value'.write level ++ [] := by
    rw [h]
  exact (isTold_write value level value' [] [] hends hends happend).1

end Testbook.JsonValue
