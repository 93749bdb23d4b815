import Mathlib.Tactic.IntervalCases
import Testbook.Python.Cursor
import Testbook.Proofs.Text.Pieces

/-!
Lexemes of text in normal form. There at most one blank stands in front of a lexeme, and then only
its first character and what follows decide what it is (`next_solid`): the opening of a string where
one may begin, and otherwise a word, a number or an operator. A word ends at a delimiter
(`isLexeme_word`), and an operator is the longest one that fits (`isLexeme_op`).
-/

namespace Testbook.Python

open Testbook.Text

/-- What holds of some characters is decided for one after another. -/
theorem forall_mem_of_all {p : Char → Prop} [DecidablePred p] {chars : List Char}
    (h : (chars.all fun c => decide (p c)) = true) : ∀ c ∈ chars, p c := by
  simpa using h

/-- A cursor in front of a text, in no block and no string. -/
def Cursor.plain (text : Text) : Cursor := { rest := text }

/-- Whether a character begins a lexeme wherever it stands: it is neither blank between lexemes, nor
does it open a comment or continue a line. -/
def isSolid (c : Char) : Bool := !isGapChar c && c != '#' && c != '\\'

/-- What stands between two lexemes in normal form: nothing, or one blank. -/
def IsGap (gap : Text) : Prop := gap = [] ∨ gap = [' ']

variable {e : Expect} {gap text rest : Text} {c : Char} {cs : Text}

theorem IsGap.nil : IsGap [] := .inl rfl

theorem IsGap.blank : IsGap [' '] := .inr rfl

theorem dropWhile_isGapChar (hgap : IsGap gap) (hc : isSolid c = true) (cs : Text) :
    (gap ++ c :: cs).dropWhile isGapChar = c :: cs := by
  have hnot : isGapChar c = false := by
    simp only [isSolid, Bool.and_eq_true, Bool.not_eq_true'] at hc
    exact hc.1.1
  have hdrop : (c :: cs).dropWhile isGapChar = c :: cs := by
    rw [List.dropWhile_cons, hnot]
    rfl
  rcases hgap with rfl | rfl
  · exact hdrop
  · exact hdrop

theorem ne_of_isSolid {d : Char} (hc : isSolid c = true) (hd : isSolid d = false) : c ≠ d := by
  rintro rfl
  rw [hc] at hd
  exact absurd hd (by decide)

theorem before_solid (comments : Bool) (hgap : IsGap gap) (hc : isSolid c = true) :
    Gap.before comments (gap ++ c :: cs) = some ⟨false, gap.length, none, c :: cs⟩ := by
  have hextend (g : Gap) : Gap.extend comments false g (c :: cs) = some { g with rest := c :: cs } := by
    have hfeed := ne_of_isSolid (d := '\n') hc rfl
    have hspace := ne_of_isSolid (d := ' ') hc rfl
    have hreturn := ne_of_isSolid (d := '\r') hc rfl
    have hform := ne_of_isSolid (d := '\x0c') hc rfl
    have htab := ne_of_isSolid (d := '\t') hc rfl
    have hhash := ne_of_isSolid (d := '#') hc rfl
    have hback := ne_of_isSolid (d := '\\') hc rfl
    unfold Gap.extend
    simp [hfeed, hspace, hreturn, hform, htab, hhash, hback]
  rcases hgap with rfl | rfl
  · exact hextend _
  · have hblank (g : Gap) : Gap.extend comments false g (' ' :: c :: cs)
        = Gap.extend comments false { g with indent := g.indent + 1 } (c :: cs) := by
      conv => lhs; unfold Gap.extend
      rfl
    rw [Gap.before, List.singleton_append, hblank]
    exact hextend _

theorem layout?_solid (hgap : IsGap gap) (hc : isSolid c = true) :
    layout? e (.plain (gap ++ c :: cs)) = if e.string then (readOpening (c :: cs)).map
      fun (opening, rest) => (.opening opening, c :: cs, .plain rest)
      else none := by
  simp [layout?, Cursor.plain, before_solid _ hgap hc]

theorem continuation?_solid (hc : isSolid c = true) : continuation? (c :: cs) = none := by
  have hback := ne_of_isSolid (d := '\\') hc rfl
  unfold continuation?
  split <;> simp_all

/-- A string opens where one may begin. -/
theorem next_opening (hgap : IsGap gap) (hc : isSolid c = true) (he : e.string = true)
    {opening : Opening} (ho : readOpening (c :: cs) = some (opening, rest)) :
    next e (.plain (gap ++ c :: cs))
      = ⟨[], .opening opening, c :: cs, .plain rest⟩ := by
  rw [next, layout?_solid hgap hc, if_pos he, ho]
  rfl

/-- The next lexeme where no string opens. -/
theorem next_solid (hgap : IsGap gap) (hc : isSolid c = true)
    (ho : e.string = true → readOpening (c :: cs) = none) :
    next e (.plain (gap ++ c :: cs)) = ⟨[], (readToken e.walrus (c :: cs)).1, c :: cs,
      .plain (readToken e.walrus (c :: cs)).2⟩ := by
  have hlayout : layout? e (.plain (gap ++ c :: cs)) = none := by
    rw [layout?_solid hgap hc]
    split
    · next he => rw [ho he]; rfl
    · rfl
  have hhash := ne_of_isSolid (d := '#') hc rfl
  have hdrop := dropWhile_isGapChar hgap hc cs
  rw [next, hlayout]
  dsimp only [Cursor.plain]
  split
  · next h => rw [hdrop] at h; exact absurd h (by simp)
  · next d ds h =>
    rw [hdrop] at h
    cases h
    rw [if_neg hhash]
    split
    · next h => rw [continuation?_solid hc] at h; exact absurd h (by simp)
    · rfl

/-- The next lexeme starts with a solid character, whatever it is. -/
theorem start_next_solid (e : Expect) (hgap : IsGap gap) (hc : isSolid c = true) (cs : Text) :
    (next e (.plain (gap ++ c :: cs))).start = c :: cs := by
  by_cases ho : e.string = true → readOpening (c :: cs) = none
  · rw [next_solid hgap hc ho]
  · rw [Classical.not_imp, ← ne_eq, Option.ne_none_iff_exists] at ho
    obtain ⟨hstring, ⟨opening, rest⟩, hopening⟩ := ho
    rw [next_opening hgap hc hstring hopening.symm]

/-! ### Lexemes in front of a rest -/

/-- That a text in front of `rest` is a lexeme of its own, in whatever way the reader looks at it. -/
structure IsLexeme (text : Text) (token : Token) (rest : Text) : Prop where
  solid : ∃ c cs, text ++ rest = c :: cs ∧ isSolid c = true
  read (walrus : Bool) : readToken walrus (text ++ rest) = (token, rest)
  unopened : readOpening (text ++ rest) = none

/-- The lexeme is what is read next, behind a blank or not. -/
theorem IsLexeme.next {token : Token} (h : IsLexeme text token rest) (e : Expect) (hgap : IsGap gap) :
    next e (.plain (gap ++ (text ++ rest))) = ⟨[], token, text ++ rest, .plain rest⟩ := by
  obtain ⟨c, cs, htext, hsolid⟩ := h.solid
  have hread := h.read e.walrus
  have hopen := h.unopened
  rw [htext] at hread hopen ⊢
  rw [next_solid hgap hsolid fun _ => hopen, hread]

/-- The characters that may stand behind a name, a number or a string in normal form. -/
def delimiters : List Char := [')', ']', '}', ',', ':', '=', '.', '(', '[', '!', ' ', '\n']

/-- Whether a character may stand behind a name, a number or a string in normal form. -/
def isDelimiter (c : Char) : Bool := delimiters.contains c

theorem isDelimiter_cases (h : isDelimiter c = true) : c ∈ delimiters := List.contains_iff_mem.1 h

theorem isIdentifierContinue_of_isDelimiter (h : isDelimiter c = true) :
    isIdentifierContinue c = false := by
  revert h
  exact (forall_mem_of_all (by decide) : ∀ d ∈ delimiters,
    isIdentifierContinue d = false) c ∘ isDelimiter_cases

theorem isStringQuote_of_isDelimiter (h : isDelimiter c = true) : isStringQuote c = false :=
  (forall_mem_of_all (by decide) : ∀ d ∈ delimiters,
    isStringQuote d = false) c (isDelimiter_cases h)

theorem isStringLetter_of_isDelimiter (h : isDelimiter c = true) : isStringLetter c = false :=
  (forall_mem_of_all (by decide) : ∀ d ∈ delimiters,
    isStringLetter d = false) c (isDelimiter_cases h)

/-- No string opens where something else than a quote stands behind letters. -/
theorem readOpening_eq_none (htext : ∀ d ∈ text, isStringQuote d = false)
    (hletter : isStringLetter c = false) (hquote : isStringQuote c = false) (cs : Text) :
    readOpening (text ++ c :: cs) = none := by
  have hdrop : ∃ d ds, (text ++ c :: cs).dropWhile isStringLetter = d :: ds
      ∧ isStringQuote d = false := by
    induction text with
    | nil => exact ⟨c, cs, by rw [List.nil_append, List.dropWhile_cons, hletter]; rfl, hquote⟩
    | cons d ds ih =>
      rw [List.forall_mem_cons] at htext
      cases hd : isStringLetter d with
      | true =>
        rw [List.cons_append, List.dropWhile_cons, hd]
        exact ih htext.2
      | false =>
        exact ⟨d, ds ++ c :: cs, by rw [List.cons_append, List.dropWhile_cons, hd]; rfl, htext.1⟩
  obtain ⟨d, ds, hdrop, hd⟩ := hdrop
  rw [readOpening, hdrop]
  simp [hd]

/-! ### Words -/

/-- Whether a text is a word. -/
def isIdentifier (text : Text) : Bool :=
  text.head?.any isIdentifierStart && text.all isIdentifierContinue

theorem isIdentifierContinue_of_isIdentifierStart (h : isIdentifierStart c = true) :
    isIdentifierContinue c = true := by
  rw [isIdentifierContinue]
  rw [isIdentifierStart] at h
  split at h
  · next hascii =>
    rw [if_pos hascii, Char.isAlphanum]
    rcases Bool.or_eq_true_iff.1 h with halpha | hunderscore
    · rw [halpha, Bool.true_or, Bool.true_or]
    · rw [hunderscore, Bool.or_true]
  · next hascii => rw [if_neg hascii, h, Bool.true_or]

theorem isStringQuote_of_isIdentifierContinue (h : isIdentifierContinue c = true) :
    isStringQuote c = false := by
  rw [isStringQuote]
  have hne {d : Char} (hd : isIdentifierContinue d = false) : (decide (c = d)) = false :=
    decide_eq_false fun heq => by rw [heq, hd] at h; exact absurd h (by decide)
  rw [hne (by decide), hne (by decide), hne (by decide)]
  rfl

theorem eq_of_isSolid_eq_false (h : isSolid c = false) :
    c ∈ [' ', '\t', '\n', '\x0b', '\x0c', '\r', '\uFEFF', '\u2060', '\u200B', '#', '\\'] := by
  have hofNat {n : Nat} (hn : c.toNat = n) : c = Char.ofNat n := by rw [← hn, Char.ofNat_toNat]
  simp only [isSolid, isGapChar, Bool.and_eq_false_iff, Bool.not_eq_false', Bool.or_eq_true,
    Bool.and_eq_true, decide_eq_true_eq, bne_eq_false_iff_eq, List.mem_cons, List.not_mem_nil,
    or_false] at h
  rcases h with (((hspace | ⟨hlow, hhigh⟩) | h | h | h) | rfl) | rfl
  · simp [hspace]
  · have hrange : c.toNat = 9 ∨ c.toNat = 10 ∨ c.toNat = 11 ∨ c.toNat = 12 ∨ c.toNat = 13 := by omega
    rcases hrange with h | h | h | h | h <;> rw [hofNat h] <;> decide
  · rw [hofNat h]; decide
  · rw [hofNat h]; decide
  · rw [hofNat h]; decide
  · decide
  · decide

theorem isSolid_of_isIdentifierStart (h : isIdentifierStart c = true) : isSolid c = true := by
  cases hsolid : isSolid c with
  | true => rfl
  | false =>
    have hnone := (forall_mem_of_all (by decide +kernel) :
      ∀ d ∈ [' ', '\t', '\n', '\x0b', '\x0c', '\r', '\uFEFF', '\u2060',
      '\u200B', '#', '\\'], isIdentifierStart d = false) c (eq_of_isSolid_eq_false hsolid)
    rw [h] at hnone
    exact absurd hnone (by decide)

theorem takeWhile_delimited {p : Char → Bool} (htext : text.all p = true) (hc : p c = false)
    (cs : Text) :
    (text ++ c :: cs).takeWhile p = text := by
  rw [List.takeWhile_append_of_pos (List.all_eq_true.1 htext), List.takeWhile_cons, hc]
  exact List.append_nil _

theorem dropWhile_delimited {p : Char → Bool} (htext : text.all p = true) (hc : p c = false)
    (cs : Text) :
    (text ++ c :: cs).dropWhile p = c :: cs := by
  rw [List.dropWhile_append_of_pos (List.all_eq_true.1 htext), List.dropWhile_cons, hc]
  rfl

/-- A word in front of a delimiter. -/
theorem isLexeme_word (htext : isIdentifier text = true) (hc : isDelimiter c = true) (cs : Text) :
    IsLexeme text (.word text) (c :: cs) := by
  rw [isIdentifier, Bool.and_eq_true] at htext
  obtain ⟨hhead, hall⟩ := htext
  have hnot := isIdentifierContinue_of_isDelimiter hc
  cases text with
  | nil => exact absurd hhead (by decide)
  | cons d ds =>
    have hd : isIdentifierStart d = true := hhead
    refine ⟨⟨d, ds ++ c :: cs, rfl, isSolid_of_isIdentifierStart hd⟩, fun walrus => ?_, ?_⟩
    · have htake := takeWhile_delimited hall hnot cs
      have hdrop := dropWhile_delimited hall hnot cs
      rw [List.cons_append] at htake hdrop ⊢
      rw [readToken, if_pos hd, htake, hdrop]
    · exact readOpening_eq_none
        (fun x hx => isStringQuote_of_isIdentifierContinue (List.all_eq_true.1 hall x hx))
        (isStringLetter_of_isDelimiter hc) (isStringQuote_of_isDelimiter hc) cs

/-! ### Operators -/

/-- Whether two texts differ at a place that both have. -/
def differ : Text → Text → Bool
  | c :: cs, d :: ds => c != d || differ cs ds
  | _, _ => false

theorem dropStart?_eq_none {start : Text} (h : differ start text = true) (rest : Text) :
    dropStart? start (text ++ rest) = none := by
  induction start generalizing text with
  | nil => exact absurd h (by simp [differ])
  | cons c cs ih =>
    cases text with
    | nil => exact absurd h (by simp [differ])
    | cons d ds =>
      rw [List.cons_append, dropStart?]
      split
      · next heq =>
        rw [differ, heq, bne_self_eq_false, Bool.false_or] at h
        exact ih h
      · rfl

/-- The operator at the front is the first one of the list that none before it can stand for. -/
theorem readOperator_eq {symbols : List String} {symbol : String} {rest : Text}
    (hmem : symbol ∈ symbols)
    (hbefore : ∀ s ∈ symbols.takeWhile (· != symbol),
      dropStart? s.toList (symbol.toList ++ rest) = none) :
    readOperator symbols (symbol.toList ++ rest) = (.op symbol, rest) := by
  induction symbols with
  | nil => exact absurd hmem List.not_mem_nil
  | cons s ss ih =>
    rw [readOperator]
    by_cases hs : s = symbol
    · rw [hs, dropStart?_append]
    · have htake : (s :: ss).takeWhile (· != symbol) = s :: ss.takeWhile (· != symbol) := by
        rw [List.takeWhile_cons, if_pos (bne_iff_ne.2 hs)]
      rw [htake, List.forall_mem_cons] at hbefore
      rw [hbefore.1]
      exact ih ((List.mem_cons.1 hmem).resolve_left (Ne.symm hs)) hbefore.2

theorem eq_append_of_readOperator {symbols : List String} {symbol : String}
    (h : (readOperator symbols text).1 = .op symbol) : ∃ rest, text = symbol.toList ++ rest := by
  induction symbols with
  | nil => exact absurd h (by simp [readOperator])
  | cons s ss ih =>
    rw [readOperator] at h
    split at h
    · next rest hdrop =>
      cases h
      exact ⟨rest, dropStart?_eq_some hdrop⟩
    · exact ih h

theorem readNumber_cases (text : Text) :
    (∃ t, (readNumber text).1 = .integer t) ∨ ∃ t, (readNumber text).1 = .float t := by
  have hdecimal (t : Text) :
      (∃ t', (readDecimal t).1 = .integer t') ∨ ∃ t', (readDecimal t).1 = .float t' := by
    unfold readDecimal
    dsimp only
    split <;> split <;> simp
  unfold readNumber
  split
  · dsimp only
    split
    · exact hdecimal _
    · exact .inl ⟨_, rfl⟩
  · exact hdecimal _

/-- A token that is an operator is what the text begins with. -/
theorem eq_append_of_readToken {walrus : Bool} {symbol : String}
    (h : (readToken walrus text).1 = .op symbol) : ∃ rest, text = symbol.toList ++ rest := by
  have hnumber (t : Text) : (readNumber t).1 ≠ .op symbol := by
    rcases readNumber_cases t with ⟨_, ht⟩ | ⟨_, ht⟩ <;> simp [ht]
  unfold readToken at h
  split at h
  · exact absurd h (by simp)
  · split at h
    · exact absurd h (by simp)
    · split at h
      · exact absurd h (hnumber _)
      · split at h
        · exact absurd h (by simp)
        · exact eq_append_of_readOperator h

theorem readOperator_ne_word (symbols : List String) (text word : Text) :
    (readOperator symbols text).1 ≠ .word word := by
  induction symbols with
  | nil => simp [readOperator]
  | cons s ss ih =>
    rw [readOperator]
    split
    · simp
    · exact ih

/-- A token that is a word is what the text begins with. -/
theorem eq_append_of_readToken_word {walrus : Bool} {word : Text}
    (h : (readToken walrus text).1 = .word word) : ∃ rest, text = word ++ rest := by
  have hnumber (t : Text) : (readNumber t).1 ≠ .word word := by
    rcases readNumber_cases t with ⟨_, ht⟩ | ⟨_, ht⟩ <;> simp [ht]
  unfold readToken at h
  split at h
  · exact absurd h (by simp)
  · split at h
    · cases h
      exact ⟨_, List.takeWhile_append_dropWhile.symm⟩
    · split at h
      · exact absurd h (hnumber _)
      · split at h
        · exact absurd h (by simp)
        · exact absurd h (readOperator_ne_word _ _ _)

/-- Whether the text of an operator, with what stands ahead of it, cannot begin a word, a number, a
conversion or a string. -/
def startsOperator : Text → Bool
  | '.' :: d :: _ => !d.isDigit
  | '!' :: d :: _ => !d.isLower
  | c :: _ => isSolid c && !isIdentifierStart c && !c.isDigit && !isStringLetter c
    && !isStringQuote c && !(['.', '!'].contains c)
  | [] => false

theorem readToken_startsOperator (h : startsOperator text = true) (walrus : Bool) (rest : Text) :
    readToken walrus (text ++ rest)
      = readOperator (if walrus then ":=" :: operators else operators) (text ++ rest) := by
  unfold startsOperator at h
  split at h
  · next d ds =>
    have hd : d.isDigit = false := by simpa using h
    have hpoint : isIdentifierStart '.' = false := by decide
    simp [readToken, hpoint, hd]
  · next d ds =>
    have hd : d.isLower = false := by simpa using h
    have hbang : isIdentifierStart '!' = false := by decide
    simp [readToken, hbang, hd]
  · next c cs _ _ =>
    simp only [Bool.and_eq_true, Bool.not_eq_true', List.contains_eq_mem, List.mem_cons,
      List.not_mem_nil, or_false, decide_eq_false_iff_not, not_or] at h
    obtain ⟨⟨⟨⟨⟨hsolid, hstart⟩, hdigit⟩, hletter⟩, hquote⟩, hdot, hbang⟩ := h
    simp [readToken, hstart, hdigit, hdot, hbang]
  · exact absurd h (by decide)

theorem exists_solid_of_startsOperator (h : startsOperator text = true) :
    ∃ c cs, text = c :: cs ∧ isSolid c = true ∧ isStringLetter c = false ∧ isStringQuote c = false := by
  unfold startsOperator at h
  split at h
  · exact ⟨_, _, rfl, by decide, by decide, by decide⟩
  · exact ⟨_, _, rfl, by decide, by decide, by decide⟩
  · next c cs _ _ =>
    simp only [Bool.and_eq_true, Bool.not_eq_true'] at h
    exact ⟨c, cs, rfl, h.1.1.1.1.1, h.1.1.2, h.1.2⟩
  · exact absurd h (by decide)

/-- Whether an operator is the longest one with what stands ahead of it. -/
def isLongest (symbol : String) (ahead : Text) : Bool :=
  ((":=" :: operators).takeWhile (· != symbol)).all fun s =>
    differ s.toList (symbol.toList ++ ahead)

/-- An operator in front of a rest that is known as far as `ahead`. -/
theorem isLexeme_op {symbol : String} {ahead : Text} (hmem : symbol ∈ operators)
    (hstart : startsOperator (symbol.toList ++ ahead) = true)
    (hlong : isLongest symbol ahead = true) (rest : Text) :
    IsLexeme symbol.toList (.op symbol) (ahead ++ rest) := by
  have hwalrus : ":=" ≠ symbol := by
    rintro rfl
    exact absurd hmem (by decide)
  have htake : (":=" :: operators).takeWhile (· != symbol)
      = ":=" :: operators.takeWhile (· != symbol) := by
    rw [List.takeWhile_cons, if_pos (bne_iff_ne.2 hwalrus)]
  have hbefore : ∀ s ∈ (":=" :: operators).takeWhile (· != symbol),
      dropStart? s.toList (symbol.toList ++ (ahead ++ rest)) = none := fun s hs => by
    rw [← List.append_assoc]
    exact dropStart?_eq_none (List.all_eq_true.1 hlong s hs) rest
  have hread (walrus : Bool) :
      readOperator (if walrus then ":=" :: operators else operators) (symbol.toList ++ (ahead ++ rest))
        = (.op symbol, ahead ++ rest) := by
    cases walrus with
    | true => exact readOperator_eq (List.mem_cons_of_mem _ hmem) hbefore
    | false =>
      rw [htake, List.forall_mem_cons] at hbefore
      exact readOperator_eq hmem hbefore.2
  obtain ⟨c, cs, htext, hsolid, hletter, hquote⟩ := exists_solid_of_startsOperator hstart
  refine ⟨⟨c, cs ++ rest, ?_, hsolid⟩, fun walrus => ?_, ?_⟩
  · rw [← List.append_assoc, htext, List.cons_append]
  · rw [← hread walrus, ← List.append_assoc]
    exact readToken_startsOperator hstart walrus rest
  · rw [← List.append_assoc, htext]
    have hnil : ∀ d ∈ ([] : Text), isStringQuote d = false := fun d hd => absurd hd List.not_mem_nil
    exact readOpening_eq_none hnil hletter hquote _

/-- Brackets, a comma and an ellipsis are operators whatever stands behind them. -/
theorem isLexeme_bracket {symbol : String}
    (h : symbol ∈ ["(", ")", "[", "]", "\x7b", "\x7d", ",", "..."]) (rest : Text) :
    IsLexeme symbol.toList (.op symbol) rest := by
  have hchecks : ∀ s ∈ ["(", ")", "[", "]", "\x7b", "\x7d", ",", "..."], s ∈ operators
      ∧ startsOperator (s.toList ++ []) = true ∧ isLongest s [] = true := by decide +kernel
  obtain ⟨hmem, hstart, hlong⟩ := hchecks symbol h
  exact isLexeme_op hmem hstart hlong rest

/-- An operator with a blank behind it. -/
theorem isLexeme_op_blank {symbol : String} (h : symbol ∈ operators) (rest : Text) :
    IsLexeme symbol.toList (.op symbol) (' ' :: rest) := by
  have hchecks : ∀ s ∈ operators, startsOperator (s.toList ++ [' ']) = true
      ∧ isLongest s [' '] = true := by decide +kernel
  obtain ⟨hstart, hlong⟩ := hchecks symbol h
  exact isLexeme_op h hstart hlong rest

/-- The operators that may stand in front of text without a blank, though other operators begin with
them. -/
def shortOperators : List String := [":", "=", "*", "**", "/", "@"]

/-- A short operator, in front of a character that no longer one has there. -/
theorem isLexeme_symbol {symbol : String} {c : Char} (h : symbol ∈ shortOperators)
    (hc : ['*', '/', '='].contains c = false) (rest : Text) :
    IsLexeme symbol.toList (.op symbol) (c :: rest) := by
  simp only [List.contains_eq_mem, List.mem_cons, List.not_mem_nil, or_false,
    decide_eq_false_iff_not, not_or] at hc
  obtain ⟨hstar, hslash, hequals⟩ := hc
  simp only [shortOperators, List.mem_cons, List.not_mem_nil, or_false] at h
  change IsLexeme symbol.toList (.op symbol) ([c] ++ rest)
  refine isLexeme_op ?_ ?_ ?_ rest
  · rcases h with rfl | rfl | rfl | rfl | rfl | rfl <;> decide
  · rcases h with rfl | rfl | rfl | rfl | rfl | rfl <;> rfl
  · rcases h with rfl | rfl | rfl | rfl | rfl | rfl <;>
      simp [isLongest, operators, differ, Ne.symm hstar, Ne.symm hslash, Ne.symm hequals]

theorem mem_of_isDigit (h : c.isDigit = true) :
    c ∈ ['0', '1', '2', '3', '4', '5', '6', '7', '8', '9'] := by
  obtain ⟨hlow, hhigh⟩ : 48 ≤ c.toNat ∧ c.toNat ≤ 57 := Char.isDigit_iff_toNat.1 h
  rw [← Char.ofNat_toNat c]
  generalize c.toNat = n at hlow hhigh
  interval_cases n <;> decide

theorem isIdentifierStart_of_isDigit (h : c.isDigit = true) : isIdentifierStart c = false :=
  (forall_mem_of_all (by decide) : ∀ d ∈ ['0', '1', '2', '3', '4', '5', '6', '7', '8', '9'],
    isIdentifierStart d = false) c (mem_of_isDigit h)

/-- A point in front of a word. -/
theorem isLexeme_point (htext : isIdentifier text = true) (rest : Text) :
    IsLexeme ".".toList (.op ".") (text ++ rest) := by
  rw [isIdentifier, Bool.and_eq_true] at htext
  cases text with
  | nil => exact absurd htext.1 (by decide)
  | cons c cs =>
    have hc : isIdentifierStart c = true := htext.1
    have hne {d : Char} (hd : isIdentifierStart d = false) : d ≠ c := by
      rintro rfl
      rw [hc] at hd
      exact absurd hd (by decide)
    have hdigit : c.isDigit = false := Bool.eq_false_iff.2 fun hdigit => by
      rw [isIdentifierStart_of_isDigit hdigit] at hc
      exact absurd hc (by decide)
    change IsLexeme ".".toList (.op ".") ([c] ++ (cs ++ rest))
    refine isLexeme_op (by decide) ?_ ?_ _
    · simp [startsOperator, hdigit]
    · have hpoint := hne (d := '.') (by decide)
      simp [isLongest, operators, differ, hpoint]

end Testbook.Python
