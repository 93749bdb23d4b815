import Testbook.Proofs.Python.Reads

/-!
Operands in normal form. `IsOperand text e` says that a text is read as the operand `e` whatever
delimiter stands behind it; attributes, calls and subscripts may go on from there. How deep the
grammar is matters only by the length of the text: four levels for a character are enough.
-/

namespace Testbook.Python

open Testbook.Text

/-! ### What stands behind -/

/-- That a text begins with a delimiter. -/
def IsDelimited (text : Text) : Prop := ∃ c cs, text = c :: cs ∧ isDelimiter c = true

/-- What stands behind an expression: a delimiter, and from it on the given token, whatever else is
expected there. Only for the end of a line it matters whether one is expected. A point is one by
itself, and does not begin a number. -/
structure Follows (after : Expect) (rest : Text) (token : Token) (behind : Text) : Prop where
  delimited : IsDelimited rest
  point (hhead : rest.head? = some '.') : token = .op "."
  next_eq (x : Expect) (hx : after.newline = true → x.newline = true) : ∃ start,
    next x (.plain rest) = ⟨[], token, start, .plain behind⟩

variable {after opening : Expect} {text gap rest behind : Text} {token : Token}

theorem Follows.next (h : Follows after rest token behind) :
    ∃ start, next after (.plain rest) = ⟨[], token, start, .plain behind⟩ :=
  h.next_eq after id

theorem IsLexeme.follows (h : IsLexeme text token behind) (hgap : IsGap gap)
    (hdelim : ((gap ++ text).head?.any fun c => isDelimiter c && (c != '.' || token = .op ".")) = true) :
    Follows after (gap ++ (text ++ behind)) token behind := by
  rw [← List.append_assoc]
  cases htext : gap ++ text with
  | nil =>
    rw [htext] at hdelim
    exact absurd hdelim Bool.false_ne_true
  | cons c cs =>
    rw [htext] at hdelim
    simp only [List.head?_cons, Option.any_some, Bool.and_eq_true, Bool.or_eq_true, bne_iff_ne,
      decide_eq_true_eq] at hdelim
    refine ⟨⟨c, cs ++ behind, rfl, hdelim.1⟩, fun hhead => ?_, fun x _ => ⟨text ++ behind, ?_⟩⟩
    · exact hdelim.2.resolve_left fun hne => hne (Option.some.inj hhead)
    · rw [← htext, List.append_assoc]
      exact h.next x hgap

theorem follows_bracket {symbol : String} (h : symbol ∈ ["(", ")", "[", "]", "\x7d", ","])
    (rest : Text) : Follows after (symbol.toList ++ rest) (.op symbol) rest := by
  have hchecks : ∀ s ∈ ["(", ")", "[", "]", "\x7d", ","],
      s ∈ ["(", ")", "[", "]", "\x7b", "\x7d", ",", "..."]
        ∧ (s.toList.head?.any fun c => isDelimiter c && (c != '.' || Token.op s = .op ".")) = true := by
    decide
  obtain ⟨hmem, hdelim⟩ := hchecks symbol h
  exact (isLexeme_bracket hmem rest).follows .nil hdelim

theorem follows_colon {c : Char} (hc : ['*', '/', '='].contains c = false) (rest : Text) :
    Follows after (':' :: c :: rest) (.op ":") (c :: rest) := by
  have hmem : ":" ∈ shortOperators := by decide
  exact (isLexeme_symbol hmem hc rest).follows .nil (by decide)

theorem follows_operator {symbol : String} (h : symbol ∈ operators) (rest : Text) :
    Follows after (' ' :: (symbol.toList ++ ' ' :: rest)) (.op symbol) (' ' :: rest) :=
  (isLexeme_op_blank h rest).follows .blank rfl

theorem follows_word {word : Text} (h : isIdentifier word = true) (rest : Text) :
    Follows after (' ' :: (word ++ ' ' :: rest)) (.word word) (' ' :: rest) :=
  (isLexeme_word h (by decide) _).follows .blank rfl

theorem follows_point (h : isIdentifier text = true) (rest : Text) :
    Follows after ('.' :: (text ++ rest)) (.op ".") (text ++ rest) :=
  (isLexeme_point h rest).follows .nil (by decide)

/-! ### How operands begin -/

/-- Whether a word has a meaning of its own where an operand may begin. -/
def isKeyword (word : Text) : Bool :=
  ["lambda".toList, "not".toList, "await".toList, "yield".toList].contains word

/-- Whether a token begins an operand in normal form. -/
def Token.beginsOperand : Token → Bool
  | .word w => !isKeyword w
  | .integer _ | .float _ | .opening _ => true
  | .op symbol => ["(", "[", "\x7b", "..."].contains symbol
  | _ => false

/-- How the text of an operand begins: with a word, behind which the text goes on along attributes,
calls and subscripts, or with another token of an operand. -/
inductive Begins : Text → Prop
  | word {word tail : Text} (hword : isIdentifier word = true) (hkey : isKeyword word = false)
      (htail : ∀ c ∈ tail.head?, c ∈ ['.', '(', '[']) : Begins (word ++ tail)
  | other {text : Text}
      (hhead : (text.head?.any fun c => isSolid c && !(['*', '/', '=', 'n'].contains c)) = true)
      (hnext : ∀ (e : Expect) (gap rest : Text), e.string = true → IsGap gap →
        IsDelimited rest → ∃ token start cursor,
          next e (.plain (gap ++ (text ++ rest))) = ⟨[], token, start, cursor⟩
            ∧ token.beginsOperand = true ∧ ∀ w, token ≠ .word w) : Begins text

namespace Begins

theorem append (h : Begins text) {tail : Text} (htail : ∃ c ∈ tail.head?, c ∈ ['.', '(', '[']) :
    Begins (text ++ tail) := by
  cases h with
  | @word word front hword hkey hfront =>
    rw [List.append_assoc]
    refine .word hword hkey fun c hc => ?_
    rw [List.head?_append] at hc
    cases hfirst : front.head? with
    | some d =>
      rw [hfirst, Option.some_or] at hc
      exact hfront c (hfirst ▸ hc)
    | none =>
      rw [hfirst, Option.none_or] at hc
      obtain ⟨d, hd, hmem⟩ := htail
      rw [Option.mem_unique hc hd]
      exact hmem
  | other hhead hnext =>
    refine .other ?_ fun e gap rest he hgap hrest => ?_
    · cases text with
      | nil => exact absurd hhead (by decide)
      | cons c cs => exact hhead
    rw [List.append_assoc]
    refine hnext e gap (tail ++ rest) he hgap ?_
    obtain ⟨c, hc, hmem⟩ := htail
    obtain ⟨cs, htext⟩ := List.head?_eq_some_iff.1 hc
    refine ⟨c, cs ++ rest, by rw [htext, List.cons_append], ?_⟩
    exact (forall_mem_of_all (by decide) : ∀ d ∈ ['.', '(', '['], isDelimiter d = true) c hmem

/-- Behind the word at the front of an operand stands a delimiter. -/
theorem delimited_tail {tail : Text} (htail : ∀ c ∈ tail.head?, c ∈ ['.', '(', '['])
    (hrest : IsDelimited rest) :
    IsDelimited (tail ++ rest) := by
  cases tail with
  | nil => exact hrest
  | cons c cs =>
    exact ⟨c, cs ++ rest, rfl, (forall_mem_of_all (by decide) : ∀ d ∈ ['.', '(', '['], isDelimiter d = true) c
      (htail c rfl)⟩

theorem next (h : Begins text) {e : Expect} (he : e.string = true) (hgap : IsGap gap)
    (hrest : IsDelimited rest) :
    ∃ token start cursor, next e (.plain (gap ++ (text ++ rest))) = ⟨[], token, start, cursor⟩
      ∧ token.beginsOperand = true := by
  cases h with
  | @word word tail hword hkey htail =>
    obtain ⟨c, cs, hcs, hc⟩ := delimited_tail htail hrest
    have hlexeme := isLexeme_word hword hc cs
    rw [List.append_assoc, hcs]
    exact ⟨_, _, _, hlexeme.next e hgap, by simpa [Token.beginsOperand] using hkey⟩
  | other _ hnext =>
    obtain ⟨token, start, cursor, h, hbegins, -⟩ := hnext e gap rest he hgap hrest
    exact ⟨token, start, cursor, h, hbegins⟩

/-- No operator of several characters ends where an operand begins. -/
theorem head (h : Begins text) : ∃ c cs, text = c :: cs ∧ ['*', '/', '='].contains c = false := by
  cases h with
  | @word word tail hword _ _ =>
    rw [isIdentifier, Bool.and_eq_true] at hword
    cases word with
    | nil => exact absurd hword.1 (by decide)
    | cons c cs =>
      refine ⟨c, cs ++ tail, rfl, Bool.eq_false_iff.2 fun hmem => ?_⟩
      have hnone := (forall_mem_of_all (by decide) : ∀ d ∈ ['*', '/', '='], isIdentifierStart d = false) c
        (List.contains_iff_mem.1 hmem)
      have hstart : isIdentifierStart c = true := hword.1
      rw [hstart] at hnone
      exact absurd hnone (by decide)
  | other hhead _ =>
    cases text with
    | nil => exact absurd hhead (by decide)
    | cons c cs =>
      refine ⟨c, cs, rfl, ?_⟩
      simp only [List.head?_cons, Option.any_some, Bool.and_eq_true, Bool.not_eq_true',
        List.contains_eq_mem, decide_eq_false_iff_not, List.mem_cons, not_or] at hhead ⊢
      exact ⟨hhead.2.1, hhead.2.2.1, hhead.2.2.2.1, List.not_mem_nil⟩

theorem exists_solid (h : Begins text) : ∃ c cs, text = c :: cs ∧ isSolid c = true := by
  cases h with
  | @word word tail hword _ _ =>
    rw [isIdentifier, Bool.and_eq_true] at hword
    cases word with
    | nil => exact absurd hword.1 (by decide)
    | cons c cs => exact ⟨c, cs ++ tail, rfl, isSolid_of_isIdentifierStart hword.1⟩
  | other hhead _ =>
    cases text with
    | nil => exact absurd hhead (by decide)
    | cons c cs =>
      simp only [List.head?_cons, Option.any_some, Bool.and_eq_true] at hhead
      exact ⟨c, cs, rfl, hhead.1⟩

theorem start_next (h : Begins text) (x : Expect) (hgap : IsGap gap) (rest : Text) :
    (Python.next x (.plain (gap ++ (text ++ rest)))).start = text ++ rest := by
  obtain ⟨c, cs, rfl, hc⟩ := h.exists_solid
  exact start_next_solid x hgap hc (cs ++ rest)

/-- No operand begins with the word that negates, whether a string may begin there or not. -/
theorem next_ne_not (h : Begins text) (x : Expect) (hgap : IsGap gap) (hrest : IsDelimited rest) :
    (Python.next x (.plain (gap ++ (text ++ rest)))).token ≠ .word "not".toList := by
  cases h with
  | @word word tail hword hkey htail =>
    obtain ⟨c, cs, hcs, hc⟩ := delimited_tail htail hrest
    rw [List.append_assoc, hcs, (isLexeme_word hword hc cs).next x hgap]
    intro htoken
    cases htoken
    exact absurd hkey (by decide)
  | other hhead hnext =>
    cases hstring : x.string with
    | true =>
      obtain ⟨token, start, cursor, h, -, hword⟩ := hnext x gap rest hstring hgap hrest
      rw [h]
      exact hword _
    | false =>
      cases text with
      | nil => exact absurd hhead (by decide)
      | cons c cs =>
        simp only [List.head?_cons, Option.any_some, Bool.and_eq_true, Bool.not_eq_true',
          List.contains_eq_mem, decide_eq_false_iff_not, List.mem_cons, not_or] at hhead
        rw [List.cons_append, next_solid hgap hhead.1 fun hx => by rw [hstring] at hx; cases hx]
        intro htoken
        obtain ⟨behind, htext⟩ := eq_append_of_readToken_word htoken
        exact hhead.2.2.2.2.1 (List.cons.inj htext).1

end Begins

/-! ### From operands to expressions -/

/-- Whether a token opens a string, and so goes on with one in front of it. -/
def Token.opens : Token → Bool
  | .opening _ => true
  | _ => false

/-- Whether a token goes on with an operand in front of it: a string, an attribute, a call or a
subscript. -/
def Token.trails : Token → Bool
  | .op symbol => [".", "(", "["].contains symbol
  | token => token.opens

/-- Whether a token is an operator of arithmetic of at least the given strength. -/
def Token.joins (least : Nat) : Token → Bool
  | .op symbol => (strength? symbol).any (least ≤ ·)
  | _ => false

/-- Whether a token is an operator of comparison, or begins one. -/
def Token.compares : Token → Bool
  | .op symbol => ["<", "<=", "==", "!=", ">=", ">", "<>"].contains symbol
  | .word w => ["in".toList, "is".toList, "not".toList].contains w
  | _ => false

/-- Whether a token goes on with an operand more strongly than the operators of words do. -/
def Token.binds (token : Token) : Bool :=
  token.trails || token.joins weakestOperator || token.compares || token = .op ":="

/-- Whether a token continues an expression of a level by an operator of words. -/
def Token.continues (level : Nat) : Token → Bool
  | .word w => (w = "or".toList && level < orLevel) || (w = "and".toList && level < andLevel)
    || (w = "as".toList && level < asLevel) || (w = "if".toList && level = anyLevel)
  | _ => false

/-- Whether a token ends an expression of a level. -/
def Token.ends (level : Nat) : Token → Bool
  | .newline => true
  | .op symbol => [")", "]", "\x7d", ",", ":"].contains symbol
  | .word w => w = "for".toList || w = "else".toList || (w = "if".toList && level != anyLevel)
  | _ => false

theorem Token.opens_of_trails (h : token.trails = false) : token.opens = false := by
  cases token with
  | op symbol => rfl
  | _ => exact h

theorem Token.binds_of_ends {level : Nat} (h : token.ends level = true) : token.binds = false := by
  cases token with
  | op symbol =>
    exact (by decide : ∀ s ∈ [")", "]", "\x7d", ",", ":"], (Token.op s).binds = false) symbol
      (List.contains_iff_mem.1 h)
  | word w =>
    have hmem : w ∈ ["for".toList, "else".toList, "if".toList] := by
      simp only [Token.ends, Bool.or_eq_true, Bool.and_eq_true, decide_eq_true_eq] at h
      simp only [List.mem_cons, List.not_mem_nil, or_false]
      tauto
    exact (by decide : ∀ v ∈ ["for".toList, "else".toList, "if".toList],
      (Token.word v).binds = false) w hmem
  | newline => rfl
  | _ => exact absurd h (by simp [Token.ends])

theorem Token.ends_of_ends_anyLevel (h : token.ends anyLevel = true) (level : Nat) :
    token.ends level = true := by
  cases token with
  | word w =>
    simp only [Token.ends, bne_self_eq_false, Bool.and_false, Bool.or_false] at h
    rw [Token.ends, h, Bool.true_or]
  | _ => exact h

theorem Token.trails_of_binds (h : token.binds = false) : token.trails = false := by
  simp only [Token.binds, Bool.or_eq_false_iff] at h
  exact h.1.1.1

theorem Token.joins_of_ends {level : Nat} (h : token.ends level = true) (least : Nat) :
    token.joins least = false := by
  cases token with
  | op symbol =>
    have hnone := (by decide : ∀ s ∈ [")", "]", "\x7d", ",", ":"], strength? s = none) symbol
      (List.contains_iff_mem.1 h)
    rw [Token.joins, hnone]
    rfl
  | _ => rfl

theorem Token.continues_of_ends {level : Nat} (h : token.ends level = true) :
    token.continues level = false := by
  cases token with
  | word w =>
    simp only [Token.ends, Bool.or_eq_true, Bool.and_eq_true, decide_eq_true_eq,
      bne_iff_ne] at h
    rcases h with (rfl | rfl) | ⟨rfl, hlevel⟩
    · rfl
    · rfl
    · simp [Token.continues, hlevel]
  | _ => rfl

variable {g : Grammar} {e : Expr} {level least : Nat} {rest' : Text}

theorem reads_readSigned (hb : Begins text) (hgap : IsGap gap) (hrest : IsDelimited rest)
    (h : Reads (readPrimary g (readClauses g g.steps) opening after) (gap ++ (text ++ rest)) e rest') :
    Reads (readSigned g opening after) (gap ++ (text ++ rest)) e rest' := by
  obtain ⟨token, start, cursor, hnext, hbegins⟩ := hb.next (e := opening.orOperand) rfl hgap hrest
  refine (Reads.peek hnext).bind ?_
  cases token with
  | word w =>
    have hw : w ≠ "await".toList := by
      rintro rfl
      exact absurd hbegins (by decide)
    simpa only [if_neg hw] using h
  | op symbol =>
    have hsymbol : symbol ∉ ["+", "-", "~"] := fun hmem => by
      have hnone := (by decide : ∀ s ∈ ["+", "-", "~"], (Token.op s).beginsOperand = false) symbol hmem
      rw [hbegins] at hnone
      exact absurd hnone (by decide)
    simpa only [if_neg hsymbol] using h
  | _ => exact h

theorem reads_readArithmetic_none (hfollows : Follows after rest token behind)
    (htoken : token.joins least = false) :
    Reads (readArithmetic g least after e) rest (.inr e) rest := by
  obtain ⟨start, hnext⟩ := hfollows.next
  refine (Reads.peek hnext).bind ?_
  cases token with
  | op symbol =>
    cases hstrength : strength? symbol with
    | none =>
      simp only [hstrength]
      exact Reads.pure _ _
    | some strength =>
      have hweak : ¬ least ≤ strength := by simpa [Token.joins, hstrength] using htoken
      simp only [hstrength, if_neg hweak]
      exact Reads.pure _ _
  | _ => exact Reads.pure _ _

theorem reads_readBinary_single (h : Reads (readSigned g opening after) text e rest)
    (hfollows : Follows after rest token behind) (htoken : token.joins least = false)
    (hsteps : 0 < g.steps) : Reads (readBinary g least opening after) text e rest := by
  obtain ⟨n, hn⟩ := Nat.exists_eq_add_one_of_ne_zero hsteps.ne'
  refine h.bind ?_
  rw [hn]
  exact Reads.iterate_done (reads_readArithmetic_none hfollows htoken)

theorem reads_readComparison?_none (hfollows : Follows after rest token behind)
    (htoken : token.compares = false) : Reads (readComparison? after) rest none rest := by
  obtain ⟨start, hnext⟩ := hfollows.next
  refine (Reads.peek hnext).bind ?_
  cases token with
  | op symbol =>
    have hsymbol : symbol ∉ ["<", "<=", "==", "!=", ">=", ">", "<>"] := by
      simpa only [Token.compares, List.contains_eq_mem, decide_eq_false_iff_not] using htoken
    simp only [if_neg hsymbol]
    exact Reads.pure _ _
  | word w =>
    have hword : w ≠ "in".toList ∧ w ≠ "is".toList ∧ w ≠ "not".toList := by
      simpa [Token.compares, not_or] using htoken
    simp only [Lexeme.isWord, Token.word.injEq, hword, decide_false, Bool.false_eq_true, if_false]
    exact Reads.pure _ _
  | _ => exact Reads.pure _ _

theorem reads_readComparisons_single
    (h : Reads (g.binary weakestOperator opening after) text e rest)
    (hfollows : Follows after rest token behind) (htoken : token.compares = false)
    (hsteps : 0 < g.steps) : Reads (readComparisons g opening after) text e rest := by
  obtain ⟨n, hn⟩ := Nat.exists_eq_add_one_of_ne_zero hsteps.ne'
  refine h.bind ?_
  rw [hn]
  exact Reads.iterate_done ((reads_readComparison?_none hfollows htoken).bind (Reads.pure _ _))

/-- Behind the word at the front of an operand stands no operator that begins with another character
than an attribute, a call or a subscript, unless it stands behind the operand. -/
theorem next_tail_ne (symbol : String) {tail : Text} (htail : ∀ c ∈ tail.head?, c ∈ ['.', '(', '['])
    (hsymbol : (symbol.toList.head?.any fun c => !(['.', '(', '['].contains c)) = true)
    (hfollows : Follows after rest token behind) (htoken : token ≠ .op symbol) (x : Expect)
    (hx : after.newline = true → x.newline = true) :
    (next x (.plain (tail ++ rest))).token ≠ .op symbol := by
  cases tail with
  | nil =>
    obtain ⟨start, hnext⟩ := hfollows.next_eq x hx
    rw [List.nil_append, hnext]
    exact htoken
  | cons c cs =>
    have hc := htail c rfl
    have hchecks : isSolid c = true ∧ isStringLetter c = false ∧ isStringQuote c = false :=
      (forall_mem_of_all (by decide) : ∀ d ∈ ['.', '(', '['], isSolid d = true ∧ isStringLetter d = false
        ∧ isStringQuote d = false) c hc
    have hnil : ∀ d ∈ ([] : Text), isStringQuote d = false := fun d hd => absurd hd List.not_mem_nil
    have hnext := next_solid (e := x) .nil hchecks.1
      fun _ => readOpening_eq_none hnil hchecks.2.1 hchecks.2.2 (cs ++ rest)
    rw [List.nil_append] at hnext
    rw [List.cons_append, hnext]
    intro htok
    obtain ⟨behind, htext⟩ := eq_append_of_readToken htok
    cases hchars : symbol.toList with
    | nil =>
      rw [hchars] at hsymbol
      exact absurd hsymbol (by decide)
    | cons d ds =>
      rw [hchars, List.cons_append] at htext
      rw [hchars] at hsymbol
      have hd : d ∉ ['.', '(', '['] := by simpa using hsymbol
      rw [← (List.cons.inj htext).1] at hd
      exact hd hc

theorem reads_readNamed?_none (hb : Begins text) (hgap : IsGap gap)
    (hfollows : Follows after rest token behind) (htoken : token ≠ .op ":=") :
    Reads (readNamed? g (next opening.orOperand (.plain (gap ++ (text ++ rest)))) after)
      (gap ++ (text ++ rest)) none (gap ++ (text ++ rest)) := by
  cases hb with
  | @word word tail hword hkey htail =>
    obtain ⟨c, cs, hcs, hc⟩ := Begins.delimited_tail htail hfollows.delimited
    have hlexeme := isLexeme_word hword hc cs
    rw [List.append_assoc, hcs, hlexeme.next _ hgap, readNamed?]
    refine (Reads.get _).bind ((Reads.take rfl).bind ?_)
    have hnone := next_tail_ne ":=" htail (by decide) hfollows htoken
      { after with walrus := true } id
    rw [hcs] at hnone
    refine (Reads.readOp?_false hnone).bind ?_
    simp only [Bool.and_false, Bool.false_eq_true, if_false]
    exact (Reads.set _ _).bind (Reads.pure _ _)
  | other _ hnext =>
    obtain ⟨token, start, cursor, h, -, hword⟩ :=
      hnext opening.orOperand gap rest rfl hgap hfollows.delimited
    rw [h, readNamed?]
    cases token with
    | word w => exact absurd rfl (hword w)
    | _ => exact Reads.pure _ _

/-- An expression of comparisons, where nothing of lesser strength begins. -/
theorem reads_readOperand (hlambda : (next opening.orOperand (.plain text)).isWord "lambda" = false)
    (hnot : (next opening.orOperand (.plain text)).isWord "not" = false)
    (hnamed : Reads (readNamed? g (next opening.orOperand (.plain text)) after) text none text)
    (h : Reads (readComparisons g opening after) text e rest') :
    Reads (readOperand g level opening after) text e rest' := by
  refine (Reads.peek rfl).bind ?_
  rw [hlambda, hnot]
  exact hnamed.bind h

theorem reads_readOperand_of_begins (hb : Begins text) (hgap : IsGap gap)
    (hfollows : Follows after rest token behind) (htoken : token ≠ .op ":=")
    (h : Reads (readComparisons g opening after) (gap ++ (text ++ rest)) e rest') :
    Reads (readOperand g level opening after) (gap ++ (text ++ rest)) e rest' := by
  obtain ⟨first, start, cursor, hnext, hbegins⟩ :=
    hb.next (e := opening.orOperand) rfl hgap hfollows.delimited
  have hnot {word : String} (hkey : isKeyword word.toList = true) :
      (next opening.orOperand (.plain (gap ++ (text ++ rest)))).isWord word = false := by
    rw [hnext, Lexeme.isWord]
    refine decide_eq_false ?_
    rintro rfl
    simp [Token.beginsOperand, hkey] at hbegins
  exact reads_readOperand (hnot (by decide)) (hnot (by decide))
    (reads_readNamed?_none hb hgap hfollows htoken) h

theorem reads_readWordOperator_none (hfollows : Follows after rest token behind)
    (htoken : token.continues level = false) (start : Text) :
    Reads (readWordOperator g level after start e) rest (.inr e) rest := by
  obtain ⟨_, hnext⟩ := hfollows.next
  refine (Reads.peek hnext).bind ?_
  cases token with
  | word w =>
    simp only [Token.continues, Bool.or_eq_false_iff] at htoken
    obtain ⟨⟨⟨hor, hand⟩, has⟩, hif⟩ := htoken
    simp only [Lexeme.isWord, Token.word.injEq, hor, hand, has, hif, Bool.false_eq_true, if_false]
    exact Reads.pure _ _
  | _ => exact Reads.pure _ _

theorem reads_readExpression (h : Reads (readOperand g level opening after) text e rest)
    (hfollows : Follows after rest token behind) (htoken : token.continues level = false)
    (hsteps : 0 < g.steps) : Reads (readExpression g level opening after) text e rest := by
  obtain ⟨n, hn⟩ := Nat.exists_eq_add_one_of_ne_zero hsteps.ne'
  refine (Reads.peek rfl).bind (h.bind ?_)
  rw [hn]
  exact Reads.iterate_done (reads_readWordOperator_none hfollows htoken _)

/-! ### Operands -/

/-- A text that is read as an operand: in front of any delimiter the reader comes to the point where
`e` may go on with an attribute, a call or a subscript, after as many of them as the text has
characters at most. Only digits do not go on with a point. -/
structure IsOperand (text : Text) (e : Expr) : Prop where
  begins : Begins text
  solid : isGap e = false
  reads (source : Text) (d n : Nat) (opening after : Expect) {gap rest : Text} {token : Token}
    {behind : Text} (hgap : IsGap gap) (hd : 4 * text.length + 8 ≤ d) (hn : text.length ≤ n)
    (hfollows : Follows after rest token behind) (hopens : token.opens = false)
    (hdigits : text.all Char.isDigit = true → token ≠ .op ".") :
    ∃ k ≤ text.length, ∀ {e' : Expr} {rest' : Text},
      Reads (iterate (readTrailer (grammar source d) (readClauses (grammar source d) n) after)
        ((grammar source d).steps - k) e) rest e' rest' →
      Reads (readPrimary (grammar source d) (readClauses (grammar source d) n) opening after)
        (gap ++ (text ++ rest)) e' rest'

theorem reads_readTrailer_none {clauses : Reader (List Expr)}
    (hfollows : Follows after rest token behind) (htoken : token.trails = false) :
    Reads (readTrailer g clauses after e) rest (.inr e) rest := by
  obtain ⟨start, hnext⟩ := hfollows.next
  refine (Reads.peek hnext).bind ?_
  split
  · exact absurd htoken (by simp_all [Token.trails])
  · exact absurd htoken (by simp_all [Token.trails])
  · exact absurd htoken (by simp_all [Token.trails])
  · exact Reads.pure _ _

namespace IsOperand

variable {source : Text} {d n : Nat}

theorem primary (h : IsOperand text e) (hgap : IsGap gap) (hd : 4 * text.length + 8 ≤ d)
    (hn : text.length ≤ n) (hfollows : Follows after rest token behind)
    (htrails : token.trails = false) :
    Reads (readPrimary (grammar source d) (readClauses (grammar source d) n) opening after)
      (gap ++ (text ++ rest)) e rest := by
  have hpoint : token ≠ .op "." := by
    rintro rfl
    exact absurd htrails (by decide)
  obtain ⟨k, hk, hreads⟩ :=
    h.reads source d n opening after hgap hd hn hfollows (Token.opens_of_trails htrails) fun _ => hpoint
  have hsteps : (grammar source d).steps - k ≠ 0 := by
    rw [steps_grammar]
    omega
  obtain ⟨m, hm⟩ := Nat.exists_eq_add_one_of_ne_zero hsteps
  refine hreads ?_
  rw [hm]
  exact Reads.iterate_done (reads_readTrailer_none hfollows htrails)

theorem signed (h : IsOperand text e) (hgap : IsGap gap) (hd : 4 * text.length + 8 ≤ d)
    (hfollows : Follows after rest token behind) (htrails : token.trails = false) :
    Reads (readSigned (grammar source d) opening after) (gap ++ (text ++ rest)) e rest := by
  refine reads_readSigned h.begins hgap hfollows.delimited (h.primary hgap hd ?_ hfollows htrails)
  rw [steps_grammar]
  omega

theorem binary (h : IsOperand text e) (hgap : IsGap gap) (hd : 4 * text.length + 9 ≤ d)
    (hfollows : Follows after rest token behind) (htrails : token.trails = false)
    (hjoins : token.joins least = false) :
    Reads ((grammar source d).binary least opening after) (gap ++ (text ++ rest)) e rest := by
  obtain ⟨m, rfl⟩ := Nat.exists_eq_add_one_of_ne_zero (by omega : d ≠ 0)
  refine reads_readBinary_single (h.signed hgap (by omega) hfollows htrails) hfollows hjoins ?_
  rw [steps_grammar]
  omega

/-- An operand that is a pattern as well. -/
theorem reads_readPattern (h : IsOperand text e) {pattern : Expr} (hpattern : asPattern? e = some pattern)
    (hgap : IsGap gap) (hd : 4 * text.length + 8 ≤ d) (hn : text.length ≤ n)
    (hfollows : Follows {} rest token behind) (htrails : token.trails = false) :
    Reads (readPattern (grammar source d) (readClauses (grammar source d) n)) (gap ++ (text ++ rest))
      pattern rest := by
  refine (h.primary hgap hd hn hfollows htrails).bind ?_
  simp only [hpattern]
  exact Reads.pure _ _

/-- What an operator of words stands behind. -/
theorem first (h : IsOperand text e) (hgap : IsGap gap) (hd : 4 * text.length + 9 ≤ d)
    (hfollows : Follows after rest token behind) (hbinds : token.binds = false) :
    Reads (readOperand (grammar source d) level opening after) (gap ++ (text ++ rest)) e rest := by
  simp only [Token.binds, Bool.or_eq_false_iff, decide_eq_false_iff_not] at hbinds
  obtain ⟨⟨⟨htrails, hjoins⟩, hcompares⟩, hwalrus⟩ := hbinds
  refine reads_readOperand_of_begins h.begins hgap hfollows hwalrus (reads_readComparisons_single
    (h.binary hgap hd hfollows htrails hjoins) hfollows hcompares ?_)
  rw [steps_grammar]
  omega

/-- An operand is an expression of every level that does not go on behind it. -/
theorem expression_of (h : IsOperand text e) (hgap : IsGap gap) (hd : 4 * text.length + 10 ≤ d)
    (hfollows : Follows after rest token behind) (hbinds : token.binds = false)
    (hcontinues : token.continues level = false) :
    Reads ((grammar source d).expression level opening after) (gap ++ (text ++ rest)) e rest := by
  obtain ⟨m, rfl⟩ := Nat.exists_eq_add_one_of_ne_zero (by omega : d ≠ 0)
  refine reads_readExpression (h.first hgap (by omega) hfollows hbinds) hfollows hcontinues ?_
  rw [steps_grammar]
  omega

theorem expression (h : IsOperand text e) (hgap : IsGap gap) (hd : 4 * text.length + 10 ≤ d)
    (hfollows : Follows after rest token behind) (hends : token.ends level = true) :
    Reads ((grammar source d).expression level opening after) (gap ++ (text ++ rest)) e rest :=
  h.expression_of hgap hd hfollows (Token.binds_of_ends hends) (Token.continues_of_ends hends)

end IsOperand

/-! ### Atoms -/

theorem reads_readPrimary {clauses : Reader (List Expr)} {mid : Text} {e' : Expr}
    (hstar : (next opening.orOperand (.plain text)).token ≠ .op "*")
    (hatom : Reads (readAtom g clauses opening after) text e mid)
    (h : Reads (iterate (readTrailer g clauses after) g.steps e) mid e' rest) :
    Reads (readPrimary g clauses opening after) text e' rest := by
  refine (Reads.peek rfl).bind ?_
  rw [if_neg (by simpa [Lexeme.isOp] using hstar)]
  exact hatom.bind h

theorem IsOperand.of_atom (hbegins : Begins text) (hsolid : isGap e = false)
    (hatom : ∀ {source : Text} {d n : Nat} {opening after : Expect} {gap rest : Text} {token : Token}
      {behind : Text}, IsGap gap → 4 * text.length + 8 ≤ d → text.length ≤ n →
      Follows after rest token behind → token.opens = false →
      (text.all Char.isDigit = true → token ≠ .op ".") →
      Reads (readAtom (grammar source d) (readClauses (grammar source d) n) opening after)
        (gap ++ (text ++ rest)) e rest) : IsOperand text e where
  begins := hbegins
  solid := hsolid
  reads _ _ _ opening _ _ _ _ _ hgap hd hn hfollows hopens hdigits := by
    obtain ⟨token, start, cursor, hnext, htoken⟩ :=
      hbegins.next (e := opening.orOperand) rfl hgap hfollows.delimited
    refine ⟨0, Nat.zero_le _, fun h => reads_readPrimary ?_
      (hatom hgap hd hn hfollows hopens hdigits) h⟩
    rw [hnext]
    rintro rfl
    exact absurd htoken (by decide)

theorem isOperand_word (htext : isIdentifier text = true) (hkey : isKeyword text = false) :
    IsOperand text (wordExpr text) := by
  have hbegins : Begins (text ++ []) := .word htext hkey (by simp)
  rw [List.append_nil] at hbegins
  have hsolid : isGap (wordExpr text) = false := by
    rw [wordExpr]
    split <;> rfl
  refine .of_atom hbegins hsolid fun hgap _ _ hfollows _ _ => ?_
  obtain ⟨c, cs, rfl, hc⟩ := hfollows.delimited
  have hlexeme := isLexeme_word htext hc cs
  exact (Reads.peek (hlexeme.next _ hgap)).bind ((Reads.take rfl).bind (Reads.pure _ _))

theorem isOperand_ellipsis : IsOperand "...".toList (.constant "...") := by
  have hlexeme (rest : Text) : IsLexeme "...".toList (.op "...") rest :=
    isLexeme_bracket (by decide) rest
  refine .of_atom (.other rfl fun e gap rest _ hgap _ => ⟨_, _, _, (hlexeme rest).next e hgap,
    by decide, by simp⟩) rfl fun hgap _ _ _ _ _ => ?_
  exact (Reads.peek ((hlexeme _).next _ hgap)).bind ((Reads.take rfl).bind (Reads.pure _ _))

/-! ### Attributes, calls and subscripts -/

/-- An operand goes on with one more step along its attributes, calls and subscripts. -/
theorem IsOperand.trail (h : IsOperand text e) {symbol : String} {inner : Text} {e' : Expr}
    (hsymbol : symbol ∈ [".", "(", "["]) (hdigits : text.all Char.isDigit = true → symbol ≠ ".")
    (hfirst : ∀ after rest, IsDelimited rest →
      Follows after (symbol.toList ++ (inner ++ rest)) (.op symbol) (inner ++ rest))
    (hstep : ∀ {source : Text} {d n : Nat} {after : Expect} {rest behind : Text} {token : Token},
      4 * (text ++ (symbol.toList ++ inner)).length + 8 ≤ d → Follows after rest token behind →
      token.opens = false →
      Reads (readTrailer (grammar source d) (readClauses (grammar source d) n) after e)
        (symbol.toList ++ (inner ++ rest)) (.inl e') rest) (hsolid : isGap e' = false) :
    IsOperand (text ++ (symbol.toList ++ inner)) e' where
  begins := by
    have hheads : ∀ s ∈ [".", "(", "["], ∃ c cs, s.toList = c :: cs ∧ c ∈ ['.', '(', '['] := by
      simp
    obtain ⟨c, cs, hc, hmem⟩ := hheads symbol hsymbol
    refine h.begins.append ⟨c, ?_, hmem⟩
    rw [hc, List.cons_append]
    rfl
  solid := hsolid
  reads source d n opening after gap rest token behind hgap hd hn hfollows hopens _ := by
    have hlong : 0 < symbol.toList.length := (by decide : ∀ s ∈ [".", "(", "["],
      0 < s.toList.length) symbol hsymbol
    have hlength : text.length + 1 ≤ (text ++ (symbol.toList ++ inner)).length := by
      rw [List.length_append, List.length_append]
      omega
    obtain ⟨k, hk, hreads⟩ := h.reads source d n opening after hgap (by omega) (by omega)
      (hfirst after rest hfollows.delimited) rfl fun hall => by simpa using hdigits hall
    refine ⟨k + 1, by omega, fun {e' rest'} htrailers => ?_⟩
    rw [List.append_assoc, List.append_assoc]
    refine hreads ?_
    have hsteps : (grammar source d).steps - k = ((grammar source d).steps - (k + 1)) + 1 := by
      rw [steps_grammar]
      omega
    rw [hsteps]
    exact Reads.iterate_next (hstep hd hfollows hopens) htrailers

theorem IsOperand.attribute (h : IsOperand text e) (hdigits : text.all Char.isDigit = false)
    {name : Text} (hname : isIdentifier name = true) :
    IsOperand (text ++ '.' :: name) (.attribute e name) := by
  have hpoint : ".".toList ++ name = '.' :: name := rfl
  rw [← hpoint]
  refine h.trail (by decide) (fun hall => ?_) (fun after rest hrest => follows_point hname rest) ?_ rfl
  · rw [hdigits] at hall
    exact absurd hall (by decide)
  · intro source d n after rest behind token hd hfollows hopens
    obtain ⟨c, cs, rfl, hc⟩ := hfollows.delimited
    have hpoint := (isLexeme_point hname (c :: cs)).next after .nil
    have hword := isLexeme_word hname hc cs
    refine (Reads.peek hpoint).bind ((Reads.take rfl).bind ?_)
    exact (Reads.readName (hword.next _ .nil)).bind (Reads.pure _ _)

end Testbook.Python
