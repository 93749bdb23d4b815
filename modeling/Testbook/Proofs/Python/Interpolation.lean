import Testbook.Proofs.Python.Strings
import Testbook.Proofs.Python.Turns

/-!
String literals with interpolations in normal form as operands. Between the quotes stand characters,
escape sequences, doubled braces and interpolations, whose values are operands in normal form. The
reader keeps what stands between two interpolations as one piece (`IsFormatBody`).
-/

namespace Testbook.Python

open Testbook.Text

variable {body content rest text conversion : Text} {spec : Option Text} {quote : Char} {e : Expr}
  {pieces : List Expr} {g : Grammar}

/-! ### What stands behind a value -/

/-- Whether a text converts an interpolated value. -/
def isConversion : Text → Bool
  | [] => true
  | ['!', c] => c.isLower
  | _ => false

/-- Whether a format holds neither interpolations nor line breaks, nor begins like an operator. -/
def isPlainSpec (spec : Text) : Bool :=
  spec.all (fun c => !(['{', '}', '\n'].contains c)) && spec.head? != some '='

/-- The format of a value, with the colon in front of it. -/
def specText (spec : Option Text) : Text := (spec.map (':' :: ·)).getD []

theorem isLexeme_conversion {c : Char} (hc : c.isLower = true) (rest : Text) :
    IsLexeme ['!', c] (.conversion ['!', c]) rest := by
  have hstart : isIdentifierStart '!' = false := by decide
  refine ⟨⟨'!', c :: rest, rfl, by decide⟩, fun walrus => ?_, ?_⟩
  · simp [readToken, hstart, hc]
  · have hnil : ∀ d ∈ ([] : Text), isStringQuote d = false := fun d hd => absurd hd List.not_mem_nil
    exact readOpening_eq_none hnil (by decide) (by decide) _

theorem isLexeme_colon_before {c : Char} (hc : c ≠ '=') (rest : Text) :
    IsLexeme ":".toList (.op ":") (c :: rest) := by
  change IsLexeme ":".toList (.op ":") ([c] ++ rest)
  refine isLexeme_op (by decide) rfl ?_ rest
  simp [isLongest, operators, differ, Ne.symm hc]

/-- The brace behind an interpolation. -/
theorem follows_closing_brace (after : Expect) (rest : Text) :
    Follows after ('}' :: rest) (.op "\x7d") rest :=
  (isLexeme_bracket (by decide) rest : IsLexeme "\x7d".toList (.op "\x7d") rest).follows .nil (by decide)

/-- The colon in front of a format. -/
theorem follows_format (after : Expect) {s : Text} (h : isPlainSpec s = true) (rest : Text) :
    Follows after (':' :: (s ++ '}' :: rest)) (.op ":") (s ++ '}' :: rest) := by
  obtain ⟨c, cs, hs, hc⟩ : ∃ c cs, s ++ '}' :: rest = c :: cs ∧ c ≠ '=' := by
    cases s with
    | nil => exact ⟨'}', rest, rfl, by decide⟩
    | cons c cs => exact ⟨c, _, rfl, by simpa [isPlainSpec] using (Bool.and_eq_true_iff.1 h).2⟩
  rw [hs]
  exact (isLexeme_colon_before hc cs).follows .nil (by decide)

/-- What stands behind a value: a conversion, a colon or the closing brace. -/
theorem exists_follows_value (after : Expect) (hconversion : isConversion conversion = true)
    (hspec : spec.all isPlainSpec = true) (rest : Text) : ∃ token behind,
    Follows after (conversion ++ (specText spec ++ '}' :: rest)) token behind
      ∧ token.binds = false ∧ token.continues anyLevel = false ∧ token ≠ .op "," ∧ token ≠ .op "=" := by
  unfold isConversion at hconversion
  split at hconversion
  · cases spec with
    | none => exact ⟨_, _, follows_closing_brace after rest, by decide, rfl, by decide, by decide⟩
    | some s => exact ⟨_, _, follows_format after hspec rest, by decide, rfl, by decide, by decide⟩
  · exact ⟨_, _, (isLexeme_conversion hconversion _).follows .nil rfl, rfl, rfl, by simp, by simp⟩
  · cases hconversion

/-! ### Interpolations -/

/-- A text that is read as an interpolation, from its opening brace up to the closing one. -/
structure IsInterpolation (text : Text) (e : Expr) : Prop where
  exists_reads : ∃ c inner, text = '{' :: c :: inner ∧ c ≠ '{'
    ∧ ∀ (source : Text) (d n : Nat) (rest : Text), 4 * text.length + 12 ≤ d →
      Reads (readInterpolation (grammar source d) (n + 1)) (c :: inner ++ rest) e rest

theorem reads_readInterpolated {source : Text} {d : Nat} {gap behind : Text} {token : Token}
    (h : IsOperand text e) (hgap : IsGap gap) (hd : 4 * text.length + 10 ≤ d)
    (hfollows : Follows closerNext rest token behind) (hbinds : token.binds = false)
    (hcontinues : token.continues anyLevel = false) (hcomma : token ≠ .op ",") :
    Reads (readInterpolated (grammar source d)) (gap ++ (text ++ rest)) e rest := by
  obtain ⟨first, start, cursor, hnext, hfirst⟩ :=
    h.begins.next (e := operandNext) rfl hgap hfollows.delimited
  obtain ⟨m, hm⟩ : ∃ m, (grammar source d).steps = m + 1 := ⟨d - 2, by rw [steps_grammar]; omega⟩
  obtain ⟨start', hbehind⟩ := hfollows.next
  refine (Reads.peek hnext).bind ?_
  have hyield : Lexeme.isWord ⟨[], first, start, cursor⟩ "yield" = false := by
    refine Bool.eq_false_iff.2 fun hword => ?_
    have htoken : first = .word "yield".toList := of_decide_eq_true hword
    rw [htoken] at hfirst
    exact absurd hfirst (by decide)
  rw [hyield, if_neg Bool.false_ne_true]
  refine (h.expression_of hgap hd hfollows hbinds hcontinues).bind ?_
  rw [hm]
  refine Reads.iterate_done ((Reads.peek hbehind).bind ?_)
  rw [if_pos (by simpa [Lexeme.isOp] using hcomma)]
  exact Reads.pure _ _

theorem reads_readSpec {inner : Reader Unit} {s : Text} (h : isPlainSpec s = true) (n : Nat) (rest : Text) :
    Reads (readSpec inner (n + 2)) (s ++ '}' :: rest) ('}' :: rest) ('}' :: rest) := by
  have hend (n : Nat) : Reads (readSpec inner (n + 1)) ('}' :: rest) ('}' :: rest) ('}' :: rest) := by
    refine (Reads.get _).bind (Reads.iterate_done ((Reads.get _).bind ?_))
    exact Reads.pure _ _
  cases s with
  | nil => exact hend (n + 1)
  | cons c cs =>
    have hall : ∀ d ∈ c :: cs, (d != '{' && d != '}' && d != '\n') = true := by
      intro d hd
      have hmem := List.all_eq_true.1 (Bool.and_eq_true_iff.1 h).1 d hd
      simpa [and_assoc] using hmem
    obtain ⟨⟨hopen, hclose⟩, hfeed⟩ : (c ≠ '{' ∧ c ≠ '}') ∧ c ≠ '\n' := by
      simpa using hall c List.mem_cons_self
    have hdrop : (c :: cs ++ '}' :: rest).dropWhile (fun d => d != '{' && d != '}' && d != '\n')
        = '}' :: rest := by
      rw [List.dropWhile_append_of_pos hall]
      rfl
    refine (Reads.get _).bind (Reads.iterate_next (t := '}' :: rest) ((Reads.get _).bind ?_)
      (Reads.iterate_done ((Reads.get ('}' :: rest)).bind (Reads.pure _ _))))
    dsimp only [Cursor.plain, List.cons_append]
    rw [if_neg hclose, if_neg hopen, if_neg hfeed]
    rw [List.cons_append] at hdrop
    rw [hdrop]
    exact (Reads.set _ _).bind (Reads.pure _ _)

/-- The format behind a value and its conversion, if there is one, and what is read behind it. -/
theorem reads_format {inner : Reader Unit} {k : Option Text → Reader Expr} {rest' : Text}
    (h : spec.all isPlainSpec = true) (n : Nat) (hk : Reads (k spec) ('}' :: rest) e rest') :
    Reads (do
      if ← readOp? closerNext ":" then
        let start := (← get).rest
        let behind ← readSpec inner (n + 2)
        let spec ← pure (some (start.take (start.length - behind.length)))
        k spec
      else
        let spec ← pure none
        k spec) (specText spec ++ '}' :: rest) e rest' := by
  cases spec with
  | none =>
    obtain ⟨start, hnext⟩ := (follows_closing_brace closerNext rest).next
    exact (Reads.readOp?_false (by simp [specText, hnext])).bind ((Reads.pure _ _).bind hk)
  | some s =>
    obtain ⟨start, hnext⟩ := (follows_format closerNext h rest).next
    have hlength : (s ++ '}' :: rest).length - ('}' :: rest).length = s.length := by simp
    refine (Reads.readOp?_true hnext).bind ((Reads.get _).bind ((reads_readSpec h n rest).bind
      ((Reads.pure _ _).bind ?_)))
    dsimp only [Cursor.plain]
    rw [hlength, List.take_left]
    exact hk

/-- The conversion behind a value, if there is one, and what is read behind it. -/
theorem reads_conversion {k : Text → Reader Expr} {rest' : Text}
    (hconversion : isConversion conversion = true) (hspec : spec.all isPlainSpec = true) (hk : Reads (k conversion) (specText spec ++ '}' :: rest) e rest') :
    Reads (do
      let l ← peek closerNext
      match l.token with
      | .conversion text => do
        take l
        let conversion ← pure text
        k conversion
      | _ => do
        let conversion ← pure []
        k conversion) (conversion ++ (specText spec ++ '}' :: rest)) e rest' := by
  unfold isConversion at hconversion
  split at hconversion
  · cases spec with
    | none =>
      obtain ⟨start, hnext⟩ := (follows_closing_brace closerNext rest).next
      exact (Reads.peek hnext).bind ((Reads.pure _ _).bind hk)
    | some s =>
      obtain ⟨start, hnext⟩ := (follows_format closerNext hspec rest).next
      exact (Reads.peek hnext).bind ((Reads.pure _ _).bind hk)
  · have hnext := (isLexeme_conversion hconversion (specText spec ++ '}' :: rest)).next closerNext .nil
    exact (Reads.peek hnext).bind ((Reads.take rfl).bind ((Reads.pure _ _).bind hk))
  · cases hconversion

/-- An operand with a conversion and a format makes an interpolation. -/
theorem isInterpolation_operand (h : IsOperand text e) (hconversion : isConversion conversion = true)
    (hspec : spec.all isPlainSpec = true) :
    IsInterpolation (writeInterpolation text conversion spec) (.interpolation e false conversion spec) := by
  obtain ⟨gap, hgap, hhead, hwritten⟩ : ∃ gap, IsGap gap ∧ (gap = [] → text.head? ≠ some '{')
      ∧ writeInterpolation text conversion spec
        = '{' :: (gap ++ (text ++ (conversion ++ (specText spec ++ ['}'])))) := by
    refine ⟨if text.head? = some '{' then [' '] else [], ?_, ?_, ?_⟩
    · split
      · exact .blank
      · exact .nil
    · split
      · exact fun hnil => absurd hnil (by decide)
      · exact fun _ => by assumption
    · cases spec <;> simp [writeInterpolation, specText]
  obtain ⟨c, inner, hinner, hc⟩ : ∃ c inner, gap ++ (text ++ (conversion ++ (specText spec ++ ['}'])))
      = c :: inner ∧ c ≠ '{' := by
    obtain ⟨d, ds, hd, -⟩ := h.begins.head
    rcases hgap with rfl | rfl
    · refine ⟨d, _, by rw [hd]; rfl, fun heq => hhead rfl ?_⟩
      rw [hd, heq]
      rfl
    · exact ⟨' ', _, rfl, by decide⟩
  refine ⟨c, inner, hwritten.trans (congrArg _ hinner), hc, fun source d n rest hd => ?_⟩
  have hlength : text.length < (writeInterpolation text conversion spec).length := by
    rw [hwritten]
    simp only [List.length_cons, List.length_append]
    omega
  have hrest : c :: inner ++ rest = gap ++ (text ++ (conversion ++ (specText spec ++ '}' :: rest))) := by
    rw [← hinner]
    simp
  obtain ⟨m, hm⟩ : ∃ m, (grammar source d).steps = m + 2 := ⟨d - 3, by rw [steps_grammar]; omega⟩
  obtain ⟨token, behind, hfollows, hbinds, hcontinues, hcomma, hequals⟩ :=
    exists_follows_value closerNext hconversion hspec rest
  rw [hrest]
  refine (reads_readInterpolated h hgap (by omega) hfollows hbinds hcontinues hcomma).bind ?_
  obtain ⟨start, hnext⟩ := hfollows.next
  refine (Reads.readOp?_false (by rw [hnext]; exact hequals)).bind ?_
  obtain ⟨start', hclose⟩ := (follows_closing_brace closerNext rest).next
  refine reads_conversion hconversion hspec ?_
  rw [hm]
  exact reads_format hspec m ((Reads.readOp hclose).bind (Reads.pure _ _))

/-! ### Bodies -/

/-- Pieces with the content in front of them, which is one as well unless it is empty. -/
def behindContent (content : Text) (pieces : List Expr) : List Expr :=
  if content.isEmpty then pieces else .chunk content :: pieces

/-- That a text between the given quotes is read as pieces, when `content` was read in front of it. -/
inductive IsFormatBody (quote : Char) : Text → Text → List Expr → Prop
  | nil {content : Text} : IsFormatBody quote content [] (behindContent content [])
  | plain {content body : Text} {pieces : List Expr} {c : Char} (hc : c ∉ ['\\', '\n', quote, '{', '}'])
      (hbody : IsFormatBody quote (content ++ [c]) body pieces) : IsFormatBody quote content (c :: body) pieces
  | brace {content body : Text} {pieces : List Expr} {c : Char} (hc : c = '{' ∨ c = '}')
      (hbody : IsFormatBody quote (content ++ [c, c]) body pieces) :
      IsFormatBody quote content (c :: c :: body) pieces
  | escape {content body code : Text} {pieces : List Expr} (hcode : IsEscape code)
      (hbody : IsFormatBody quote (content ++ '\\' :: code) body pieces) :
      IsFormatBody quote content ('\\' :: (code ++ body)) pieces
  | value {content body text : Text} {pieces : List Expr} {e : Expr} (hvalue : IsInterpolation text e)
      (hbody : IsFormatBody quote [] body pieces) :
      IsFormatBody quote content (text ++ body) (behindContent content (e :: pieces))

/-- The opening of a written literal with interpolations. -/
def Opening.formatted (quote : Char) : Opening := ⟨false, false, true, quote, false⟩

theorem readStretch_formatted (isNonempty : Bool) (c : Char) (cs : Text) :
    readStretch (.formatted quote) isNonempty (c :: cs)
      = if c = '{' ∨ c = '}' then .upTo isNonempty (c :: cs)
        else if c = '\\' then .upTo isNonempty (c :: cs)
        else if c = quote then if isNonempty then .content (c :: cs) else .finish cs
        else if c = '\n' && isNonempty then .stop
        else readStretch (.formatted quote) true cs := by
  rw [readStretch.eq_def]
  simp [Opening.formatted]

theorem ne_of_isQuote (h : StringLiteral.isQuote quote = true) : quote ≠ '{' ∧ quote ≠ '}' ∧ quote ≠ '\\' := by
  rcases quote_cases h with rfl | rfl <;> decide

/-- A stretch of content ends at a brace, at an escape sequence or at the closing quote. -/
theorem exists_readStretch_formatted (h : IsFormatBody quote content body pieces)
    (hquote : StringLiteral.isQuote quote = true) (rest : Text) : ∃ front body', body = front ++ body'
      ∧ IsFormatBody quote (content ++ front) body' pieces
      ∧ readStretch (.formatted quote) true (body ++ quote :: rest) = .content (body' ++ quote :: rest) := by
  induction h with
  | @nil content =>
    obtain ⟨hopen, hclose, hback⟩ := ne_of_isQuote hquote
    refine ⟨[], [], rfl, ?_, ?_⟩
    · rw [List.append_nil]
      exact .nil
    · rw [List.nil_append, readStretch_formatted, if_neg (by simp [hopen, hclose]), if_neg hback, if_pos rfl]
      rfl
  | @plain content body pieces c hc hbody ih =>
    obtain ⟨front, body', rfl, hbody', hstretch⟩ := ih
    simp only [List.mem_cons, List.not_mem_nil, or_false, not_or] at hc
    obtain ⟨hback, hfeed, hne, hopen, hclose⟩ := hc
    refine ⟨c :: front, body', rfl, ?_, ?_⟩
    · rwa [List.append_assoc] at hbody'
    · rw [List.cons_append, readStretch_formatted, if_neg (by simp [hopen, hclose]), if_neg hback, if_neg hne,
        decide_eq_false hfeed]
      exact hstretch
  | @brace content body pieces c hc hbody _ =>
    refine ⟨[], c :: c :: body, rfl, ?_, ?_⟩
    · rw [List.append_nil]
      exact .brace hc hbody
    · rw [List.cons_append, readStretch_formatted, if_pos hc]
      rfl
  | @escape content body code pieces hcode hbody _ =>
    refine ⟨[], _, rfl, ?_, ?_⟩
    · rw [List.append_nil]
      exact .escape hcode hbody
    · rw [List.cons_append, readStretch_formatted, if_neg (by decide), if_pos rfl]
      rfl
  | @value content body text pieces e hvalue hbody _ =>
    refine ⟨[], _, rfl, ?_, ?_⟩
    · rw [List.append_nil]
      exact .value hvalue hbody
    · obtain ⟨c, inner, rfl, -, -⟩ := hvalue.exists_reads
      rw [List.cons_append, List.cons_append, readStretch_formatted, if_pos (.inl rfl)]
      rfl

theorem reverse_flush (p : Pieces) (pieces : List Expr) :
    p.flush.reverse ++ pieces = p.done.reverse ++ behindContent p.content pieces := by
  rw [Pieces.flush, behindContent]
  split <;> simp

/-- What is kept of a text is what was read of it. -/
theorem take_front (front behind : Text) :
    (front ++ behind).take ((front ++ behind).length - behind.length) = front := by
  rw [List.length_append, Nat.add_sub_cancel, List.take_left]

/-! ### Steps through a body -/

theorem reads_readPiece_quote (hquote : StringLiteral.isQuote quote = true) (g : Grammar) (p : Pieces)
    (rest : Text) :
    Reads (readPiece g (.formatted quote) p) (quote :: rest) (.inr p.flush.reverse) rest := by
  obtain ⟨hopen, hclose, hback⟩ := ne_of_isQuote hquote
  have hstretch : readStretch (.formatted quote) false (quote :: rest) = .finish rest := by
    rw [readStretch_formatted, if_neg (by simp [hopen, hclose]), if_neg hback, if_pos rfl]
    rfl
  refine (Reads.get _).bind ?_
  dsimp only [Cursor.plain]
  rw [if_neg (by simp [hopen, hclose]), hstretch]
  exact (Reads.set _ _).bind (Reads.pure _ _)

/-- A stretch of content is kept, from its first character up to where it ends. -/
theorem reads_readPiece_stretch {c : Char} {front behind : Text} (hc : c ∉ ['\\', '\n', quote, '{', '}'])
    (h : readStretch (.formatted quote) true (front ++ behind) = .content behind) (g : Grammar) (p : Pieces) :
    Reads (readPiece g (.formatted quote) p) (c :: (front ++ behind))
      (.inl { p with content := p.content ++ c :: front }) behind := by
  simp only [List.mem_cons, List.not_mem_nil, or_false, not_or] at hc
  obtain ⟨hback, hfeed, hne, hopen, hclose⟩ := hc
  have hfirst : readStretch (.formatted quote) false (c :: (front ++ behind)) = .content behind := by
    rw [readStretch_formatted, if_neg (by simp [hopen, hclose]), if_neg hback, if_neg hne, Bool.and_false]
    exact h
  have hkept : (c :: (front ++ behind)).take ((c :: (front ++ behind)).length - behind.length) = c :: front :=
    take_front (c :: front) behind
  refine (Reads.get _).bind ?_
  dsimp only [Cursor.plain]
  rw [if_neg (by simp [hopen, hclose]), hfirst]
  dsimp only
  rw [hkept]
  exact (Reads.set _ _).bind (Reads.pure _ _)

theorem reads_readPiece_brace {c : Char} (hc : c = '{' ∨ c = '}') (g : Grammar) (p : Pieces) (rest : Text) :
    Reads (readPiece g (.formatted quote) p) (c :: c :: rest)
      (.inl { p with content := p.content ++ [c, c] }) rest := by
  have hbrace : ((Opening.formatted quote).format && (decide (c = '{') || decide (c = '}'))
      && (c :: rest).head? = some c) = true := by
    simp [Opening.formatted, hc]
  have hkept : (c :: c :: rest).take ((c :: c :: rest).length - rest.length) = [c, c] :=
    take_front [c, c] rest
  refine (Reads.get _).bind ?_
  dsimp only [Cursor.plain]
  rw [if_pos hbrace, List.drop_one, List.tail_cons, hkept]
  exact (Reads.set _ _).bind (Reads.pure _ _)

theorem reads_readPiece_escape {code : Text} (hcode : IsEscape code) (g : Grammar) (p : Pieces) (rest : Text) :
    Reads (readPiece g (.formatted quote) p) ('\\' :: (code ++ rest))
      (.inl { p with content := p.content ++ '\\' :: code }) rest := by
  have hstretch : readStretch (.formatted quote) false ('\\' :: (code ++ rest)) = .stop := by
    rw [readStretch_formatted, if_neg (by decide), if_pos rfl]
    rfl
  have hkept : ('\\' :: (code ++ rest)).take (('\\' :: (code ++ rest)).length - rest.length) = '\\' :: code :=
    take_front ('\\' :: code) rest
  refine (Reads.get _).bind ?_
  dsimp only [Cursor.plain]
  rw [if_neg (by simp), hstretch]
  dsimp only
  rw [if_pos rfl, hcode.length, List.drop_left, hkept]
  exact (Reads.set _ _).bind (Reads.pure _ _)

theorem reads_readPiece_value {c : Char} {inner : Text} (hc : c ≠ '{')
    (h : Reads (readInterpolation g g.steps) (c :: inner) e rest) (p : Pieces) :
    Reads (readPiece g (.formatted quote) p) ('{' :: c :: inner) (.inl ⟨e :: p.flush, []⟩) rest := by
  have hstretch : readStretch (.formatted quote) false ('{' :: c :: inner) = .stop := by
    rw [readStretch_formatted, if_pos (.inl rfl)]
    rfl
  refine (Reads.get _).bind ?_
  dsimp only [Cursor.plain]
  rw [if_neg (by simp [hc]), hstretch]
  dsimp only
  rw [if_neg (by decide), List.dropWhile_cons_of_neg (by decide)]
  exact (Reads.set _ _).bind (h.bind (Reads.pure _ _))

/-- One step takes off a stretch, an escape sequence, a doubled brace or an interpolation, or ends at the
closing quote. -/
theorem exists_reads_readPiece_formatted {p : Pieces} (h : IsFormatBody quote p.content body pieces)
    (hquote : StringLiteral.isQuote quote = true) {source : Text} {d : Nat} (hd : 4 * body.length + 12 ≤ d)
    (rest : Text) :
    Reads (readPiece (grammar source d) (.formatted quote) p) (body ++ quote :: rest)
        (.inr (p.done.reverse ++ pieces)) rest
      ∨ ∃ p' body' pieces', IsFormatBody quote p'.content body' pieces' ∧ body'.length < body.length
        ∧ p'.done.reverse ++ pieces' = p.done.reverse ++ pieces
        ∧ Reads (readPiece (grammar source d) (.formatted quote) p) (body ++ quote :: rest) (.inl p')
          (body' ++ quote :: rest) := by
  cases h with
  | nil =>
    left
    rw [← reverse_flush, List.append_nil]
    exact reads_readPiece_quote hquote _ p rest
  | @plain _ body _ c hc hbody =>
    right
    obtain ⟨front, body', rfl, hbody', hstretch⟩ := exists_readStretch_formatted hbody hquote rest
    rw [List.append_assoc] at hbody' hstretch
    refine ⟨{ p with content := p.content ++ c :: front }, body', pieces, hbody', ?_, rfl, ?_⟩
    · simp only [List.length_cons, List.length_append]
      omega
    · rw [List.cons_append, List.append_assoc]
      exact reads_readPiece_stretch hc hstretch _ p
  | @brace _ body _ c hc hbody =>
    right
    refine ⟨{ p with content := p.content ++ [c, c] }, body, pieces, hbody, ?_, rfl, ?_⟩
    · simp only [List.length_cons]
      omega
    · exact reads_readPiece_brace hc _ p _
  | @escape _ body code _ hcode hbody =>
    right
    refine ⟨{ p with content := p.content ++ '\\' :: code }, body, pieces, hbody, ?_, rfl, ?_⟩
    · simp only [List.length_cons, List.length_append]
      omega
    · rw [List.cons_append, List.append_assoc]
      exact reads_readPiece_escape hcode _ p _
  | @value _ body text pieces e hvalue hbody =>
    right
    obtain ⟨c, inner, htext, hc, hreads⟩ := hvalue.exists_reads
    obtain ⟨n, hn⟩ : ∃ n, (grammar source d).steps = n + 1 := ⟨d - 2, by rw [steps_grammar]; omega⟩
    have hlength : 0 < text.length := by
      rw [htext]
      exact Nat.succ_pos _
    rw [List.length_append] at hd
    have hinterpolation := hreads source d n (body ++ quote :: rest) (by omega)
    rw [← hn] at hinterpolation
    refine ⟨⟨e :: p.flush, []⟩, body, pieces, hbody, by rw [List.length_append]; omega, ?_, ?_⟩
    · rw [List.reverse_cons, List.append_assoc, reverse_flush]
      rfl
    · rw [htext, List.append_assoc]
      exact reads_readPiece_value hc hinterpolation p

/-- A body is read up to and with its closing quote, to the pieces that it stands for. -/
theorem reads_pieces {n : Nat} {p : Pieces} (h : IsFormatBody quote p.content body pieces)
    (hquote : StringLiteral.isQuote quote = true) {source : Text} {d : Nat} (hd : 4 * body.length + 12 ≤ d)
    (hn : body.length < n) (rest : Text) :
    Reads (iterate (readPiece (grammar source d) (.formatted quote)) n p) (body ++ quote :: rest)
      (p.done.reverse ++ pieces) rest := by
  induction n generalizing p body pieces with
  | zero => exact absurd hn (Nat.not_lt_zero _)
  | succ n ih =>
    rcases exists_reads_readPiece_formatted h hquote hd rest with
      hread | ⟨p', body', pieces', hbody', hlength, hpieces, hread⟩
    · exact Reads.iterate_done hread
    · have hlater := ih hbody' (by omega) (by omega)
      rw [hpieces] at hlater
      exact Reads.iterate_next hread hlater

theorem readOpening_formatted (hquote : StringLiteral.isQuote quote = true)
    (hbody : IsFormatBody quote [] body pieces) (hrest : IsDelimited rest) :
    readOpening ('f' :: quote :: (body ++ quote :: rest))
      = some (.formatted quote, body ++ quote :: rest) := by
  obtain ⟨hopen, hclose, hback⟩ := ne_of_isQuote hquote
  have hhead : body.head? ≠ some quote := by
    cases hbody with
    | nil => exact fun hnone => absurd hnone (by simp)
    | @plain _ body _ d hd _ => exact fun heq => hd (by simp [Option.some.inj heq])
    | @brace _ body _ d hd _ =>
      intro heq
      rcases hd with rfl | rfl
      · exact hopen (Option.some.inj heq).symm
      · exact hclose (Option.some.inj heq).symm
    | escape _ _ => exact fun heq => hback (Option.some.inj heq).symm
    | value hvalue _ =>
      obtain ⟨d, inner, rfl, -, -⟩ := hvalue.exists_reads
      exact fun heq => hopen (Option.some.inj heq).symm
  have hletters : ['f'].all isStringLetter = true := by decide
  exact readOpening_letters hletters hquote hhead hrest

/-- A literal with interpolations is an operand. -/
theorem isOperand_formatted (hquote : StringLiteral.isQuote quote = true)
    (hbody : IsFormatBody quote [] body pieces) :
    IsOperand ('f' :: quote :: (body ++ [quote]))
      (.strings [.format ('f' :: quote :: (body ++ [quote])) pieces]) := by
  refine isOperand_literal (body ++ [quote]) (.formatted quote) ⟨'f', _, rfl, by decide, by decide⟩
    (fun rest hrest => ?_) fun source d rest hd => ?_
  · simpa using readOpening_formatted hquote hbody hrest
  · simp only [List.length_cons, List.length_append, List.length_nil] at hd
    have hsteps : body.length < (grammar source d).steps := by
      rw [steps_grammar]
      omega
    have hpieces : Reads (iterate (readPiece (grammar source d) (.formatted quote)) (grammar source d).steps
        ⟨[], []⟩) (body ++ quote :: rest) pieces rest :=
      reads_pieces (show IsFormatBody quote (Pieces.mk [] []).content body pieces from hbody) hquote
        (by omega) hsteps rest
    rw [List.append_assoc]
    exact ⟨pieces, hpieces, rfl⟩

/-! ### Literals that are written for turns -/

theorem IsFormatBody.escaped_append (hquote : StringLiteral.isQuote quote = true) {t : Text}
    (hbody : IsFormatBody quote (content ++ escaped quote t) body pieces) :
    IsFormatBody quote content (escaped quote t ++ body) pieces := by
  induction t generalizing content with
  | nil => rwa [show escaped quote [] = [] from rfl, List.append_nil] at hbody
  | cons c cs ih =>
    have hcons : escaped quote (c :: cs) = escaped quote [c] ++ escaped quote cs :=
      Python.escaped_append quote [c] cs
    rw [hcons, ← List.append_assoc] at hbody
    rw [hcons, List.append_assoc]
    have hlater := ih hbody
    by_cases hbrace : c ∈ ['{', '}']
    · have hwritten : escaped quote [c] = [c, c] := by
        have hself := writeChar_brace hquote hbrace
        simp only [List.mem_cons, List.not_mem_nil, or_false] at hbrace
        simp [escaped, doubleBraces_eq, doubled, hbrace, hself]
      rw [hwritten] at hlater ⊢
      exact .brace (by simpa using hbrace) hlater
    · have hwritten : escaped quote [c] = writeChar quote c := by
        simp only [List.mem_cons, List.not_mem_nil, or_false] at hbrace
        simp [escaped, doubleBraces_eq, doubled, hbrace]
      rw [hwritten] at hlater ⊢
      rcases writeChar_cases hquote c with ⟨hself, hc⟩ | ⟨code, hcode, hescape, -⟩
      · rw [hself] at hlater ⊢
        refine .plain (fun hmem => ?_) hlater
        simp only [List.mem_cons, List.not_mem_nil, or_false, not_or] at hmem hc hbrace
        tauto
      · rw [hcode] at hlater ⊢
        exact .escape hescape hlater

/-- What is written for turns between quotes is read as their pieces. -/
theorem isFormatBody_turns {reread : Expr → Expr} {turns : List (Text ⊕ Expr)}
    (hquote : StringLiteral.isQuote quote = true)
    (h : ∀ e, .inr e ∈ turns → IsInterpolation e.render (reread e)
      ∧ e.render.flatMap (writeChar quote) = e.render) :
    IsFormatBody quote content ((turnsText turns).flatMap (writeChar quote))
      ((joinTexts content (turns.map (Sum.map (escaped quote) reread))).map Expr.ofTurn) := by
  induction turns generalizing content with
  | nil =>
    have hpieces :
        (joinTexts content ([] : List (Text ⊕ Expr))).map Expr.ofTurn = behindContent content [] := by
      rw [joinTexts, behindContent]
      split <;> rfl
    rw [List.map_nil, hpieces]
    exact .nil
  | cons turn turns ih =>
    have hlater (content : Text) : IsFormatBody quote content ((turnsText turns).flatMap (writeChar quote))
        ((joinTexts content (turns.map (Sum.map (escaped quote) reread))).map Expr.ofTurn) :=
      ih fun e he => h e (List.mem_cons_of_mem _ he)
    cases turn with
    | inl t =>
      have hbody : (turnsText (.inl t :: turns)).flatMap (writeChar quote)
          = escaped quote t ++ (turnsText turns).flatMap (writeChar quote) :=
        List.flatMap_append
      rw [hbody]
      exact .escaped_append hquote (hlater _)
    | inr e =>
      obtain ⟨hvalue, hwritten⟩ := h e List.mem_cons_self
      have hbody : (turnsText (.inr e :: turns)).flatMap (writeChar quote)
          = e.render ++ (turnsText turns).flatMap (writeChar quote) := by
        have happend : (turnsText (.inr e :: turns)).flatMap (writeChar quote)
            = e.render.flatMap (writeChar quote) ++ (turnsText turns).flatMap (writeChar quote) :=
          List.flatMap_append
        rw [happend, hwritten]
      have hpieces :
          (joinTexts content ((Sum.inr e :: turns).map (Sum.map (escaped quote) reread))).map Expr.ofTurn
          = behindContent content (reread e
            :: (joinTexts [] (turns.map (Sum.map (escaped quote) reread))).map Expr.ofTurn) := by
        rw [List.map_cons, Sum.map_inr, joinTexts, behindContent]
        split <;> rfl
      rw [hbody, hpieces]
      exact .value hvalue (hlater [])

/-- A literal that is written for turns is an operand, given what is read of the values. -/
theorem isOperand_turns {reread : Expr → Expr} {turns : List (Text ⊕ Expr)}
    (hquote : StringLiteral.isQuote quote = true)
    (h : ∀ e, .inr e ∈ turns → IsInterpolation e.render (reread e)
      ∧ e.render.flatMap (writeChar quote) = e.render) :
    let text := 'f' :: quote :: ((turnsText turns).flatMap (writeChar quote) ++ [quote])
    IsOperand text (.strings [.format text (literalPieces quote (turns.map (Sum.map id reread)))]) := by
  rw [literalPieces_map]
  exact isOperand_formatted hquote (isFormatBody_turns hquote h)

end Testbook.Python
