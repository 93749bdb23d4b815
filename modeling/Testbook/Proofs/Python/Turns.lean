import Testbook.Proofs.Python.Literal
import Testbook.Proofs.Python.Tree
import Testbook.Proofs.Text.Replace

/-!
Text and values by turns. A row of string literals, some of them with interpolations, is one string of
texts and interpolated values by turns (`rowTurns`). In its normal form the texts in a row are one, and a
brace in them is doubled and all else escaped, so that its pieces stand for the same turns
(`same_turns`).
-/

namespace Testbook.Python

open Testbook.Text

variable {quote : Char} {text : Text} {raw : Bool} {turns : List (Text ⊕ Expr)} {e : Expr}

/-! ### Doubled braces -/

/-- A character with braces doubled. -/
def doubled (c : Char) : Text := if c = '{' ∨ c = '}' then [c, c] else [c]

/-- Replacing a single character is done character by character. -/
theorem replace_singleton (c : Char) (new text : Text) :
    replace [c] new text = text.flatMap fun d => if d = c then new else [d] := by
  rw [replace]
  induction text with
  | nil => rfl
  | cons d ds ih =>
    have hfront : [c].isPrefixOf (d :: ds) = (c == d) := by
      simp [List.isPrefixOf]
    rw [replaceFrom, hfront, List.flatMap_cons, ← ih]
    by_cases hd : d = c
    · simp [hd]
    · simp [hd, Ne.symm hd]

theorem doubleBraces_eq (text : Text) : doubleBraces text = text.flatMap doubled := by
  rw [doubleBraces, replace_singleton, replace_singleton, List.flatMap_assoc]
  refine congrArg text.flatMap (funext fun c => ?_)
  by_cases hopen : c = '{'
  · rw [hopen]
    rfl
  · by_cases hclose : c = '}'
    · rw [hclose]
      rfl
    · simp [doubled, hopen, hclose]

theorem doubleBraces_append (text rest : Text) :
    doubleBraces (text ++ rest) = doubleBraces text ++ doubleBraces rest := by
  simp only [doubleBraces_eq, List.flatMap_append]

/-- A doubled character is made single again, where the texts for the other characters have none. -/
theorem replace_flatMap_pair {c : Char} {g : Char → Text} (hg : ∀ d, d ≠ c → c ∉ g d) (text : Text) :
    replace [c, c] [c] (text.flatMap fun d => if d = c then [c, c] else g d)
      = text.flatMap fun d => if d = c then [c] else g d := by
  induction text with
  | nil => rfl
  | cons d ds ih =>
    rw [List.flatMap_cons, List.flatMap_cons, ← ih]
    by_cases hd : d = c
    · simp [hd, replace, replaceFrom]
    · have hnot := hg d hd
      rw [if_neg hd, if_neg hd, replace_append (isApart_of_head?_not_mem rfl hnot),
        replace_of_head?_not_mem rfl hnot]

theorem undoubleBraces_doubleBraces (text : Text) : undoubleBraces (doubleBraces text) = text := by
  have hdoubled : doubled = fun c => if c = '{' then ['{', '{'] else if c = '}' then ['}', '}'] else [c] := by
    funext c
    by_cases hopen : c = '{' <;> by_cases hclose : c = '}' <;> simp [doubled, hopen, hclose]
  rw [undoubleBraces, doubleBraces_eq, hdoubled, replace_flatMap_pair (fun d hd => ?_)]
  · have hsingle : (fun c => if c = '{' then ['{'] else if c = '}' then ['}', '}'] else [c])
        = fun c => if c = '}' then ['}', '}'] else [c] := by
      funext c
      by_cases hopen : c = '{' <;> simp [hopen]
    rw [hsingle, replace_flatMap_pair (fun d hd => by simpa using Ne.symm hd)]
    have hself : (fun c => if c = '}' then ['}'] else [c]) = fun c : Char => [c] := by
      funext c
      by_cases hclose : c = '}' <;> simp [hclose]
    rw [hself, List.flatMap_singleton']
  · split
    · decide
    · simpa using Ne.symm hd

/-! ### Escaped texts -/

/-- A text as it stands in a literal with interpolations, between the given quotes. -/
def escaped (quote : Char) (text : Text) : Text := (doubleBraces text).flatMap (writeChar quote)

/-- Braces are written as they are. -/
theorem writeChar_brace (hquote : StringLiteral.isQuote quote = true) {brace : Char}
    (hbrace : brace ∈ ['{', '}']) : writeChar quote brace = [brace] := by
  simp only [List.mem_cons, List.not_mem_nil, or_false] at hbrace
  rcases quote_cases hquote with rfl | rfl <;> rcases hbrace with rfl | rfl <;> rfl

/-- No other character is written with braces. -/
theorem brace_not_mem_writeChar (hquote : StringLiteral.isQuote quote = true) {c brace : Char}
    (hbrace : brace ∈ ['{', '}']) (hc : c ≠ brace) : brace ∉ writeChar quote c := by
  have hdigits : brace ∉ '\\' :: 'x' :: simpleEscapes ∧ isHexDigit brace = false := by
    simp only [List.mem_cons, List.not_mem_nil, or_false] at hbrace
    rcases hbrace with rfl | rfl <;> decide
  rw [writeChar_eq]
  split
  · next d hd =>
    obtain ⟨hmem, -⟩ := simpleCode?_eq_some hquote hd
    rintro hin
    simp only [List.mem_cons, List.not_mem_nil, or_false] at hin
    rcases hin with rfl | rfl
    · exact hdigits.1 List.mem_cons_self
    · exact hdigits.1 (List.mem_cons_of_mem _ (List.mem_cons_of_mem _ hmem))
  · split
    · next hcontrol =>
      have hlow : c.toNat < 256 := by
        simp only [isControl, Bool.or_eq_true, Bool.and_eq_true, decide_eq_true_eq] at hcontrol
        omega
      obtain ⟨a, b, hab, ha, hb, -⟩ := exists_hexLower hlow
      rw [hab]
      rintro hin
      simp only [List.mem_cons, List.not_mem_nil, or_false] at hin
      rcases hin with rfl | rfl | rfl | rfl
      · exact hdigits.1 (by simp)
      · exact hdigits.1 (by simp)
      · rw [hdigits.2] at ha
        cases ha
      · rw [hdigits.2] at hb
        cases hb
    · simpa using Ne.symm hc

theorem flatMap_doubled_of_not_mem (h : ∀ brace ∈ ['{', '}'], brace ∉ text) : text.flatMap doubled = text := by
  induction text with
  | nil => rfl
  | cons c cs ih =>
    have hc : doubled c = [c] := by
      have hopen := h '{' (by simp)
      have hclose := h '}' (by simp)
      simp only [List.mem_cons, not_or] at hopen hclose
      simp [doubled, Ne.symm hopen.1, Ne.symm hclose.1]
    rw [List.flatMap_cons, hc, ih fun brace hbrace hin => h brace hbrace (List.mem_cons_of_mem _ hin)]
    rfl

theorem escaped_eq (hquote : StringLiteral.isQuote quote = true) (text : Text) :
    escaped quote text = doubleBraces (text.flatMap (writeChar quote)) := by
  rw [escaped, doubleBraces_eq, doubleBraces_eq, List.flatMap_assoc, List.flatMap_assoc]
  refine congrArg text.flatMap (funext fun c => ?_)
  by_cases hc : c ∈ ['{', '}']
  · have hself := writeChar_brace hquote hc
    simp only [List.mem_cons, List.not_mem_nil, or_false] at hc
    simp [doubled, hc, hself]
  · have hne (brace : Char) (hbrace : brace ∈ ['{', '}']) : c ≠ brace := fun heq => hc (heq ▸ hbrace)
    have hnot := fun brace hbrace => brace_not_mem_writeChar hquote hbrace (hne brace hbrace)
    rw [flatMap_doubled_of_not_mem hnot, doubled, if_neg (by simpa using hc), List.flatMap_singleton]

/-- What stands between interpolations is read as the text that it was written for. -/
theorem chunkValue_escaped (hquote : StringLiteral.isQuote quote = true) (text : Text) :
    chunkValue false (escaped quote text) = text := by
  rw [chunkValue, if_neg Bool.false_ne_true, escaped_eq hquote, undoubleBraces_doubleBraces,
    decodeText_flatMap_writeChar hquote]

theorem chunkText_escaped (hquote : StringLiteral.isQuote quote = true) (text : Text) :
    chunkText false (escaped quote text) = doubleBraces text := by
  rw [chunkText, if_neg Bool.false_ne_true, escaped, decodeText_flatMap_writeChar hquote,
    undoubleBraces_doubleBraces]

theorem escaped_append (quote : Char) (text rest : Text) :
    escaped quote (text ++ rest) = escaped quote text ++ escaped quote rest := by
  rw [escaped, doubleBraces_append, List.flatMap_append]
  rfl

theorem escaped_eq_nil (quote : Char) (text : Text) : escaped quote text = [] ↔ text = [] := by
  cases text with
  | nil => exact iff_of_true rfl rfl
  | cons c cs =>
    refine iff_of_false (fun hnil => ?_) (List.cons_ne_nil c cs)
    have hc : ∃ d ds, doubled c = d :: ds := by
      rw [doubled]
      split <;> exact ⟨_, _, rfl⟩
    obtain ⟨d, ds, hd⟩ := hc
    rw [escaped, doubleBraces_eq, List.flatMap_cons, hd, List.cons_append, List.flatMap_cons] at hnil
    have hwritten : writeChar quote d ≠ [] := by
      unfold writeChar
      split_ifs <;> exact List.cons_ne_nil _ _
    exact hwritten (List.append_eq_nil_iff.1 hnil).1

/-! ### Turns -/

variable {α β : Type} {parts : List (Text ⊕ α)}

theorem joinTexts_map {f : Text → Text} (happend : ∀ a b, f (a ++ b) = f a ++ f b)
    (hnil : ∀ a, f a = [] ↔ a = []) (g : α → β) (text : Text) (parts : List (Text ⊕ α)) :
    joinTexts (f text) (parts.map (Sum.map f g)) = (joinTexts text parts).map (Sum.map f g) := by
  have hempty (text : Text) : (f text).isEmpty = text.isEmpty := by
    rw [Bool.eq_iff_iff, List.isEmpty_iff, List.isEmpty_iff, hnil]
  induction parts generalizing text with
  | nil =>
    rw [List.map_nil, joinTexts, joinTexts, hempty]
    split <;> rfl
  | cons part parts ih =>
    cases part with
    | inl behind =>
      rw [List.map_cons, Sum.map_inl, joinTexts, ← happend, ih]
      rfl
    | inr value =>
      have hrest := ih []
      rw [(hnil []).2 rfl] at hrest
      rw [List.map_cons, Sum.map_inr, joinTexts, joinTexts, hempty, hrest]
      split <;> simp

theorem joinTexts_joinTexts (text : Text) (parts : List (Text ⊕ α)) :
    joinTexts [] (joinTexts text parts) = joinTexts text parts := by
  induction parts generalizing text with
  | nil => cases text <;> rfl
  | cons part parts ih =>
    cases part with
    | inl behind => exact ih _
    | inr value => cases text <;> simp [joinTexts, ih]

theorem inr_mem_joinTexts {value : α} : .inr value ∈ joinTexts text parts ↔ .inr value ∈ parts := by
  induction parts generalizing text with
  | nil => cases text <;> simp [joinTexts]
  | cons part parts ih =>
    cases part with
    | inl behind => simp [joinTexts, ih]
    | inr value => cases text <;> simp [joinTexts, ih]

/-! ### Rows of literals -/

/-- The turns of a literal with interpolations. -/
def pieceTurns (raw : Bool) : List Expr → List (Text ⊕ Expr)
  | [] => []
  | .chunk source :: es => .inl (chunkValue raw source) :: pieceTurns raw es
  | e :: es => .inr e :: pieceTurns raw es

/-- The turns of a row of literals. -/
def rowTurns : List Expr → List (Text ⊕ Expr)
  | [] => []
  | .plain source :: es => .inl (plainText source) :: rowTurns es
  | .format source pieces :: es => pieceTurns (isRawLiteral source) pieces ++ rowTurns es
  | _ :: es => rowTurns es

/-- Turns as the text of one literal, before it is written. -/
def turnsText (turns : List (Text ⊕ Expr)) : Text := turns.flatMap (Sum.elim doubleBraces Expr.render)

/-- The quote around the literal that is written for a row of literals with interpolations. -/
def rowQuote (parts : List Expr) : Char := quoteFor '\'' '"' (turnsText (rowTurns parts))

/-- Whether the values in a row of literals are written as they are: they hold no quotes like those around
them, and nothing else that is escaped. -/
def keepsValues (parts : List Expr) : Bool := (rowTurns parts).all <|
  Sum.elim (fun _ => true) fun e => e.render.all fun c => writeChar (rowQuote parts) c = [c]

/-- Whether a text between interpolations is written with the braces that it stands for. That is not so
where escape sequences stand for braces side by side. -/
def isPlainChunk (raw : Bool) (source : Text) : Bool :=
  chunkText raw source = doubleBraces (chunkValue raw source)

/-- A turn as a piece of a literal, in which a text stands as it is written there. -/
def Expr.ofTurn : Text ⊕ Expr → Expr
  | .inl source => .chunk source
  | .inr value => value

/-- Whether an expression is an interpolated value. -/
def Expr.isInterpolation : Expr → Bool
  | .interpolation .. => true
  | _ => false

theorem treePieces_eq (raw : Bool) (pieces : List Expr) :
    treePieces raw pieces = (pieceTurns raw pieces).map (Sum.map id Expr.tree) := by
  fun_induction pieceTurns raw pieces with
  | case1 => rfl
  | case2 source es ih => exact congrArg (.inl (chunkValue raw source) :: ·) ih
  | case3 e es hchunk ih =>
    rw [treePieces, ih]
    · rfl
    · exact hchunk

theorem treeParts_eq (parts : List Expr) :
    treeParts parts = (rowTurns parts).map (Sum.map id Expr.tree) := by
  fun_induction rowTurns parts with
  | case1 => rfl
  | case2 source es ih => exact congrArg (.inl (plainText source) :: ·) ih
  | case3 source pieces es ih => rw [treeParts, treePieces_eq, ih, List.map_append]
  | case4 e es hplain hformat ih =>
    rw [treeParts, ih]
    · exact hplain
    · exact hformat

theorem turnsText_joinTexts (text : Text) (turns : List (Text ⊕ Expr)) :
    turnsText (joinTexts text turns) = doubleBraces text ++ turnsText turns := by
  have hempty : doubleBraces [] = [] := rfl
  induction turns generalizing text with
  | nil => cases text <;> simp [joinTexts, turnsText, hempty]
  | cons turn turns ih =>
    cases turn with
    | inl behind =>
      rw [joinTexts, ih, doubleBraces_append, List.append_assoc]
      rfl
    | inr value =>
      have hrest := ih []
      rw [hempty, List.nil_append, turnsText, turnsText] at hrest
      cases text <;> simp [joinTexts, turnsText, hempty, hrest]

/-! ### Turns as pieces -/

theorem renderPieces_ofTurn (h : ∀ e, .inr e ∈ turns → e.isInterpolation = true) :
    renderPieces raw (turns.map Expr.ofTurn) = turns.flatMap (Sum.elim (chunkText raw) Expr.render) := by
  induction turns with
  | nil => rfl
  | cons turn turns ih =>
    have hrest := ih fun e he => h e (List.mem_cons_of_mem _ he)
    rw [List.map_cons, List.flatMap_cons, ← hrest]
    cases turn with
    | inl source => rfl
    | inr value =>
      have hvalue := h value List.mem_cons_self
      cases value with
      | interpolation => rfl
      | _ => cases hvalue

theorem treePieces_ofTurn (h : ∀ e, .inr e ∈ turns → e.isInterpolation = true) :
    treePieces raw (turns.map Expr.ofTurn) = turns.map (Sum.map (chunkValue raw) Expr.tree) := by
  induction turns with
  | nil => rfl
  | cons turn turns ih =>
    have hrest := ih fun e he => h e (List.mem_cons_of_mem _ he)
    rw [List.map_cons, List.map_cons, ← hrest]
    cases turn with
    | inl source => rfl
    | inr value =>
      have hvalue := h value List.mem_cons_self
      cases value with
      | interpolation => rfl
      | _ => cases hvalue

/-- The pieces of a literal that is written for some turns. -/
def literalPieces (quote : Char) (turns : List (Text ⊕ Expr)) : List Expr :=
  (joinTexts [] (turns.map (Sum.map (escaped quote) id))).map Expr.ofTurn

/-- Values may be replaced in the turns or in the pieces. -/
theorem literalPieces_map (quote : Char) (reread : Expr → Expr) (turns : List (Text ⊕ Expr)) :
    literalPieces quote (turns.map (Sum.map id reread))
      = (joinTexts [] (turns.map (Sum.map (escaped quote) reread))).map Expr.ofTurn := by
  rw [literalPieces, List.map_map, Sum.map_comp_map]
  rfl

/-- The pieces of a literal that is written for some turns are written as they are and stand for the
same turns. -/
theorem same_turns (hquote : StringLiteral.isQuote quote = true) {reread : Expr → Expr}
    (h : ∀ e, .inr e ∈ turns → (reread e).isInterpolation = true ∧ (reread e).render = e.render
      ∧ (reread e).tree = e.tree) :
    renderPieces false (literalPieces quote (turns.map (Sum.map id reread))) = turnsText turns
      ∧ joinTexts [] (treePieces false (literalPieces quote (turns.map (Sum.map id reread))))
        = joinTexts [] (turns.map (Sum.map id Expr.tree)) := by
  have hpieces : literalPieces quote (turns.map (Sum.map id reread))
      = ((joinTexts [] turns).map (Sum.map (escaped quote) reread)).map Expr.ofTurn :=
    (literalPieces_map quote reread turns).trans (congrArg (List.map Expr.ofTurn)
      (joinTexts_map (escaped_append quote) (escaped_eq_nil quote) reread [] turns))
  have hvalue (e : Expr) (he : .inr e ∈ joinTexts [] turns) := h e (inr_mem_joinTexts.1 he)
  have hinterpolation : ∀ e, .inr e ∈ (joinTexts [] turns).map (Sum.map (escaped quote) reread) →
      e.isInterpolation = true := by
    intro e he
    obtain ⟨turn, hturn, heq⟩ := List.mem_map.1 he
    cases turn with
    | inl text => cases heq
    | inr value =>
      cases heq
      exact (hvalue value hturn).1
  rw [hpieces]
  constructor
  · have hturns : turnsText (joinTexts [] turns) = turnsText turns := turnsText_joinTexts [] turns
    rw [renderPieces_ofTurn hinterpolation, List.flatMap_map, ← hturns, turnsText]
    refine List.flatMap_congr fun turn hturn => ?_
    cases turn with
    | inl text => exact chunkText_escaped hquote text
    | inr value => exact (hvalue value hturn).2.1
  · have hturns : (joinTexts [] turns).map
          (Sum.map (chunkValue false) Expr.tree ∘ Sum.map (escaped quote) reread)
        = (joinTexts [] turns).map (Sum.map id Expr.tree) := by
      refine List.map_congr_left fun turn hturn => ?_
      cases turn with
      | inl text => exact congrArg Sum.inl (chunkValue_escaped hquote text)
      | inr value => exact congrArg Sum.inr (hvalue value hturn).2.2
    have hjoin (turns : List (Text ⊕ Expr)) : joinTexts [] (turns.map (Sum.map id Expr.tree))
        = (joinTexts [] turns).map (Sum.map id Expr.tree) :=
      joinTexts_map (fun _ _ => rfl) (fun _ => Iff.rfl) Expr.tree [] turns
    rw [treePieces_ofTurn hinterpolation, List.map_map, hturns, hjoin, hjoin, joinTexts_joinTexts]

end Testbook.Python
