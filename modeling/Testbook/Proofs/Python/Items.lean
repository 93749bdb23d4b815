import Mathlib.Data.List.Forall2
import Testbook.Proofs.Python.Operand

/-!
Items in brackets. `IsItem item text e` says that a text is read as the item `e` by the reader
`item`, in front of a comma, a closing bracket or a clause. Items with commas between them are read
one after the other (`reads_items`); with their brackets they make displays and parentheses, and
behind an operand calls and subscripts.
-/

namespace Testbook.Python

open Testbook.Text

/-- Whether a token ends the items in brackets, or stands between two of them. -/
def Token.separates : Token → Bool
  | .op symbol => [")", "]", "\x7d", ","].contains symbol
  | _ => false

/-- Whether a token stands behind an item: behind a lone one there may be clauses. -/
def Token.endsItem (token : Token) : Bool := token.separates || token = .word "for".toList

theorem Token.ends_of_endsItem {token : Token} (h : token.endsItem = true) :
    token.ends anyLevel = true := by
  rw [Token.endsItem, Bool.or_eq_true, decide_eq_true_eq] at h
  rcases h with h | rfl
  · cases token with
    | op symbol =>
      exact (by decide : ∀ s ∈ [")", "]", "\x7d", ","], (Token.op s).ends anyLevel = true) symbol
        (List.contains_iff_mem.1 h)
    | _ => exact absurd h (by simp [Token.separates])
  · decide

/-- A text that is read as an item. -/
structure IsItem (item : Grammar → Reader Expr) (text : Text) (e : Expr) : Prop where
  begins {x : Expect} {gap rest : Text} (hx : x.string = true) (hgap : IsGap gap)
    (hrest : IsDelimited rest) : ∃ token start cursor,
      next x (.plain (gap ++ (text ++ rest))) = ⟨[], token, start, cursor⟩
        ∧ token.separates = false
  reads {source : Text} {d : Nat} {gap rest : Text} {token : Token} {behind : Text}
    (hgap : IsGap gap) (hd : 4 * text.length + 12 ≤ d) (hfollows : Follows closerNext rest token behind)
    (hends : token.endsItem = true) :
    Reads (item (grammar source d)) (gap ++ (text ++ rest)) e rest
  solid : isGap e = false

/-- The readers of brackets. -/
def isClosing (symbol : String) : Bool := [")", "]", "\x7d"].contains symbol

variable {item : Grammar → Reader Expr} {text gap rest : Text} {e : Expr} {closing : String}
  {emptyComma : Bool} {clauses : Reader (List Expr)} {items : List Expr} {count : Nat} {comma : Bool}
  {source : Text} {d : Nat}

theorem mem_of_isClosing (h : isClosing closing = true) :
    closing ∈ ["(", ")", "[", "]", "\x7d", ","] := by
  have hmem := List.contains_iff_mem.1 h
  exact (by decide : ∀ s ∈ [")", "]", "\x7d"], s ∈ ["(", ")", "[", "]", "\x7d", ","]) closing hmem

theorem follows_closing (h : isClosing closing = true) (after : Expect) (rest : Text) :
    Follows after (closing.toList ++ rest) (.op closing) rest :=
  follows_bracket (mem_of_isClosing h) rest

theorem endsItem_closing (h : isClosing closing = true) : (Token.op closing).endsItem = true :=
  (by decide : ∀ s ∈ [")", "]", "\x7d"], (Token.op s).endsItem = true) closing
    (List.contains_iff_mem.1 h)

/-! ### Steps along items -/

section Step

variable {read : Reader Expr}

theorem reads_readItem_end (h : isClosing closing = true) (rest : Text) :
    Reads (readItem closing emptyComma read clauses (items, count, comma))
      (closing.toList ++ rest) (.inr (items, comma, [])) rest := by
  obtain ⟨start, hnext⟩ := (follows_closing h { closer := true, string := true } rest).next
  obtain ⟨_, hcloser⟩ := (follows_closing h closerNext rest).next
  refine (Reads.peek hnext).bind ?_
  rw [if_pos (by simp [Lexeme.isOp])]
  refine (Reads.readOp hcloser).bind ?_
  rw [Lexeme.gap, List.map_nil, List.append_nil]
  exact Reads.pure _ _

/-- An item that is read is added to those before it; what stands behind it decides how to go on. -/
theorem reads_readItem {token : Token} {start mid : Text} {cursor : Cursor}
    {r : ItemsState ⊕ List Expr × Bool × List Expr}
    (hnext : next { closer := true, string := true } (.plain text) = ⟨[], token, start, cursor⟩)
    (hclosing : isClosing closing = true) (htoken : token.separates = false)
    (hread : Reads read text e mid)
    (hrest : Reads (do
      let l ← peek closerNext
      if l.isOp closing then
        readOp closerNext closing
        return .inr (items ++ [e] ++ l.gap, comma, [])
      else if l.isOp "," then
        take l
        return .inl (items ++ [e] ++ l.gap, count + 1, true)
      else if l.opensClause && count = 0 && isBody e then
        let clauses ← clauses
        readOp closerNext closing
        return .inr ([e], false, clauses)
      else refuse) mid r rest) :
    Reads (readItem closing emptyComma read clauses (items, count, comma)) text r rest := by
  have hne {symbol : String} (hs : symbol ∈ [")", "]", "\x7d", ","]) :
      (Lexeme.mk [] token start cursor).isOp symbol = false := by
    refine decide_eq_false ?_
    rintro rfl
    rw [Token.separates, List.contains_iff_mem.2 hs] at htoken
    exact absurd htoken (by decide)
  have hmem : closing ∈ [")", "]", "\x7d", ","] :=
    (by decide : ∀ s ∈ [")", "]", "\x7d"], s ∈ [")", "]", "\x7d", ","]) closing
      (List.contains_iff_mem.1 hclosing)
  refine (Reads.peek hnext).bind ?_
  rw [hne hmem, hne (by decide)]
  refine hread.bind ?_
  rw [Lexeme.gap, List.map_nil, List.append_nil]
  exact hrest

end Step

namespace IsItem

/-- An item with a comma behind it. -/
theorem comma_step (h : IsItem item text e) (hclosing : isClosing closing = true) (hgap : IsGap gap)
    (hd : 4 * text.length + 12 ≤ d) (rest : Text) :
    Reads (readItem closing emptyComma (item (grammar source d)) clauses (items, count, comma))
      (gap ++ (text ++ (",".toList ++ rest))) (.inl (items ++ [e], count + 1, true)) rest := by
  have hfollows (after : Expect) : Follows after (",".toList ++ rest) (.op ",") rest :=
    follows_bracket (by decide) rest
  obtain ⟨token, start, cursor, hnext, htoken⟩ :=
    h.begins (x := { closer := true, string := true }) rfl hgap (hfollows {}).delimited
  obtain ⟨_, hcomma⟩ := (hfollows closerNext).next
  refine reads_readItem hnext hclosing htoken (h.reads hgap hd (hfollows _) (by decide)) ?_
  have hne : closing ≠ "," := by
    rintro rfl
    exact absurd hclosing (by decide)
  refine (Reads.peek hcomma).bind ?_
  rw [if_neg (by simp [Lexeme.isOp, Ne.symm hne]), if_pos (by simp [Lexeme.isOp])]
  refine (Reads.take rfl).bind ?_
  rw [Lexeme.gap, List.map_nil, List.append_nil]
  exact Reads.pure _ _

/-- An item with the closing bracket behind it. -/
theorem last_step (h : IsItem item text e) (hclosing : isClosing closing = true) (hgap : IsGap gap)
    (hd : 4 * text.length + 12 ≤ d) (rest : Text) :
    Reads (readItem closing emptyComma (item (grammar source d)) clauses (items, count, comma))
      (gap ++ (text ++ (closing.toList ++ rest))) (.inr (items ++ [e], comma, [])) rest := by
  have hfollows := follows_closing hclosing closerNext rest
  obtain ⟨token, start, cursor, hnext, htoken⟩ :=
    h.begins (x := { closer := true, string := true }) rfl hgap hfollows.delimited
  obtain ⟨_, hcloser⟩ := hfollows.next
  refine reads_readItem hnext hclosing htoken
    (h.reads hgap hd hfollows (endsItem_closing hclosing)) ?_
  refine (Reads.peek hcloser).bind ?_
  rw [if_pos (by simp [Lexeme.isOp])]
  refine (Reads.readOp hcloser).bind ?_
  rw [Lexeme.gap, List.map_nil, List.append_nil]
  exact Reads.pure _ _

/-- An item with clauses behind it. -/
theorem clauses_step (h : IsItem item text e) (hbody : isBody e = true)
    (hclosing : isClosing closing = true) (hgap : IsGap gap) (hd : 4 * text.length + 12 ≤ d)
    {mid behind : Text} {read : List Expr}
    (hfollows : Follows closerNext mid (.word "for".toList) behind)
    (hclauses : Reads clauses mid read (closing.toList ++ rest)) :
    Reads (readItem closing emptyComma (item (grammar source d)) clauses ([], 0, comma))
      (gap ++ (text ++ mid)) (.inr ([e], false, read)) rest := by
  obtain ⟨token, start, cursor, hnext, htoken⟩ :=
    h.begins (x := { closer := true, string := true }) rfl hgap hfollows.delimited
  obtain ⟨_, hfor⟩ := hfollows.next
  obtain ⟨_, hcloser⟩ := (follows_closing hclosing closerNext rest).next
  refine reads_readItem hnext hclosing htoken (h.reads hgap hd hfollows (by decide)) ?_
  refine (Reads.peek hfor).bind ?_
  rw [if_neg (by simp [Lexeme.isOp]), if_neg (by simp [Lexeme.isOp]),
    if_pos (by simp [Lexeme.opensClause, Lexeme.isWord, hbody])]
  exact hclauses.bind ((Reads.readOp hcloser).bind (Reads.pure _ _))

end IsItem

/-! ### Items with commas -/

/-- The commas behind the last item: none, or one. -/
def IsEnding (ending : Text) (items : List Text) : Prop :=
  ending = [] ∨ ending = [','] ∧ items ≠ []

theorem commas_cons_cons (text next : Text) (texts : List Text) :
    commas (text :: next :: texts) = text ++ (",".toList ++ (" ".toList ++ commas (next :: texts))) := by
  rw [commas, join, ← commas]
  simp

/-- Items with commas between them, up to the closing bracket. -/
theorem reads_items {texts : List Text} {es : List Expr} (h : List.Forall₂ (IsItem item) texts es)
    (hclosing : isClosing closing = true) {ending : Text} (hending : IsEnding ending texts)
    (hd : 4 * (commas texts).length + 12 ≤ d) (rest : Text) {gap : Text} (hgap : IsGap gap)
    (hnil : texts = [] → gap = []) {n : Nat} (hn : texts.length < n) (items : List Expr) (count : Nat)
    (comma : Bool) :
    Reads (iterate (readItem closing emptyComma (item (grammar source d)) clauses) n
        (items, count, comma))
      (gap ++ (commas texts ++ (ending ++ (closing.toList ++ rest))))
      (items ++ es, comma || decide (2 ≤ texts.length) || !ending.isEmpty, []) rest := by
  induction h generalizing gap n items count comma with
  | nil =>
    obtain ⟨m, rfl⟩ := Nat.exists_eq_add_one_of_ne_zero (Nat.ne_zero_of_lt hn)
    have hnone : ending = [] := hending.resolve_right fun hsome => hsome.2 rfl
    rw [hnil rfl, hnone, List.append_nil]
    simpa [commas, join] using Reads.iterate_done (reads_readItem_end hclosing rest)
  | @cons text e texts es hitem hitems ih =>
    obtain ⟨m, rfl⟩ := Nat.exists_eq_add_one_of_ne_zero (Nat.ne_zero_of_lt hn)
    cases hitems with
    | nil =>
      have hd : 4 * text.length + 12 ≤ d := hd
      have hsingle : commas [text] = text := rfl
      rw [hsingle]
      rcases hending with rfl | ⟨rfl, -⟩
      · simpa using Reads.iterate_done (hitem.last_step hclosing hgap hd rest)
      · -- the comma behind the last item makes one more step, which meets the bracket
        obtain ⟨k, rfl⟩ : ∃ k, m = k + 1 :=
          Nat.exists_eq_add_one_of_ne_zero (by simp only [List.length_singleton] at hn; omega)
        refine Reads.iterate_next (hitem.comma_step hclosing hgap hd (closing.toList ++ rest)) ?_
        simpa using Reads.iterate_done (reads_readItem_end hclosing rest)
    | @cons text' e' texts es _ _ =>
      have hlength : text.length + (commas (text' :: texts)).length
          ≤ (commas (text :: text' :: texts)).length := by
        rw [commas_cons_cons]
        simp only [List.length_append]
        omega
      have hlater := ih (.imp_right (fun hsome => ⟨hsome.1, List.cons_ne_nil _ _⟩) hending) (by omega)
        .blank (fun hnil => absurd hnil (List.cons_ne_nil _ _)) (by simpa using hn) (items ++ [e])
        (count + 1) true
      rw [commas_cons_cons]
      simp only [List.append_assoc] at hlater ⊢
      refine Reads.iterate_next (hitem.comma_step hclosing hgap (by omega) _) ?_
      simpa using hlater

theorem length_le_commas (texts : List Text) : texts.length ≤ (commas texts).length + 1 := by
  induction texts with
  | nil => exact Nat.zero_le _
  | cons text texts ih =>
    cases texts with
    | nil => exact Nat.succ_le_succ (Nat.zero_le _)
    | cons next texts =>
      rw [commas_cons_cons, List.length_append, List.length_append, List.length_append]
      have hcomma : ",".toList.length = 1 := rfl
      simp only [List.length_cons] at ih ⊢
      omega

theorem reads_readItems {texts : List Text} {es : List Expr} (h : List.Forall₂ (IsItem item) texts es)
    (hclosing : isClosing closing = true) {ending : Text} (hending : IsEnding ending texts)
    (hd : 4 * (commas texts).length + 12 ≤ d) (rest : Text) :
    Reads (readItems (grammar source d) closing emptyComma (item (grammar source d)) clauses)
      (commas texts ++ (ending ++ (closing.toList ++ rest)))
      (es, decide (2 ≤ texts.length) || !ending.isEmpty, []) rest := by
  have hlength := length_le_commas texts
  have hsteps : texts.length < (grammar source d).steps := by
    rw [steps_grammar]
    omega
  have hreads : Reads (iterate (readItem closing emptyComma (item (grammar source d)) clauses)
      (grammar source d).steps ([], 0, false)) _ _ _ :=
    reads_items h hclosing hending hd rest .nil (fun _ => rfl) hsteps [] 0 false
  rw [readItems]
  simpa using hreads

theorem filter_solid {texts : List Text} {es : List Expr} (h : List.Forall₂ (IsItem item) texts es) :
    es.filter (!isGap ·) = es := by
  induction h with
  | nil => rfl
  | cons hitem _ ih => rw [List.filter_cons, hitem.solid, ih]; rfl

/-! ### Brackets -/

/-- The reader of what stands in brackets, behind the opening one. -/
def readBrackets : Brackets → Grammar → Reader (List Expr) → Reader Expr
  | .round => readRound
  | .square => readSquare
  | .curly => readCurly

/-- The opening bracket as an operator. -/
def Brackets.symbol : Brackets → String
  | .round => "("
  | .square => "["
  | .curly => "\x7b"

/-- The closing bracket as an operator. -/
def Brackets.closer : Brackets → String
  | .round => ")"
  | .square => "]"
  | .curly => "\x7d"

theorem isOperand_brackets {brackets : Brackets} {inner : Text} (hsolid : isGap e = false)
    (hread : ∀ {source : Text} {d n : Nat} {rest : Text}, 4 * (inner.length + 1) + 8 ≤ d →
      inner.length + 1 ≤ n → Reads (readBrackets brackets (grammar source d)
        (readClauses (grammar source d) n)) (inner ++ rest) e rest) :
    IsOperand (brackets.opening :: inner) e := by
  have hsymbol : brackets.opening :: inner = brackets.symbol.toList ++ inner := by
    cases brackets <;> rfl
  have hlexeme (rest : Text) :
      IsLexeme brackets.symbol.toList (.op brackets.symbol) (inner ++ rest) :=
    isLexeme_bracket (by cases brackets <;> decide) _
  have hbegins : (Token.op brackets.symbol).beginsOperand = true := by cases brackets <;> decide
  rw [hsymbol]
  refine .of_atom (.other (by cases brackets <;> rfl) fun x gap rest _ hgap _ => ?_) hsolid
    fun hgap hd hn _ _ _ => ?_
  · rw [List.append_assoc]
    exact ⟨_, _, _, (hlexeme rest).next x hgap, hbegins, by simp⟩
  · rw [List.append_assoc]
    rw [← hsymbol, List.length_cons] at hd hn
    refine (Reads.peek ((hlexeme _).next _ hgap)).bind ?_
    cases brackets <;> exact (Reads.take rfl).bind (hread hd hn)

/-- The comma behind a lone item of a tuple. -/
def endingOf (brackets : Brackets) (items : List Text) : Text :=
  if brackets = .round && items.length = 1 then [','] else []

theorem writeDisplay_eq (brackets : Brackets) (items : List Text) : writeDisplay brackets items
    = brackets.opening :: (commas items ++ (endingOf brackets items ++ brackets.closer.toList)) := by
  have hcloser : brackets.closer.toList = [brackets.closing] := by cases brackets <;> rfl
  rw [writeDisplay, hcloser, endingOf]
  simp

/-! ### Displays, parentheses and calls -/

section Bracketed

variable {texts : List Text} {es : List Expr}

theorem isOperand_square (h : List.Forall₂ (IsItem readElement) texts es) :
    IsOperand (writeDisplay .square texts) (.display .square es) := by
  rw [writeDisplay_eq]
  refine isOperand_brackets rfl fun {source d n rest} hd hn => ?_
  rw [List.length_append] at hd
  have hread : Reads (readItems (grammar source d) "]" false (readElement (grammar source d))
      (readClauses (grammar source d) n)) _ _ rest :=
    reads_readItems h (by decide) (.inl rfl) (by omega) rest
  rw [List.append_assoc]
  refine hread.bind ?_
  rcases es with _ | ⟨e, _ | _⟩ <;> exact Reads.pure _ _

theorem isOperand_tuple (h : List.Forall₂ (IsItem readElement) texts es) :
    IsOperand (writeDisplay .round texts) (.display .round es) := by
  rw [writeDisplay_eq]
  refine isOperand_brackets rfl fun {source d n rest} hd hn => ?_
  rw [List.length_append] at hd
  have hending : IsEnding (endingOf .round texts) texts := by
    by_cases hone : texts.length = 1
    · exact .inr ⟨by simp [endingOf, hone], List.ne_nil_of_length_eq_add_one hone⟩
    · exact .inl (by simp [endingOf, hone])
  have hread : Reads (readItems (grammar source d) ")" false (readElement (grammar source d))
      (readClauses (grammar source d) n)) _ _ rest :=
    reads_readItems h (by decide) hending (by omega) rest
  rw [List.append_assoc, List.append_assoc]
  refine hread.bind ?_
  -- there is a comma unless there are no items at all
  rcases h with _ | ⟨_, _ | _⟩ <;> exact Reads.pure _ _

theorem isOperand_paren (h : IsItem readElement text e) :
    IsOperand (parenthesized text) (.paren [e]) := by
  have htext : parenthesized text = Brackets.round.opening :: (text ++ ")".toList) := rfl
  rw [htext]
  refine isOperand_brackets rfl fun {source d n rest} hd hn => ?_
  rw [List.length_append] at hd
  have hread : Reads (readItems (grammar source d) ")" false (readElement (grammar source d))
      (readClauses (grammar source d) n)) (commas [text] ++ ([] ++ (")".toList ++ rest))) _ rest :=
    reads_readItems (.cons h .nil) (by decide) (.inl rfl) (by simp [commas, join]; omega) rest
  rw [List.append_assoc]
  refine Reads.bind hread ?_
  have hfilter : [e].filter (!isGap ·) = [e] := filter_solid (.cons h .nil)
  simp only [hfilter]
  exact Reads.pure _ _

/-- A dictionary holds entries only, and a set none. -/
theorem isOperand_curly (h : List.Forall₂ (IsItem readEntry) texts es)
    (hentries : es.all isEntry = true ∨ es.any isEntry = false) :
    IsOperand (writeDisplay .curly texts) (.display .curly es) := by
  rw [writeDisplay_eq]
  refine isOperand_brackets rfl fun {source d n rest} hd hn => ?_
  rw [List.length_append] at hd
  have hread : Reads (readItems (grammar source d) "\x7d" true (readEntry (grammar source d))
      (readClauses (grammar source d) n)) _ _ rest :=
    reads_readItems h (by decide) (.inl rfl) (by omega) rest
  rw [List.append_assoc]
  refine hread.bind ?_
  have hmixed : (!es.all isEntry && es.any isEntry) = false := by
    rcases hentries with hall | hnone
    · rw [hall]; rfl
    · rw [hnone, Bool.and_false]
  dsimp only
  rw [filter_solid h, hmixed]
  rcases es with _ | ⟨e, _ | _⟩ <;> exact Reads.pure _ _

theorem IsOperand.call (hf : IsOperand text e) (h : List.Forall₂ (IsItem readArgument) texts es) :
    IsOperand (text ++ parenthesized (commas texts)) (.call e es) := by
  have htext : parenthesized (commas texts) = "(".toList ++ (commas texts ++ ")".toList) := rfl
  rw [htext]
  refine hf.trail (by decide) (fun _ => by decide) (fun after rest _ => follows_bracket (by decide) _)
    (fun {source d n after rest behind token} hd hfollows hopens => ?_) rfl
  have hbrackets : "(".toList.length = 1 ∧ ")".toList.length = 1 := ⟨rfl, rfl⟩
  simp only [List.length_append] at hd
  have hlexeme : IsLexeme "(".toList (.op "(") ((commas texts ++ ")".toList) ++ rest) :=
    isLexeme_bracket (by decide) _
  have hread : Reads (readItems (grammar source d) ")" true (readArgument (grammar source d))
      (readClauses (grammar source d) n)) _ _ rest :=
    reads_readItems h (by decide) (.inl rfl) (by omega) rest
  refine (Reads.peek (hlexeme.next after .nil)).bind ((Reads.take rfl).bind ?_)
  rw [List.append_assoc]
  refine (hread.bind ?_).bind (Reads.pure _ _)
  rcases es with _ | ⟨e, _ | _⟩ <;> exact Reads.pure _ _

end Bracketed

end Testbook.Python
