import Testbook.Proofs.Python.Items

/-!
What stands between the commas in brackets: elements, arguments and entries, each an operand or an
operand with something in front of it, and subscripts, which may be slices.
-/

namespace Testbook.Python

open Testbook.Text

variable {after : Expect} {text gap rest behind : Text} {token : Token} {e : Expr} {source : Text}
  {d : Nat}

namespace IsOperand

/-- Where an item begins with an operand, the reader sees the operand. -/
theorem begins_item (h : IsOperand text e) {x : Expect} (hx : x.string = true) (hgap : IsGap gap)
    (hrest : IsDelimited rest) : ∃ token start cursor,
      next x (.plain (gap ++ (text ++ rest))) = ⟨[], token, start, cursor⟩
        ∧ token.separates = false ∧ token ≠ .op "*" ∧ token ≠ .op "**"
        ∧ token ≠ .word "yield".toList := by
  obtain ⟨token, start, cursor, hnext, hbegins⟩ := h.begins.next hx hgap hrest
  have hne {t : Token} (ht : t.beginsOperand = false) : token ≠ t := by
    rintro rfl
    rw [hbegins] at ht
    exact absurd ht (by decide)
  refine ⟨token, start, cursor, hnext, ?_, hne (by decide), hne (by decide), hne (by decide)⟩
  cases token with
  | op symbol =>
    exact (by decide : ∀ s ∈ ["(", "[", "\x7b", "..."], (Token.op s).separates = false) symbol
      (List.contains_iff_mem.1 hbegins)
  | _ => rfl

end IsOperand

/-! ### Elements -/

theorem reads_readElement (h : IsOperand text e) (hgap : IsGap gap) (hd : 4 * text.length + 10 ≤ d)
    (hfollows : Follows closerNext rest token behind) (hends : token.ends anyLevel = true) :
    Reads (readElement (grammar source d)) (gap ++ (text ++ rest)) e rest := by
  obtain ⟨token, start, cursor, hnext, -, hstar, -, hyield⟩ :=
    h.begins_item (x := closerNext.orOperand) rfl hgap hfollows.delimited
  refine (Reads.peek hnext).bind ?_
  rw [if_neg (by simpa [Lexeme.isOp] using hstar), if_neg (by simpa [Lexeme.isWord] using hyield)]
  exact h.expression hgap hd hfollows hends

theorem isItem_element (h : IsOperand text e) :
    IsItem readElement text e where
  begins hx hgap hrest := by
    obtain ⟨token, start, cursor, hnext, hseparates, -⟩ := h.begins_item hx hgap hrest
    exact ⟨token, start, cursor, hnext, hseparates⟩
  reads hgap hd hfollows hends :=
    reads_readElement h hgap (by omega) hfollows (Token.ends_of_endsItem hends)
  solid := h.solid

/-- Stars in front of an operand. -/
theorem isLexeme_stars (h : IsOperand text e) {stars : String} (hstars : stars ∈ ["*", "**"])
    (rest : Text) : IsLexeme stars.toList (.op stars) (text ++ rest) := by
  obtain ⟨c, cs, rfl, hc⟩ := h.begins.head
  have hmem : stars ∈ shortOperators :=
    (by decide : ∀ s ∈ ["*", "**"], s ∈ shortOperators) stars hstars
  exact isLexeme_symbol hmem hc (cs ++ rest)

theorem reads_readStarred (h : IsOperand text e) {l : Lexeme} {stars : Text}
    (hl : l.after = .plain (text ++ rest)) (hd : 4 * text.length + 10 ≤ d)
    (hfollows : Follows after rest token behind) (hends : token.ends anyLevel = true)
    (mid : Text) : Reads (readStarred (grammar source d) l stars after) mid (.starred stars [e]) rest := by
  refine (Reads.take hl).bind ?_
  obtain ⟨first, start, cursor, hnext, -⟩ :=
    h.begins.next (e := operandNext) rfl .nil hfollows.delimited
  refine (Reads.peek hnext).bind ?_
  exact (h.expression .nil hd hfollows hends).bind (Reads.pure _ _)

/-- An item with stars in front, for a reader that takes the stars first. -/
theorem isItem_starred {item : Grammar → Reader Expr} (h : IsOperand text e) {stars : String}
    (hstars : stars ∈ ["*", "**"])
    (hitem : ∀ {source : Text} {d : Nat} {gap rest behind : Text} {token : Token} {l : Lexeme},
      IsGap gap → Follows closerNext rest token behind → token.endsItem = true →
      next closerNext.orOperand (.plain (gap ++ (stars.toList ++ (text ++ rest)))) = l →
      l.token = .op stars →
      Reads (readStarred (grammar source d) l stars.toList closerNext)
        (gap ++ (stars.toList ++ (text ++ rest))) (.starred stars.toList [e]) rest →
      Reads (item (grammar source d)) (gap ++ (stars.toList ++ (text ++ rest)))
        (.starred stars.toList [e]) rest) :
    IsItem item (stars.toList ++ text) (.starred stars.toList [e]) where
  begins {x gap rest} hx hgap hrest := by
    rw [List.append_assoc]
    refine ⟨_, _, _, (isLexeme_stars h hstars rest).next x hgap, ?_⟩
    exact (by decide : ∀ s ∈ ["*", "**"], (Token.op s).separates = false) stars hstars
  reads hgap hd hfollows hends := by
    rw [List.append_assoc]
    rw [List.length_append] at hd
    refine hitem hgap hfollows hends rfl ?_ ?_
    · rw [(isLexeme_stars h hstars _).next _ hgap]
    · rw [(isLexeme_stars h hstars _).next _ hgap]
      exact reads_readStarred h rfl (by omega) hfollows (Token.ends_of_endsItem hends) _
  solid := rfl

theorem isItem_element_starred (h : IsOperand text e) :
    IsItem readElement ('*' :: text) (.starred ['*'] [e]) := by
  have hstars : "*" ∈ ["*", "**"] := by decide
  refine isItem_starred h hstars ?_
  intro source d gap rest behind token l hgap hfollows hends hl hstar hread
  refine (Reads.peek hl).bind ?_
  rw [if_pos (by simp [Lexeme.isOp, hstar])]
  exact hread

/-! ### Arguments -/

theorem isItem_argument (h : IsOperand text e) : IsItem readArgument text e where
  begins := (isItem_element h).begins
  reads {source d gap rest token behind} hgap hd hfollows hends := by
    have hread : Reads ((grammar source d).expression anyLevel closerNext closerNext)
        (gap ++ (text ++ rest)) e rest :=
      h.expression hgap (by omega) hfollows (Token.ends_of_endsItem hends)
    cases h.begins with
    | @word word tail hword hkey htail =>
      obtain ⟨c, cs, hcs, hc⟩ := Begins.delimited_tail htail hfollows.delimited
      have hlexeme := isLexeme_word hword hc cs
      have hequals : token ≠ .op "=" := by
        rintro rfl
        exact absurd hends (by decide)
      have hnone := next_tail_ne "=" htail (by decide) hfollows hequals {} (by decide)
      rw [List.append_assoc, hcs] at hread ⊢
      rw [hcs] at hnone
      refine (Reads.peek (hlexeme.next _ hgap)).bind ?_
      refine (Reads.get _).bind ((Reads.take rfl).bind ((Reads.readOp?_false hnone).bind ?_))
      rw [Bool.and_false, if_neg Bool.false_ne_true]
      exact (Reads.set _ _).bind hread
    | other _ hnext =>
      obtain ⟨first, start, cursor, hfirst, hbegins, hword⟩ :=
        hnext closerNext.orOperand gap rest rfl hgap hfollows.delimited
      refine (Reads.peek hfirst).bind ?_
      split
      · next hstar => exact absurd hbegins (by simp only at hstar; rw [hstar]; decide)
      · next hstar => exact absurd hbegins (by simp only at hstar; rw [hstar]; decide)
      · next w hw => exact absurd hw (hword w)
      · exact hread
  solid := h.solid

theorem isItem_argument_starred (h : IsOperand text e) {stars : String} (hstars : stars ∈ ["*", "**"]) :
    IsItem readArgument (stars.toList ++ text) (.starred stars.toList [e]) := by
  refine isItem_starred h hstars ?_
  intro source d gap rest behind token l hgap hfollows hends hl hstar hread
  refine (Reads.peek hl).bind ?_
  rw [hstar]
  simp only [List.mem_cons, List.not_mem_nil, or_false] at hstars
  rcases hstars with rfl | rfl
  · exact hread
  · exact hread

theorem isItem_keyword (h : IsOperand text e) {name : Text} (hname : isIdentifier name = true)
    (hreserved : isReservedOperand name = false) :
    IsItem readArgument (name ++ '=' :: text) (.keyword name e) := by
  have hequals (rest : Text) : IsLexeme "=".toList (.op "=") (text ++ rest) := by
    obtain ⟨c, cs, rfl, hc⟩ := h.begins.head
    have hmem : "=" ∈ shortOperators := by decide
    exact isLexeme_symbol hmem hc (cs ++ rest)
  have hword (rest : Text) : IsLexeme name (.word name) ('=' :: (text ++ rest)) :=
    isLexeme_word hname (by decide) _
  refine ⟨fun {x gap rest} _ hgap _ => ?_, fun {source d gap rest token behind} hgap hd hfollows hends =>
    ?_, rfl⟩
  · rw [List.append_assoc]
    exact ⟨_, _, _, (hword rest).next x hgap, rfl⟩
  · rw [List.length_append, List.length_cons] at hd
    have hread : Reads ((grammar source d).expression anyLevel {} closerNext)
        ([] ++ (text ++ rest)) e rest :=
      h.expression .nil (by omega) hfollows (Token.ends_of_endsItem hends)
    rw [List.append_assoc, List.cons_append]
    refine (Reads.peek ((hword rest).next _ hgap)).bind ?_
    refine (Reads.get _).bind ((Reads.take rfl).bind ?_)
    refine (Reads.readOp?_true ((hequals rest).next {} .nil)).bind ?_
    rw [hreserved, if_pos (by decide)]
    exact hread.bind (Reads.pure _ _)

/-! ### Entries -/

theorem reads_readEntry {g : Grammar} {mid : Text} {e' : Expr}
    (hstars : (next closerNext.orOperand (.plain text)).token ≠ .op "**")
    (hkey : Reads (readElement g) text e mid)
    (h : Reads (do
      if ← readOp? closerNext ":" then return .pair e (← g.expression anyLevel {} closerNext)
      else return e) mid e' rest) : Reads (readEntry g) text e' rest := by
  refine (Reads.peek rfl).bind ?_
  rw [if_neg (by simpa [Lexeme.isOp] using hstars)]
  exact hkey.bind h

/-- An element of a set: no colon stands behind it. -/
theorem isItem_entry (h : IsItem readElement text e)
    (hstars : ∀ {gap rest : Text}, IsGap gap → IsDelimited rest →
      (next closerNext.orOperand (.plain (gap ++ (text ++ rest)))).token ≠ .op "**") :
    IsItem readEntry text e where
  begins := h.begins
  reads hgap hd hfollows hends := by
    obtain ⟨start, hnext⟩ := hfollows.next
    refine reads_readEntry (hstars hgap hfollows.delimited) (h.reads hgap hd hfollows hends) ?_
    refine (Reads.readOp?_false ?_).bind (Reads.pure _ _)
    rw [hnext]
    rintro rfl
    exact absurd hends (by decide)
  solid := h.solid

theorem isItem_entry_operand (h : IsOperand text e) : IsItem readEntry text e := by
  refine isItem_entry (isItem_element h) fun hgap hrest => ?_
  obtain ⟨token, start, cursor, hnext, -, -, hstars, -⟩ :=
    h.begins_item (x := closerNext.orOperand) rfl hgap hrest
  rw [hnext]
  exact hstars

theorem isItem_entry_starred (h : IsOperand text e) {stars : String} (hstars : stars ∈ ["*", "**"]) :
    IsItem readEntry (stars.toList ++ text) (.starred stars.toList [e]) := by
  simp only [List.mem_cons, List.not_mem_nil, or_false] at hstars
  rcases hstars with rfl | rfl
  · refine isItem_entry (isItem_element_starred h) fun {gap rest} hgap hrest => ?_
    have hlexeme : IsLexeme "*".toList (.op "*") (text ++ rest) := isLexeme_stars h (by decide) rest
    have hnext := hlexeme.next closerNext.orOperand hgap
    rw [← List.append_assoc "*".toList] at hnext
    exact hnext ▸ by simp
  · have hstars : "**" ∈ ["*", "**"] := by decide
    refine isItem_starred h hstars ?_
    intro source d gap rest behind token l hgap hfollows hends hl hstar hread
    refine (Reads.peek hl).bind ?_
    rw [if_pos (by simp [Lexeme.isOp, hstar])]
    exact hread

theorem isItem_pair {value : Text} {e' : Expr} (h : IsOperand text e) (hvalue : IsOperand value e') :
    IsItem readEntry (text ++ (": ".toList ++ value)) (.pair e e') := by
  have hcolon (rest : Text) : Follows closerNext (": ".toList ++ (value ++ rest)) (.op ":")
      (" ".toList ++ (value ++ rest)) := follows_colon (by decide) _
  refine ⟨fun {x gap rest} hx hgap _ => ?_, fun {source d gap rest token behind} hgap hd hfollows hends =>
    ?_, rfl⟩
  · obtain ⟨first, start, cursor, hnext, hseparates, -⟩ := h.begins_item hx hgap (hcolon rest).delimited
    simp only [List.append_assoc]
    exact ⟨first, start, cursor, hnext, hseparates⟩
  · simp only [List.length_append] at hd
    simp only [List.append_assoc]
    obtain ⟨first, start, cursor, hnext, -, -, hstars, -⟩ :=
      h.begins_item (x := closerNext.orOperand) rfl hgap (hcolon rest).delimited
    obtain ⟨_, hcolonNext⟩ := (hcolon rest).next
    refine reads_readEntry (by rw [hnext]; exact hstars)
      (reads_readElement h hgap (by omega) (hcolon rest) (by decide)) ?_
    refine (Reads.readOp?_true hcolonNext).bind ?_
    have hread : Reads ((grammar source d).expression anyLevel {} closerNext)
        (" ".toList ++ (value ++ rest)) e' rest :=
      hvalue.expression .blank (by omega) hfollows (Token.ends_of_endsItem hends)
    exact hread.bind (Reads.pure _ _)

/-! ### Subscripts -/

/-- A text that is read as a subscript in front of the closing bracket. -/
def IsIndex (text : Text) (e : Expr) : Prop :=
  ∀ (source : Text) (d : Nat) (rest : Text), 4 * text.length + 12 ≤ d →
    Reads (readIndex (grammar source d)) (text ++ ("]".toList ++ rest)) e ("]".toList ++ rest)

/-- A text that is read as a bound of a slice, or is empty if there is none. -/
def IsBound (text : Text) (bound : Option Expr) : Prop :=
  text = [] ∧ bound = none ∨ ∃ e, bound = some e ∧ IsOperand text e

/-- The part of a slice in front of a colon or a closing bracket. -/
theorem reads_readSlicePart {bound : Option Expr} (h : IsBound text bound)
    (hd : 4 * text.length + 10 ≤ d) (hfollows : Follows closerNext rest token behind)
    (htoken : token = .op ":" ∨ token = .op "]") :
    Reads (readSlicePart (grammar source d)) (text ++ rest) bound rest := by
  rcases h with ⟨rfl, rfl⟩ | ⟨e, rfl, h⟩
  · obtain ⟨start, hnext⟩ := hfollows.next_eq { closer := true, string := true } (by simp [closerNext])
    refine (Reads.peek hnext).bind ?_
    rcases htoken with rfl | rfl <;> exact Reads.pure _ _
  · obtain ⟨first, start, cursor, hnext, hbegins⟩ :=
      h.begins.next (e := { closer := true, string := true }) rfl .nil hfollows.delimited
    have hnot {symbol : String} (hs : symbol ∈ [":", "]", ","]) :
        (Lexeme.mk [] first start cursor).isOp symbol = false := by
      refine decide_eq_false ?_
      rintro rfl
      have hnone := (by decide : ∀ s ∈ [":", "]", ","], (Token.op s).beginsOperand = false) symbol hs
      rw [hbegins] at hnone
      exact absurd hnone (by decide)
    obtain ⟨_, hend⟩ := hfollows.next
    have hread : Reads ((grammar source d).expression anyLevel closerNext closerNext)
        ([] ++ (text ++ rest)) e rest :=
      h.expression .nil hd hfollows (by rcases htoken with rfl | rfl <;> decide)
    refine (Reads.peek hnext).bind ?_
    rw [hnot (by decide), hnot (by decide), hnot (by decide)]
    refine hread.bind ((Reads.peek hend).bind ?_)
    rcases htoken with rfl | rfl <;> exact Reads.pure _ _

/-- A subscript up to its first colon, or as a whole. -/
theorem reads_readIndex {lower : Option Expr} {mid : Text} {e : Expr} (h : IsBound text lower)
    (hd : 4 * text.length + 10 ≤ d) (hfollows : Follows closerNext mid token behind)
    (htoken : token = .op ":" ∨ token = .op "]" ∧ lower ≠ none)
    (hrest : Reads (do
      if ← readOp? closerNext ":" then
        let upper ← readSlicePart (grammar source d)
        if ← readOp? closerNext ":" then
          return .slice lower upper (← readSlicePart (grammar source d))
        else return .slice lower upper none
      else match lower with
        | some value => return value
        | none => do
          set (Cursor.plain (text ++ mid))
          refuse) mid e rest) : Reads (readIndex (grammar source d)) (text ++ mid) e rest := by
  refine (Reads.get _).bind ?_
  rcases h with ⟨rfl, rfl⟩ | ⟨value, rfl, h⟩
  · obtain ⟨start, hnext⟩ := hfollows.next_eq operandNext (by simp [closerNext])
    have hcolon := htoken.resolve_right fun hsome => hsome.2 rfl
    refine (Reads.peek hnext).bind ?_
    rw [if_pos (by simp [Lexeme.isOp, hcolon])]
    exact (Reads.pure _ _).bind hrest
  · obtain ⟨first, start, cursor, hnext, hbegins⟩ :=
      h.begins.next (e := operandNext) rfl .nil hfollows.delimited
    have hfirst : first ≠ .op ":" := by
      rintro rfl
      exact absurd hbegins (by decide)
    have hends : token.ends anyLevel = true := by rcases htoken with rfl | ⟨rfl, -⟩ <;> decide
    have hread : Reads ((grammar source d).expression anyLevel {} closerNext)
        ([] ++ (text ++ mid)) value mid := h.expression .nil hd hfollows hends
    obtain ⟨_, hend⟩ := hfollows.next
    refine (Reads.peek hnext).bind ?_
    rw [if_neg (by simpa [Lexeme.isOp] using hfirst)]
    refine hread.bind ((Reads.peek hend).bind ?_)
    split
    · exact (Reads.pure _ _).bind hrest
    · exact (Reads.pure _ _).bind hrest

theorem isIndex_operand (h : IsOperand text e) : IsIndex text e := by
  intro source d rest hd
  have hclosing : isClosing "]" = true := by decide
  have hfollows := follows_closing hclosing closerNext rest
  obtain ⟨_, hcloser⟩ := hfollows.next
  refine reads_readIndex (.inr ⟨e, rfl, h⟩) (by omega) hfollows (.inr ⟨rfl, by simp⟩) ?_
  exact (Reads.readOp?_false (by rw [hcloser]; simp)).bind (Reads.pure _ _)

/-- A colon in front of a part of a slice. -/
theorem IsBound.follows_colon {bound : Option Expr} (h : IsBound text bound)
    (hrest : ∃ c cs, rest = c :: cs ∧ ['*', '/', '='].contains c = false) (after : Expect) :
    Follows after (":".toList ++ (text ++ rest)) (.op ":") (text ++ rest) := by
  have hhead : ∃ c cs, text ++ rest = c :: cs ∧ ['*', '/', '='].contains c = false := by
    rcases h with ⟨rfl, -⟩ | ⟨e, -, h⟩
    · exact hrest
    · obtain ⟨c, cs, rfl, hc⟩ := h.begins.head
      exact ⟨c, cs ++ rest, rfl, hc⟩
  obtain ⟨c, cs, htext, hc⟩ := hhead
  rw [htext]
  exact Testbook.Python.follows_colon hc cs

/-- The text of a step, with its colon. -/
def stepText (text : Text) : Option Expr → Text
  | none => text
  | some _ => ":".toList ++ text

theorem isIndex_slice {lowerText upperText text : Text} {lower upper step : Option Expr}
    (hlower : IsBound lowerText lower) (hupper : IsBound upperText upper) (hstep : IsBound text step) :
    IsIndex (lowerText ++ (":".toList ++ (upperText ++ stepText text step)))
      (.slice lower upper step) := by
  intro source d rest hd
  simp only [List.length_append] at hd
  have hclosing : isClosing "]" = true := by decide
  have hcloser := follows_closing hclosing closerNext rest
  obtain ⟨_, hcloserNext⟩ := hcloser.next
  have hbracket : ∃ c cs, "]".toList ++ rest = c :: cs ∧ ['*', '/', '='].contains c = false :=
    ⟨']', rest, rfl, by decide⟩
  have hlast := hstep.follows_colon hbracket closerNext
  obtain ⟨_, hlastNext⟩ := hlast.next
  have hbehind : ∃ c cs, stepText text step ++ ("]".toList ++ rest) = c :: cs
      ∧ ['*', '/', '='].contains c = false := by
    rcases hstep with ⟨rfl, rfl⟩ | ⟨e, rfl, -⟩
    · exact hbracket
    · exact ⟨':', text ++ ("]".toList ++ rest), rfl, by decide⟩
  have hfirst := hupper.follows_colon hbehind closerNext
  obtain ⟨_, hfirstNext⟩ := hfirst.next
  simp only [List.append_assoc]
  refine reads_readIndex hlower (by omega) hfirst (.inl rfl) ?_
  refine (Reads.readOp?_true hfirstNext).bind ?_
  rcases hstep with ⟨rfl, rfl⟩ | ⟨e, rfl, h⟩
  · refine (reads_readSlicePart hupper (by omega) hcloser (.inr rfl)).bind ?_
    exact (Reads.readOp?_false (by rw [hcloserNext]; simp)).bind (Reads.pure _ _)
  · rw [stepText, List.append_assoc]
    refine (reads_readSlicePart hupper (by omega) hlast (.inl rfl)).bind ?_
    refine (Reads.readOp?_true hlastNext).bind ?_
    have hread : Reads (readSlicePart (grammar source d)) (text ++ ("]".toList ++ rest)) (some e)
        ("]".toList ++ rest) :=
      reads_readSlicePart (.inr ⟨e, rfl, h⟩) (by simp [stepText] at hd; omega) hcloser (.inr rfl)
    exact hread.bind (Reads.pure _ _)

theorem IsOperand.subscript {value index : Text} {e i : Expr} (hvalue : IsOperand value e)
    (hindex : IsIndex index i) :
    IsOperand (value ++ ("[".toList ++ (index ++ "]".toList))) (.subscript e [i] false) := by
  refine hvalue.trail (by decide) (fun _ => by decide)
    (fun after rest _ => follows_bracket (by decide) _)
    (fun {source d n after rest behind token} hd hfollows hopens => ?_) rfl
  have hbrackets : "[".toList.length = 1 ∧ "]".toList.length = 1 := ⟨rfl, rfl⟩
  simp only [List.length_append] at hd
  have hlexeme : IsLexeme "[".toList (.op "[") ((index ++ "]".toList) ++ rest) :=
    isLexeme_bracket (by decide) _
  have hclosing : isClosing "]" = true := by decide
  obtain ⟨_, hcloser⟩ := (follows_closing hclosing closerNext rest).next
  have hsteps : (grammar source d).steps ≠ 0 := by
    rw [steps_grammar]
    omega
  obtain ⟨m, hm⟩ := Nat.exists_eq_add_one_of_ne_zero hsteps
  have hread : Reads (readIndices (grammar source d)) (index ++ ("]".toList ++ rest)) ([i], false)
      rest := by
    refine (hindex source d rest (by omega)).bind ?_
    rw [hm]
    refine Reads.iterate_done ((Reads.readOp?_false (by rw [hcloser]; simp)).bind ?_)
    exact (Reads.readOp hcloser).bind (Reads.pure _ _)
  refine (Reads.peek (hlexeme.next after .nil)).bind ((Reads.take rfl).bind ?_)
  rw [List.append_assoc]
  exact hread.bind (Reads.pure _ _)

end Testbook.Python
