import Testbook.Proofs.Html.Pieces

/-!
Where elements stand. Tokens take up pieces of the text and no piece is empty, so every token ends
behind the byte where the text begins, and every element starts there (`IsBehind.add`,
`IsBehind.read`). So an item is never the whole text it was read from (`ne_of_mem_orderedItems?`).
And a text with anything but blanks in front of its first bracket is no list at all
(`opensWithBracket_of_orderedItems?`).
-/

namespace Testbook.Html

open Testbook.Text

/-! ### Where tokens end -/

theorem utf8Length_pos {text : Text} (h : text ≠ []) : 0 < utf8Length text := by
  cases text with
  | nil => exact absurd rfl h
  | cons c cs => exact Nat.lt_of_lt_of_le c.utf8Size_pos (Nat.le_add_right _ _)

/-- Every token ends behind the byte where the first begins. -/
theorem lt_stop_of_mem_placed {start : Nat} {pieces : List Piece}
    (h : ∀ piece ∈ pieces, piece.text ≠ []) : ∀ l ∈ placed start pieces, start < l.stop := by
  induction pieces generalizing start with
  | nil => exact fun _ hmem => absurd hmem List.not_mem_nil
  | cons piece pieces ih =>
    obtain ⟨hpiece, hpieces⟩ := List.forall_mem_cons.1 h
    have hpos : start < start + utf8Length piece.text :=
      Nat.lt_add_of_pos_right (utf8Length_pos hpiece)
    exact List.forall_mem_cons.2 ⟨hpos, fun l hl => hpos.trans (ih hpieces l hl)⟩

/-- Every token ends behind the byte where the text begins. -/
theorem lt_stop_of_mem_lexemes {start : Nat} {text : Text} {tokens : List Lexeme}
    (h : lexemes start text = some tokens) : ∀ l ∈ tokens, start < l.stop := by
  obtain ⟨pieces, hcut, rfl⟩ := exists_pieces h
  exact lt_stop_of_mem_placed fun piece hmem => (hcut.spelled piece hmem).ne_nil

/-! ### Where elements start -/

/-- None of the elements starts at the first byte. -/
def Behind (children : List Element) : Prop := ∀ child ∈ children, 0 < child.inner.1

/-- No element of an outline but perhaps its root starts at the first byte. -/
structure Outline.IsBehind (o : Outline) : Prop where
  starts : ∀ e ∈ o.stack, 0 < e.start
  children : ∀ e ∈ o.stack, Behind e.children
  root : ∀ e, o.root = some e → Behind e.children

variable {o o' : Outline}

theorem Outline.IsBehind.add (h : o.IsBehind) {e : Element} (hstart : 0 < e.inner.1)
    (hchildren : Behind e.children) (hadd : o.add e = some o') : o'.IsBehind := by
  obtain ⟨stack, root⟩ := o
  cases stack with
  | nil =>
    cases root with
    | none =>
      cases hadd
      exact ⟨by simp, by simp, fun e' he => Option.some.inj he ▸ hchildren⟩
    | some e' => cases hadd
  | cons parent stack =>
    cases hadd
    obtain ⟨hparent, hstack⟩ := List.forall_mem_cons.1 h.starts
    obtain ⟨hinner, houter⟩ := List.forall_mem_cons.1 h.children
    exact ⟨List.forall_mem_cons.2 ⟨hparent, hstack⟩,
      List.forall_mem_cons.2 ⟨List.forall_mem_cons.2 ⟨hstart, hinner⟩, houter⟩, h.root⟩

/-- A token that ends behind the first byte opens no element there. -/
theorem Outline.IsBehind.read (h : o.IsBehind) {l : Lexeme} (hstop : 0 < l.stop)
    (hread : o.read l = some o') : o'.IsBehind := by
  have hnone : Behind [] := fun _ hmem => absurd hmem List.not_mem_nil
  rw [Outline.read] at hread
  cases htoken : l.token with
  | opening name =>
    rw [htoken] at hread
    cases hread
    exact ⟨List.forall_mem_cons.2 ⟨hstop, h.starts⟩, List.forall_mem_cons.2 ⟨hnone, h.children⟩, h.root⟩
  | empty name =>
    rw [htoken] at hread
    exact h.add (e := .mk name l.stop l.stop []) hstop hnone hread
  | closing name =>
    obtain ⟨stack, root⟩ := o
    rw [htoken] at hread
    cases stack with
    | nil => cases hread
    | cons e stack =>
      obtain ⟨hstart, hstarts⟩ := List.forall_mem_cons.1 h.starts
      obtain ⟨hinner, houter⟩ := List.forall_mem_cons.1 h.children
      have hout : Outline.IsBehind ⟨stack, root⟩ := ⟨hstarts, houter, h.root⟩
      have hreverse : Behind e.children.reverse :=
        fun child hmem => hinner child (List.mem_reverse.1 hmem)
      simp only at hread
      split at hread
      · exact hout.add (e := .mk name e.start l.start e.children.reverse) hstart hreverse hread
      · cases hread
  | characters content =>
    rw [htoken] at hread
    simp only at hread
    split at hread <;> cases hread
    exact h
  | verbatim =>
    rw [htoken] at hread
    simp only at hread
    split at hread <;> cases hread
    exact h
  | passed =>
    rw [htoken] at hread
    cases hread
    exact h

theorem Outline.IsBehind.foldlM (h : o.IsBehind) {tokens : List Lexeme}
    (hstops : ∀ l ∈ tokens, 0 < l.stop) (hread : tokens.foldlM Outline.read o = some o') :
    o'.IsBehind := by
  induction tokens generalizing o with
  | nil =>
    cases hread
    exact h
  | cons l tokens ih =>
    obtain ⟨hl, htokens⟩ := List.forall_mem_cons.1 hstops
    rw [List.foldlM_cons] at hread
    obtain ⟨next, hnext, hread⟩ := Option.bind_eq_some_iff.1 hread
    exact ih (h.read hl hnext) htokens hread

/-- A text is an element when it has been read with this element complete and none open. -/
theorem parseFragment_eq_some {text : Text} {root : Element} (h : parseFragment text = some root) :
    ∃ tokens, lexemes 0 (withoutMark text) = some tokens
      ∧ tokens.foldlM Outline.read ⟨[], none⟩ = some ⟨[], some root⟩ := by
  obtain ⟨tokens, htokens, h⟩ := Option.bind_eq_some_iff.1 h
  obtain ⟨⟨stack, root'⟩, ho, h⟩ := Option.bind_eq_some_iff.1 h
  split at h
  · next hempty =>
    obtain rfl : stack = [] := List.isEmpty_iff.1 hempty
    obtain rfl : root' = some root := h
    exact ⟨tokens, htokens, ho⟩
  · cases h

/-- No element within the root of a text starts at the first byte. -/
theorem behind_of_parseFragment {text : Text} {root : Element} (h : parseFragment text = some root) :
    Behind root.children := by
  obtain ⟨tokens, htokens, ho⟩ := parseFragment_eq_some h
  have hempty : Outline.IsBehind ⟨[], none⟩ := ⟨by simp, by simp, by simp⟩
  exact (hempty.foldlM (lt_stop_of_mem_lexemes htokens) ho).root root rfl

/-! ### What opens with a bracket -/

/-- Whether the first character of a text is an opening bracket, when a byte order mark and blanks
do not count. -/
def opensWithBracket (text : Text) : Bool :=
  ((withoutMark text).dropWhile isAsciiBlank).head? = some '<'

/-- What stands in front of the first bracket is read at once. -/
theorem lexemes_of_ne {c : Char} (hc : c ≠ '<') (start : Nat) (cs : Text) : lexemes start (c :: cs)
    = (lexemes (start + utf8Length ((c :: cs).takeWhile (· != '<')))
        ((c :: cs).dropWhile (· != '<'))).map
      (⟨.characters ((c :: cs).takeWhile (· != '<')), start,
        start + utf8Length ((c :: cs).takeWhile (· != '<'))⟩ :: ·) := by
  have hfront : (c :: cs).takeWhile (· != '<') = c :: cs.takeWhile (· != '<') :=
    List.takeWhile_cons_of_pos (by simpa using hc)
  have hbehind : (c :: cs).dropWhile (· != '<') = cs.dropWhile (· != '<') :=
    List.dropWhile_cons_of_pos (by simpa using hc)
  rw [hfront, hbehind, lexemes, if_neg hc]

/-- Outside of the root there are blanks only, and they change nothing. -/
theorem Outline.read_characters {content : Text} {start stop : Nat}
    (h : Outline.read ⟨[], none⟩ ⟨.characters content, start, stop⟩ = some o) :
    o = ⟨[], none⟩ ∧ ∀ c ∈ content, isAsciiBlank c = true := by
  simp only [Outline.read, List.isEmpty_nil, Bool.true_and] at h
  split at h
  · cases h
  · next hblank =>
    cases h
    exact ⟨rfl, by simpa using hblank⟩

/-- A text that has only blanks in front of its first bracket goes on with it behind them. -/
theorem dropWhile_isAsciiBlank {text : Text}
    (h : ∀ c ∈ text.takeWhile (· != '<'), isAsciiBlank c = true) :
    text.dropWhile isAsciiBlank = text.dropWhile (· != '<') := by
  have hbehind : (text.dropWhile (· != '<')).dropWhile isAsciiBlank = text.dropWhile (· != '<') := by
    cases hrest : text.dropWhile (· != '<') with
    | nil => rfl
    | cons c cs =>
      have hhead := List.head?_dropWhile_not (· != '<') text
      rw [hrest] at hhead
      obtain rfl : c = '<' := by simpa using hhead
      rfl
  calc text.dropWhile isAsciiBlank
      = (text.takeWhile (· != '<') ++ text.dropWhile (· != '<')).dropWhile isAsciiBlank := by
        rw [List.takeWhile_append_dropWhile]
    _ = text.dropWhile (· != '<') := by rw [List.dropWhile_append_of_pos h, hbehind]

/-- A text that is one element opens with a bracket: in front of it there are blanks only. -/
theorem opensWithBracket_of_parseFragment {text : Text} {root : Element}
    (h : parseFragment text = some root) : opensWithBracket text = true := by
  obtain ⟨tokens, htokens, ho⟩ := parseFragment_eq_some h
  rw [opensWithBracket, decide_eq_true_eq]
  cases hmark : withoutMark text with
  | nil =>
    rw [hmark, lexemes] at htokens
    cases htokens
    cases ho
  | cons c cs =>
    by_cases hc : c = '<'
    · subst hc
      rfl
    · rw [hmark, lexemes_of_ne hc] at htokens
      obtain ⟨later, hlater, rfl⟩ := Option.map_eq_some_iff.1 htokens
      rw [List.foldlM_cons] at ho
      obtain ⟨next, hnext, ho⟩ := Option.bind_eq_some_iff.1 ho
      obtain ⟨rfl, hblank⟩ := Outline.read_characters hnext
      rw [dropWhile_isAsciiBlank hblank]
      cases hrest : (c :: cs).dropWhile (· != '<') with
      | nil =>
        rw [hrest, lexemes] at hlater
        cases hlater
        cases ho
      | cons d ds =>
        have hhead := List.head?_dropWhile_not (· != '<') (c :: cs)
        rw [hrest] at hhead
        simpa using hhead

/-! ### Items -/

theorem slice_sublist (start stop position : Nat) (text : Text) :
    (slice start stop position text).Sublist text := by
  induction text generalizing position with
  | nil => exact .slnil
  | cons c cs ih =>
    rw [slice]
    split
    · exact (ih _).cons_cons c
    · exact (ih _).cons c

theorem orderedItems?_eq_some {value : Text} {items : List Text}
    (h : orderedItems? value = some items) :
    ∃ root, parseFragment value = some root ∧ root.name = "ol".toList ∧ items = root.items value := by
  obtain ⟨root, hroot, h⟩ := Option.bind_eq_some_iff.1 h
  split at h
  · next hname =>
    cases h
    exact ⟨root, hroot, hname, rfl⟩
  · cases h

theorem opensWithBracket_of_orderedItems? {value : Text} {items : List Text}
    (h : orderedItems? value = some items) : opensWithBracket value = true := by
  obtain ⟨root, hroot, -⟩ := orderedItems?_eq_some h
  exact opensWithBracket_of_parseFragment hroot

theorem mem_of_opensWithBracket {text : Text} (h : opensWithBracket text = true) : '<' ∈ text := by
  rw [opensWithBracket, decide_eq_true_eq] at h
  have hmem : '<' ∈ withoutMark text :=
    (List.dropWhile_sublist _).mem (List.mem_of_mem_head? (Option.mem_def.2 h))
  unfold withoutMark at hmem
  split at hmem
  · split at hmem
    · exact List.mem_cons_of_mem _ hmem
    · exact hmem
  · exact hmem

/-- No item of a list is the text of the list: the tag of the list is not in it. -/
theorem ne_of_mem_orderedItems? {value item : Text} {items : List Text}
    (h : orderedItems? value = some items) (hmem : item ∈ items) : item ≠ value := by
  have hbracket := mem_of_opensWithBracket (opensWithBracket_of_orderedItems? h)
  obtain ⟨root, hroot, -, rfl⟩ := orderedItems?_eq_some h
  obtain ⟨child, hchild, rfl⟩ := List.mem_map.1 hmem
  have hstart : 0 < child.inner.1 :=
    behind_of_parseFragment hroot child (List.mem_filter.1 hchild).1
  cases value with
  | nil => exact absurd hbracket List.not_mem_nil
  | cons c cs =>
    have hslice : (slice child.inner.1 child.inner.2 0 (c :: cs)).Sublist cs := by
      rw [slice, if_neg (by simp; omega)]
      exact slice_sublist ..
    intro heq
    have hlength := ((sublist_trim _).trans hslice).length_le
    rw [heq, List.length_cons] at hlength
    omega

end Testbook.Html
