import Testbook.Markup.Inline
import Mathlib.Data.List.Chain

/-!
Inline markup as it is read. Nothing of a text is lost: its pieces, written with their marks, make it up
again (`flatMap_written_readInline`). A mark that closes stands behind a character that is not blank,
and one that opens stands in front of such a character unless it ends the name of a role, so what stands
between marks is neither empty nor padded (`IsSound`). Plain text goes on up to the next mark, in one
piece (`isChain_readInline`).
-/

namespace Testbook.Markup

open Testbook.Text

variable {before last : Option Char} {mark text rest : Text} {piece : Inline} {pieces : List Inline}

/-- Whether a piece is plain text. -/
def Inline.isText : Inline → Bool
  | .text _ => true
  | _ => false

/-- That a piece says something, and has no blanks inside its marks. In front of what has a role there
may be some. -/
structure Inline.IsSound (piece : Inline) : Prop where
  content_ne_nil : piece.content ≠ []
  head : piece.isText = false → piece.role? = none → piece.content.head?.any (!isBlank ·) = true
  last : piece.isText = false → piece.content.getLast?.any (!isBlank ·) = true

/-- That two pieces may stand side by side: they are not both plain text. -/
def Inline.MayAdjoin (piece next : Inline) : Prop := ¬ (piece.isText = true ∧ next.isText = true)

/-! ### Marked pieces -/

/-- The character in front of a closing mark is not blank. -/
theorem getLast?_untilMark {content after : Text} (h : untilMark mark last rest = some (content, after)) :
    (last.toList ++ content).getLast?.any (!isBlank ·) = true := by
  fun_induction untilMark mark last rest generalizing content with
  | case1 last rest behind hbehind =>
    cases h
    obtain ⟨-, hcloses⟩ := Option.filter_eq_some_iff.1 hbehind
    obtain ⟨hlast, -⟩ := Bool.and_eq_true_iff.1 hcloses
    cases last with
    | none => cases hlast
    | some c => exact hlast
  | case2 => cases h
  | case3 last c cs _ ih =>
    obtain ⟨⟨content', after'⟩, hcontent, heq⟩ := Option.map_eq_some_iff.1 h
    cases heq
    have hend : (last.toList ++ c :: content').getLast? = (c :: content').getLast? := by
      rw [List.getLast?_append, List.getLast?_cons, Option.some_or]
    rw [hend]
    exact ih hcontent

theorem isText_inlineAt (h : inlineAt before text = some (piece, rest)) : piece.isText = false := by
  obtain ⟨inner, -, hmark, -⟩ := exists_inlineAt h
  cases piece with
  | text content => exact absurd rfl hmark
  | _ => rfl

theorem isSound_inlineAt (h : inlineAt before text = some (piece, rest)) : piece.IsSound := by
  obtain ⟨inner, -, -, hclose, hopen⟩ := exists_inlineAt h
  have hlast : piece.content.getLast?.any (!isBlank ·) = true := getLast?_untilMark hclose
  have hne : piece.content ≠ [] := by
    intro hnil
    rw [hnil] at hlast
    cases hlast
  refine ⟨hne, fun _ hrole => ?_, fun _ => hlast⟩
  obtain ⟨c, cs, hcontent⟩ := List.exists_cons_of_ne_nil hne
  rw [hrole] at hopen
  rw [untilMark_eq_some hclose, hcontent] at hopen
  rw [hcontent]
  exact hopen

/-! ### Plain text -/

theorem flatMap_written_consChar (c : Char) (pieces : List Inline) :
    (consChar c pieces).flatMap Inline.written = c :: pieces.flatMap Inline.written := by
  unfold consChar
  split
  · simp [Inline.written, Inline.marks, Inline.content]
  · simp [Inline.written, Inline.marks, Inline.content]

theorem isSound_consChar (c : Char) (h : ∀ piece ∈ pieces, piece.IsSound) :
    ∀ piece ∈ consChar c pieces, piece.IsSound := by
  have htext (s : Text) : (Inline.text (c :: s)).IsSound := ⟨List.cons_ne_nil _ _, nofun, nofun⟩
  unfold consChar
  split
  · exact List.forall_mem_cons.2 ⟨htext _, (List.forall_mem_cons.1 h).2⟩
  · exact List.forall_mem_cons.2 ⟨htext _, h⟩

theorem isChain_consChar (c : Char) (h : pieces.IsChain Inline.MayAdjoin) :
    (consChar c pieces).IsChain Inline.MayAdjoin := by
  unfold consChar
  split
  · next s pieces =>
    rw [List.isChain_cons] at h ⊢
    exact h
  · next hhead =>
    rw [List.isChain_cons]
    refine ⟨fun next hnext hboth => ?_, h⟩
    cases next with
    | text s =>
      obtain ⟨rest, hrest⟩ := List.head?_eq_some_iff.1 hnext
      exact hhead s rest hrest
    | _ => cases hboth.2

/-! ### Whole texts -/

/-- The pieces of a text, written with their marks, are the text. -/
theorem flatMap_written_readInline (before : Option Char) (text : Text) :
    (readInline before text).flatMap Inline.written = text := by
  fun_induction readInline before text with
  | case1 => rfl
  | case2 before c cs piece rest h ih => rw [List.flatMap_cons, ih, ← (inlineAt_eq_some h).1]
  | case3 before c cs h ih => rw [flatMap_written_consChar, ih]

theorem isSound_readInline (before : Option Char) (text : Text) :
    ∀ piece ∈ readInline before text, piece.IsSound := by
  fun_induction readInline before text with
  | case1 => exact List.forall_mem_nil _
  | case2 before c cs piece rest h ih => exact List.forall_mem_cons.2 ⟨isSound_inlineAt h, ih⟩
  | case3 before c cs h ih => exact isSound_consChar c ih

theorem isChain_readInline (before : Option Char) (text : Text) :
    (readInline before text).IsChain Inline.MayAdjoin := by
  fun_induction readInline before text with
  | case1 => exact .nil
  | case2 before c cs piece rest h ih =>
    refine List.isChain_cons.2 ⟨fun next _ hboth => ?_, ih⟩
    rw [isText_inlineAt h] at hboth
    cases hboth.1
  | case3 before c cs h ih => exact isChain_consChar c ih

/-- The pieces of a text make it up again when they are written with their marks. Each says something,
has no blanks inside its marks unless it has a role, and plain text is in one piece from mark to mark. -/
theorem parseInline_lossless (text : Text) :
    (parseInline text).flatMap Inline.written = text
      ∧ (∀ piece ∈ parseInline text, piece.IsSound)
      ∧ (parseInline text).IsChain Inline.MayAdjoin :=
  ⟨flatMap_written_readInline none text, isSound_readInline none text, isChain_readInline none text⟩

/-- A mark that closes nothing is plain text, and a role may have a blank in front. -/
example : parseInline "a **b* :r:\x60 c\x60 *d*"
    = [.text "a **b* ", .role (some "r") " c", .text " ", .emphasis "d"] := by decide +kernel

end Testbook.Markup
