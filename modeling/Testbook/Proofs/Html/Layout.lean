import Testbook.Proofs.Html.Position
import Mathlib.Data.List.Forall2

/-!
What an element consists of, by the pieces of its text. The reader keeps a stack of open elements,
each with the byte where it begins and the elements within that are complete. At every point of a
text this stack tells how the pieces so far are nested, and each complete element has the bytes of
what stands between its tags (`Outline.HasRead`). One more token keeps this up (`HasRead.read`), so
an element that is read is laid out as its pieces are (`exists_layout`).
-/

namespace Testbook.Html

open Testbook.Text

/-- Whether a token is neither a tag nor an end tag. -/
def Token.isInert : Token → Bool
  | .characters _ | .verbatim | .passed => true
  | .opening _ | .closing _ | .empty _ => false

/-- Whether a token may stand outside of all elements: blanks may, and what is passed over. -/
def Token.isOutside : Token → Bool
  | .characters content => content.all isAsciiBlank
  | .passed => true
  | .opening _ | .closing _ | .empty _ | .verbatim => false

/-- Pieces in which tags match, with the elements outermost in them: the name of each and what
stands between its tags. -/
inductive IsMarkup : List (Text × Text) → List Piece → Prop
  | nil : IsMarkup [] []
  | inert {children : List (Text × Text)} {pieces : List Piece} {piece : Piece}
      (h : IsMarkup children pieces) (hinert : piece.token.isInert = true) :
    IsMarkup children (pieces ++ [piece])
  | empty {children : List (Text × Text)} {pieces : List Piece} {name text : Text}
      (h : IsMarkup children pieces) :
    IsMarkup (children ++ [(name, [])]) (pieces ++ [⟨.empty name, text⟩])
  | element {children inner : List (Text × Text)} {pieces content : List Piece} {name a b : Text}
      (h : IsMarkup children pieces) (hin : IsMarkup inner content) :
    IsMarkup (children ++ [(name, textOf content)])
      (pieces ++ ⟨.opening name, a⟩ :: (content ++ [⟨.closing name, b⟩]))

/-- The pieces of one element: its name, what stands between its tags and the elements directly
within. -/
inductive IsElement : Text → Text → List (Text × Text) → List Piece → Prop
  | empty {name text : Text} : IsElement name [] [] [⟨.empty name, text⟩]
  | tags {name a b : Text} {children : List (Text × Text)} {content : List Piece}
      (h : IsMarkup children content) :
    IsElement name (textOf content) children
      (⟨.opening name, a⟩ :: (content ++ [⟨.closing name, b⟩]))

theorem IsMarkup.add {children inner : List (Text × Text)} {pieces within : List Piece}
    {name content : Text} (h : IsMarkup children pieces) (he : IsElement name content inner within) :
    IsMarkup (children ++ [(name, content)]) (pieces ++ within) := by
  cases he with
  | empty => exact h.empty
  | tags hin => exact h.element hin

/-! ### Elements in a text -/

/-- An element that was read stands in the text with its name and with what is between its tags. -/
structure StandsIn (source : Text) (e : Element) (child : Text × Text) : Prop where
  name : e.name = child.1
  inner : ∃ front behind, source = front ++ child.2 ++ behind
    ∧ e.inner = (utf8Length front, utf8Length front + utf8Length child.2)

/-- Elements that are open, innermost first, and the pieces that they are open in. Each has read the
elements within so far. In front of the outermost there are the pieces of `base`. -/
inductive Nests (source : Text) (base : List Piece) : List OpenElement → List Piece → Prop
  | nil : Nests source base [] base
  | cons {stack : List OpenElement} {pieces content : List Piece} {e : OpenElement} {a : Text}
      {children : List (Text × Text)} (h : Nests source base stack pieces)
      (hstart : e.start = utf8Length (textOf (pieces ++ [⟨.opening e.name, a⟩])))
      (hmarkup : IsMarkup children content)
      (hchildren : List.Forall₂ (StandsIn source) e.children.reverse children) :
    Nests source base (e :: stack) (pieces ++ ⟨.opening e.name, a⟩ :: content)

/-- Pieces outside of all elements but perhaps one that is complete. -/
inductive IsBase (source : Text) : Option Element → List Piece → Prop
  | blank {pieces : List Piece} (h : ∀ piece ∈ pieces, piece.token.isOutside = true) :
    IsBase source none pieces
  | root {e : Element} {front within behind : List Piece} {content : Text}
      {children : List (Text × Text)}
      (h : ∀ piece ∈ front ++ behind, piece.token.isOutside = true)
      (helement : IsElement e.name content children within)
      (hchildren : List.Forall₂ (StandsIn source) e.children children) :
    IsBase source (some e) (front ++ within ++ behind)

/-- The outline of the pieces that were read. -/
def Outline.HasRead (source : Text) (o : Outline) (pieces : List Piece) : Prop :=
  ∃ base, IsBase source o.root base ∧ Nests source base o.stack pieces

variable {source : Text} {o o' : Outline} {pieces : List Piece}

theorem IsBase.concat {root : Option Element} {piece : Piece} (h : IsBase source root pieces)
    (hout : piece.token.isOutside = true) : IsBase source root (pieces ++ [piece]) := by
  cases h with
  | blank h =>
    refine .blank fun p hp => ?_
    rcases List.mem_append.1 hp with hp | hp
    · exact h p hp
    · exact List.mem_singleton.1 hp ▸ hout
  | @root e front within behind content children h helement hchildren =>
    rw [List.append_assoc]
    refine .root (fun p hp => ?_) helement hchildren
    rw [← List.append_assoc, List.mem_append] at hp
    rcases hp with hp | hp
    · exact h p hp
    · exact List.mem_singleton.1 hp ▸ hout

/-- A piece within the innermost element that is no tag. -/
theorem Nests.inert {base : List Piece} {e : OpenElement} {stack : List OpenElement} {piece : Piece}
    (h : Nests source base (e :: stack) pieces) (hinert : piece.token.isInert = true) :
    Nests source base (e :: stack) (pieces ++ [piece]) := by
  cases h with
  | cons h hstart hmarkup hchildren =>
    rw [List.append_assoc, List.cons_append]
    exact h.cons hstart (hmarkup.inert hinert) hchildren

/-! ### One more token -/

/-- An element that is complete counts as one of those within the element that it stands in. -/
theorem Outline.HasRead.add {e : Element} {content : Text} {children : List (Text × Text)}
    {within : List Piece} (h : o.HasRead source pieces)
    (helement : IsElement e.name content children within)
    (hstands : StandsIn source e (e.name, content))
    (hchildren : List.Forall₂ (StandsIn source) e.children children) (hadd : o.add e = some o') :
    o'.HasRead source (pieces ++ within) := by
  obtain ⟨stack, root⟩ := o
  obtain ⟨base, hbase, hnests⟩ := h
  cases stack with
  | nil =>
    cases root with
    | none =>
      cases hadd
      cases hnests
      cases hbase with
      | blank hblank =>
        have hroot : IsBase source (some e) (pieces ++ within ++ []) :=
          .root (by rwa [List.append_nil]) helement hchildren
        rw [List.append_nil] at hroot
        exact ⟨_, hroot, .nil⟩
    | some root => cases hadd
  | cons parent stack =>
    cases hadd
    cases hnests with
    | cons hnests hstart hmarkup hsiblings =>
      refine ⟨base, hbase, ?_⟩
      rw [List.append_assoc, List.cons_append]
      refine hnests.cons (e := { parent with children := e :: parent.children }) hstart
        (hmarkup.add helement) ?_
      rw [List.reverse_cons]
      exact List.rel_append hsiblings (.cons hstands .nil)

/-- A piece that is no tag may stand within an element, and outside of all some may. -/
theorem Outline.HasRead.inert {piece : Piece} (h : o.HasRead source pieces)
    (hinert : piece.token.isInert = true) (hout : o.stack = [] → piece.token.isOutside = true) :
    o.HasRead source (pieces ++ [piece]) := by
  obtain ⟨stack, root⟩ := o
  obtain ⟨base, hbase, hnests⟩ := h
  cases stack with
  | nil =>
    cases hnests
    exact ⟨_, hbase.concat (hout rfl), .nil⟩
  | cons e stack => exact ⟨base, hbase, hnests.inert hinert⟩

/-- An element whose tags are read stands between them. -/
theorem standsIn_tags {name a b rest : Text} {content : List Piece} {kids : List Element}
    (hsource : source = textOf (pieces ++ ⟨.opening name, a⟩ :: (content ++ [⟨.closing name, b⟩]))
      ++ rest) :
    StandsIn source (.mk name (utf8Length (textOf (pieces ++ [⟨.opening name, a⟩])))
      (utf8Length (textOf (pieces ++ ⟨.opening name, a⟩ :: content))) kids)
      (name, textOf content) where
  name := rfl
  inner := by
    refine ⟨textOf (pieces ++ [⟨.opening name, a⟩]), b ++ rest, ?_, ?_⟩
    · rw [hsource]
      simp
    · simp [Element.inner, Nat.add_assoc]

/-- An empty element stands behind its tag. -/
theorem standsIn_empty {name text rest : Text} {kids : List Element}
    (hsource : source = textOf (pieces ++ [⟨.empty name, text⟩]) ++ rest) :
    StandsIn source (.mk name (utf8Length (textOf (pieces ++ [⟨.empty name, text⟩])))
      (utf8Length (textOf (pieces ++ [⟨.empty name, text⟩]))) kids) (name, []) where
  name := rfl
  inner := ⟨textOf (pieces ++ [⟨.empty name, text⟩]), rest, by rw [List.append_nil, hsource], rfl⟩

/-- The end tag of the innermost element completes it. -/
theorem Outline.HasRead.closing {name text rest : Text} {stop : Nat} (h : o.HasRead source pieces)
    (hsource : source = textOf (pieces ++ [⟨.closing name, text⟩]) ++ rest)
    (hread : o.read ⟨.closing name, utf8Length (textOf pieces), stop⟩ = some o') :
    o'.HasRead source (pieces ++ [⟨.closing name, text⟩]) := by
  obtain ⟨stack, root⟩ := o
  obtain ⟨base, hbase, hnests⟩ := h
  cases stack with
  | nil => cases hread
  | cons e stack =>
    cases hnests with
    | @cons _ outer content _ a children hnests hstart hmarkup hchildren =>
      simp only [Outline.read] at hread
      split at hread
      · next hname =>
        subst hname
        have houter : Outline.HasRead source ⟨stack, root⟩ outer := ⟨base, hbase, hnests⟩
        rw [List.append_assoc, List.cons_append] at hsource ⊢
        rw [hstart] at hread
        exact houter.add (.tags hmarkup) (standsIn_tags hsource) hchildren hread
      · cases hread

/-- The outline is kept up by one more token. -/
theorem Outline.HasRead.read {piece : Piece} {rest : Text} (h : o.HasRead source pieces)
    (hsource : source = textOf (pieces ++ [piece]) ++ rest)
    (hread : o.read ⟨piece.token, utf8Length (textOf pieces),
      utf8Length (textOf pieces) + utf8Length piece.text⟩ = some o') :
    o'.HasRead source (pieces ++ [piece]) := by
  obtain ⟨token, text⟩ := piece
  have hstop : utf8Length (textOf pieces) + utf8Length text
      = utf8Length (textOf (pieces ++ [⟨token, text⟩])) := by simp
  simp only [hstop] at hread
  cases token with
  | opening name =>
    obtain ⟨base, hbase, hnests⟩ := h
    cases hread
    exact ⟨base, hbase, hnests.cons rfl .nil .nil⟩
  | empty name =>
    simp only [Outline.read] at hread
    exact h.add .empty (standsIn_empty hsource) .nil hread
  | closing name => exact h.closing hsource hread
  | characters content =>
    simp only [Outline.read] at hread
    split at hread
    · cases hread
    · next hblank =>
      cases hread
      refine h.inert rfl fun hstack => ?_
      rw [hstack] at hblank
      simpa [Token.isOutside] using hblank
  | verbatim =>
    simp only [Outline.read] at hread
    split at hread
    · cases hread
    · next hstack =>
      cases hread
      exact h.inert rfl fun hnil => absurd (List.isEmpty_iff.2 hnil) hstack
  | passed =>
    cases hread
    exact h.inert rfl fun _ => rfl

/-- The outline is kept up by all tokens that follow. -/
theorem Outline.HasRead.foldlM {later : List Piece} {rest : Text} (h : o.HasRead source pieces)
    (hsource : source = textOf (pieces ++ later) ++ rest)
    (hread : (placed (utf8Length (textOf pieces)) later).foldlM Outline.read o = some o') :
    o'.HasRead source (pieces ++ later) := by
  induction later generalizing o pieces with
  | nil =>
    cases hread
    rwa [List.append_nil]
  | cons piece later ih =>
    have hone : pieces ++ piece :: later = (pieces ++ [piece]) ++ later := by simp
    have hstop : utf8Length (textOf pieces) + utf8Length piece.text
        = utf8Length (textOf (pieces ++ [piece])) := by simp
    rw [placed, List.foldlM_cons] at hread
    obtain ⟨next, hnext, hread⟩ := Option.bind_eq_some_iff.1 hread
    simp only [hstop] at hread
    rw [hone] at hsource ⊢
    have hbehind : source = textOf (pieces ++ [piece]) ++ (textOf later ++ rest) := by
      rw [hsource, textOf_append, List.append_assoc]
    exact ih (h.read hbehind hnext) hsource hread

/-! ### The whole text -/

/-- How a text without a byte order mark is one element: pieces that it is cut into by its tokens,
those of the element among them, and what is directly within the element. -/
structure Layout (value : Text) where
  name : Text
  content : Text
  children : List (Text × Text)
  front : List Piece
  within : List Piece
  behind : List Piece
  lexemes_eq : lexemes 0 value = some (placed 0 (front ++ within ++ behind))
  cut : IsCutInto value (front ++ within ++ behind)
  outside : ∀ piece ∈ front ++ behind, piece.token.isOutside = true
  element : IsElement name content children within

theorem withoutMark_of_head? {value : Text} (h : value.head? ≠ some byteOrderMark) :
    withoutMark value = value := by
  cases value with
  | nil => rfl
  | cons c cs =>
    have hc : c ≠ byteOrderMark := fun heq => h (congrArg some heq)
    rw [withoutMark, if_neg hc]

/-- An element that is read is laid out as the pieces of the text are. -/
theorem exists_layout {value : Text} (hv : value.head? ≠ some byteOrderMark) {root : Element}
    (h : parseFragment value = some root) : ∃ layout : Layout value, layout.name = root.name
      ∧ List.Forall₂ (StandsIn value) root.children layout.children := by
  obtain ⟨tokens, htokens, hread⟩ := parseFragment_eq_some h
  rw [withoutMark_of_head? hv] at htokens
  obtain ⟨pieces, hcut, rfl⟩ := exists_pieces htokens
  obtain ⟨loose, hwhole⟩ := hcut.exists_loose
  have hstart : Outline.HasRead value ⟨[], none⟩ [] := ⟨[], .blank (by simp), .nil⟩
  obtain ⟨base, hbase, hnests⟩ : Outline.HasRead value ⟨[], some root⟩ pieces :=
    hstart.foldlM hwhole hread
  cases hnests
  cases hbase with
  | root hout helement hchildren =>
    exact ⟨⟨_, _, _, _, _, _, htokens, hcut, hout, helement⟩, rfl, hchildren⟩

end Testbook.Html
