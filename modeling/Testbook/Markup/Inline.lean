import Testbook.Text.Blank
import Testbook.Text.Alphabet

/-!
Inline markup of paragraph text: literals between double backquotes, strong text between double
asterisks, emphasis between single ones, interpreted text between backquotes with or without a
role in front. A mark opens only at the start of a word and closes only at the end of one; a mark
that does not open or does not close is plain text.
-/

namespace Testbook.Markup

open Testbook.Text

/-- A piece of paragraph text. Interpreted text has a role if one was written. -/
inductive Inline where
  | text (content : Text)
  | literal (content : Text)
  | strong (content : Text)
  | emphasis (content : Text)
  | role (name : Option Text) (content : Text)
  deriving DecidableEq, Repr

namespace Inline

/-- What a piece says, without its markup. -/
def content : Inline → Text
  | .text s => s
  | .literal s => s
  | .strong s => s
  | .emphasis s => s
  | .role _ s => s

/-- The backquote, which marks literals and interpreted text. -/
def backquote : Char := '\x60'

/-- The name of the role of a piece, if one is written. -/
def role? : Inline → Option Text
  | .role name _ => name
  | _ => none

/-- The marks around a piece: what opens it and what closes it. -/
def marks : Inline → Text × Text
  | .text _ => ([], [])
  | .literal _ => ([backquote, backquote], [backquote, backquote])
  | .strong _ => (['*', '*'], ['*', '*'])
  | .emphasis _ => (['*'], ['*'])
  | .role none _ => ([backquote], [backquote])
  | .role (some name) _ => (':' :: name ++ [':', backquote], [backquote])

/-- A piece as it is written. -/
def written (piece : Inline) : Text := piece.marks.1 ++ piece.content ++ piece.marks.2

end Inline

/-- Whether a mark may open behind the character `before`: at the start of the text, behind a
blank or behind opening punctuation. -/
def opensBehind (before : Option Char) : Bool :=
  before.all fun c => isBlank c || c ∈ "'\"([\x7b<-/:".toList

/-- Whether a mark may open in front of `rest`: something other than a blank follows. -/
def opensBefore (rest : Text) : Bool := rest.head?.any (!isBlank ·)

/-- Whether a mark may close in front of `rest`: at the end of the text, in front of a blank or of
punctuation. -/
def closesBefore (rest : Text) : Bool := rest.head?.all fun c => isBlank c || isAsciiPunctuation c

/-- The text up to the closing mark, and the text behind the mark. `last` is the character read
last, if any: the mark closes only behind a character that is not blank. -/
def untilMark (mark : Text) (last : Option Char) (rest : Text) : Option (Text × Text) :=
  match (dropStart? mark rest).filter fun after => last.any (!isBlank ·) && closesBefore after with
  | some after => some ([], after)
  | none =>
    match rest with
    | [] => none
    | c :: cs => (untilMark mark (some c) cs).map fun (content, after) => (c :: content, after)
termination_by rest.length

/-- Whether a character may stand in the name of a role. -/
def isRoleChar (c : Char) : Bool := isAlphanumeric c || c = '_' || c = '-' || c = '.' || c = ':'

/-- The name of a role, and the text behind the colon and backquote that end it. -/
def roleName? : Text → Option (Text × Text)
  | [] => none
  | c :: cs =>
    if c = ':' && cs.head? = some Inline.backquote then some ([], cs.drop 1)
    else if isRoleChar c then (roleName? cs).map fun (name, rest) => (c :: name, rest)
    else none

/-- Whether a role may begin behind the character `before`. -/
def roleBehind (before : Option Char) : Bool := before.all fun c => isBlank c || c = '('

/-- The marked piece at the front of a text, with the text behind it. -/
def inlineAt (before : Option Char) (text : Text) : Option (Inline × Text) :=
  let opened (mark : Text) : Option Text :=
    (dropStart? mark text).filter fun rest => opensBehind before && opensBefore rest
  let piece (make : Text → Inline) (mark rest : Text) : Option (Inline × Text) :=
    (untilMark mark none rest).map fun (content, after) => (make content, after)
  let quote := Inline.backquote
  match opened [quote, quote] with
  | some rest => piece .literal [quote, quote] rest
  | none =>
  match opened ['*', '*'] with
  | some rest => piece .strong ['*', '*'] rest
  | none =>
  match opened ['*'] with
  | some rest => piece .emphasis ['*'] rest
  | none =>
  match (dropStart? [':'] text).filter fun _ => roleBehind before with
  | some rest => do
    let (name, inner) ← roleName? rest
    piece (.role (some name)) [quote] inner
  | none =>
  match opened [quote] with
  | some rest => piece (.role none) [quote] rest
  | none => none

/-! ### A marked piece is written at the front of the text -/

theorem dropStart?_filter_eq_some {start text rest : Text} {p : Text → Bool}
    (h : (dropStart? start text).filter p = some rest) : text = start ++ rest :=
  dropStart?_eq_some (Option.eq_some_of_filter_eq_some h)

theorem untilMark_eq_some {mark : Text} {last : Option Char} {rest content after : Text}
    (h : untilMark mark last rest = some (content, after)) : rest = content ++ mark ++ after := by
  fun_induction untilMark mark last rest generalizing content with
  | case1 last rest a ha =>
    cases h
    exact dropStart?_filter_eq_some ha
  | case2 => simp at h
  | case3 last hd c cs ih =>
    obtain ⟨⟨s, a⟩, hs, he⟩ := Option.map_eq_some_iff.1 h
    cases he
    rw [ih hs]
    simp

theorem roleName?_eq_some {text name rest : Text} (h : roleName? text = some (name, rest)) :
    text = name ++ [':', Inline.backquote] ++ rest := by
  fun_induction roleName? text generalizing name with
  | case1 => simp at h
  | case2 c cs hc =>
    cases h
    cases cs with
    | nil => simp at hc
    | cons d ds => simp_all
  | case3 c cs hc hr ih =>
    obtain ⟨⟨n, r⟩, hn, he⟩ := Option.map_eq_some_iff.1 h
    cases he
    rw [ih hn]
    simp
  | case4 => simp at h

/-- How a marked piece is found at the front of a text: its opening mark stands there, and behind that
its closing mark is looked for. Only behind the name of a role a blank may follow. -/
theorem exists_inlineAt {before : Option Char} {text rest : Text} {piece : Inline}
    (h : inlineAt before text = some (piece, rest)) :
    ∃ inner, text = piece.marks.1 ++ inner ∧ piece.marks.1 ≠ []
      ∧ untilMark piece.marks.2 none inner = some (piece.content, rest)
      ∧ match piece.role? with
        | some name => roleName? (text.drop 1) = some (name, inner)
        | none => opensBefore inner = true := by
  have close {make : Text → Inline} {mark inner : Text}
      (hm : (untilMark mark none inner).map (fun (content, after) => (make content, after))
        = some (piece, rest)) : ∃ s, piece = make s ∧ untilMark mark none inner = some (s, rest) := by
    obtain ⟨⟨s, a⟩, hs, he⟩ := Option.map_eq_some_iff.1 hm
    cases he
    exact ⟨s, rfl, hs⟩
  have opened {mark inner : Text} (ho : (dropStart? mark text).filter (fun rest =>
      opensBehind before && opensBefore rest) = some inner) :
      text = mark ++ inner ∧ opensBefore inner = true := by
    obtain ⟨hstart, hopens⟩ := Option.filter_eq_some_iff.1 ho
    exact ⟨dropStart?_eq_some hstart, (Bool.and_eq_true_iff.1 hopens).2⟩
  unfold inlineAt at h
  simp only at h
  split at h
  · next inner ho =>
    obtain ⟨s, rfl, hs⟩ := close h
    exact ⟨inner, (opened ho).1, by simp [Inline.marks], hs, (opened ho).2⟩
  split at h
  · next inner ho =>
    obtain ⟨s, rfl, hs⟩ := close h
    exact ⟨inner, (opened ho).1, by simp [Inline.marks], hs, (opened ho).2⟩
  split at h
  · next inner ho =>
    obtain ⟨s, rfl, hs⟩ := close h
    exact ⟨inner, (opened ho).1, by simp [Inline.marks], hs, (opened ho).2⟩
  split at h
  · next inner ho =>
    cases hr : roleName? inner with
    | none => simp [hr] at h
    | some nr =>
      obtain ⟨name, behind⟩ := nr
      simp only [hr, Option.bind_eq_bind, Option.bind_some] at h
      obtain ⟨s, rfl, hs⟩ := close h
      have htext := dropStart?_filter_eq_some ho
      refine ⟨behind, ?_, by simp [Inline.marks], hs, ?_⟩
      · rw [htext, roleName?_eq_some hr]
        simp [Inline.marks]
      · rw [htext]
        exact hr
  split at h
  · next inner ho =>
    obtain ⟨s, rfl, hs⟩ := close h
    exact ⟨inner, (opened ho).1, by simp [Inline.marks], hs, (opened ho).2⟩
  · simp at h

/-- A marked piece, written out, and the text behind it are the whole text. -/
theorem inlineAt_eq_some {before : Option Char} {text rest : Text} {piece : Inline}
    (h : inlineAt before text = some (piece, rest)) :
    text = piece.written ++ rest ∧ 0 < piece.written.length := by
  obtain ⟨inner, rfl, hmark, hclose, -⟩ := exists_inlineAt h
  have hlength := List.length_pos_iff.2 hmark
  rw [untilMark_eq_some hclose, Inline.written, List.length_append, List.length_append]
  exact ⟨by simp, by omega⟩

theorem length_inlineAt_lt {before : Option Char} {text rest : Text} {piece : Inline}
    (h : inlineAt before text = some (piece, rest)) : rest.length < text.length := by
  have := inlineAt_eq_some h
  rw [this.1, List.length_append]
  omega

/-! ### Whole texts -/

/-- The pieces with a plain character in front. -/
def consChar (c : Char) : List Inline → List Inline
  | .text s :: pieces => .text (c :: s) :: pieces
  | pieces => .text [c] :: pieces

/-- The pieces of a text that stands behind the character `before`. -/
def readInline (before : Option Char) (text : Text) : List Inline :=
  match text with
  | [] => []
  | c :: cs =>
    match _h : inlineAt before (c :: cs) with
    | some (piece, rest) => piece :: readInline piece.written.getLast? rest
    | none => consChar c (readInline (some c) cs)
termination_by text.length
decreasing_by
  · exact length_inlineAt_lt _h
  · exact Nat.lt_succ_self _

/-- The pieces of a paragraph text. -/
def parseInline (text : Text) : List Inline := readInline none text

/-- What a paragraph text says, without inline markup. -/
def textContent (text : Text) : Text := (parseInline text).flatMap Inline.content

end Testbook.Markup
