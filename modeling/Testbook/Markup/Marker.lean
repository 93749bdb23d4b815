import Testbook.Markup.Line
import Testbook.Markup.Enumerator

/-!
The marks that open the items of a list: a bullet, a field name between colons, an enumerator.
A mark also tells which mark on a later line continues its list. Whatever the mark, the text
behind it is shorter than its line.
-/

namespace Testbook.Markup

open Testbook.Text

/-- The mark of a list item, with the text that follows it on its line. -/
inductive Marker where
  | bullet (sign : Char) (text : Text)
  | field (name : Text) (text : Text)
  | enumerator (mark : Enumerator)

/-- The text behind a mark. -/
def Marker.text : Marker → Text
  | .bullet _ text => text
  | .field _ text => text
  | .enumerator mark => mark.text

/-- The name of a field; other items have none. -/
def Marker.name : Marker → Text
  | .field name _ => name
  | _ => []

/-- The kind of list that a mark belongs to. -/
def Marker.kind : Marker → ListKind
  | .bullet .. => .bullet
  | .field .. => .field
  | .enumerator _ => .enumerated

/-- The bullet at the start of a line. -/
def bullet? : Text → Option (Char × Text)
  | [] => none
  | c :: cs => if c = '-' || c = '*' || c = '+' then (behindMark? cs).map (c, ·) else none

/-- Whether a text can name a field: it is not empty and no blank stands at its ends. -/
def isFieldName (name : Text) : Bool :=
  !name.isEmpty && !name.head?.any isBlank && !name.getLast?.any isBlank

/-- The field name at the start of a line, and the text behind it. -/
def field? : Text → Option (Text × Text)
  | ':' :: cs =>
    let name := cs.takeWhile (· != ':')
    match cs.dropWhile (· != ':') with
    | [] => none
    | _ :: behind => if isFieldName name then (behindMark? behind).map (name, ·) else none
  | _ => none

/-- Whether a line may follow the first item of an enumerated list, so that the item is not the
beginning of a paragraph: it is blank, indented, or the next item. -/
def mayFollow (mark : Enumerator) : List Line → Bool
  | [] => true
  | next :: _ => next.isInner || (mark.next? next.text).isSome

/-- The mark that opens a list on a line, given the lines below. -/
def Marker.first? (line : Text) (below : List Line) : Option Marker :=
  match field? line with
  | some (name, text) => some (.field name text)
  | none =>
    match bullet? line with
    | some (sign, text) => some (.bullet sign text)
    | none => ((Enumerator.first? line).filter (mayFollow · below)).map .enumerator

/-- The mark on a line that continues the list of a given mark: any field after a field, the
same sign after a bullet, the next ordinal after an enumerator. -/
def Marker.next? (m : Marker) (line : Text) : Option Marker :=
  match m with
  | .field .. => (field? line).map fun (name, text) => .field name text
  | .bullet sign _ =>
    ((bullet? line).filter (·.1 = sign)).map fun (sign, text) => .bullet sign text
  | .enumerator mark => (mark.next? line).map .enumerator

/-! ### Lines with a mark -/

theorem bullet?_eq_some {line text : Text} {sign : Char} : bullet? line = some (sign, text) ↔
    (sign = '-' ∨ sign = '*' ∨ sign = '+') ∧ ∃ behind,
      line = sign :: behind ∧ behindMark? behind = some text := by
  cases line with
  | nil => simp [bullet?]
  | cons c cs =>
    rw [bullet?]
    constructor
    · intro h
      split at h
      · next hsign =>
        obtain ⟨t, ht, he⟩ := Option.map_eq_some_iff.1 h
        cases he
        exact ⟨by simpa [or_assoc] using hsign, cs, rfl, ht⟩
      · cases h
    · rintro ⟨hsign, behind, hline, htext⟩
      obtain ⟨rfl, rfl⟩ := List.cons.inj hline
      rw [if_pos (by simpa [or_assoc] using hsign), htext, Option.map_some]

theorem field?_eq_some {line name text : Text} : field? line = some (name, text) ↔
    (':' ∉ name ∧ isFieldName name = true) ∧ ∃ behind,
      line = ':' :: (name ++ ':' :: behind) ∧ behindMark? behind = some text := by
  constructor
  · intro h
    unfold field? at h
    split at h
    · next cs =>
      have hcut := List.takeWhile_append_dropWhile (p := (· != ':')) (l := cs)
      have hhead := List.head?_dropWhile_not (· != ':') cs
      simp only at h
      split at h
      · cases h
      · next c behind hd =>
        rw [hd] at hcut hhead
        split at h
        · next hname =>
          obtain ⟨t, ht, he⟩ := Option.map_eq_some_iff.1 h
          cases he
          obtain rfl : c = ':' := by simpa using hhead
          have hcolon : ':' ∉ cs.takeWhile (· != ':') := fun hmem => by
            simpa using List.all_eq_true.1 List.all_takeWhile _ hmem
          exact ⟨⟨hcolon, hname⟩, behind, by rw [hcut], ht⟩
        · cases h
    · cases h
  · rintro ⟨⟨hcolon, hname⟩, behind, rfl, htext⟩
    have hfront : ∀ c ∈ name, (c != ':') = true := fun c hc =>
      bne_iff_ne.2 fun heq => hcolon (heq ▸ hc)
    have htake : (name ++ ':' :: behind).takeWhile (· != ':') = name := by
      rw [List.takeWhile_append_of_pos hfront, List.takeWhile_cons_of_neg (by decide),
        List.append_nil]
    have hdrop : (name ++ ':' :: behind).dropWhile (· != ':') = ':' :: behind := by
      rw [List.dropWhile_append_of_pos hfront, List.dropWhile_cons_of_neg (by decide)]
    simp only [field?, htake, hdrop, hname, htext, if_true, Option.map_some]

theorem suffix_bullet? {line text : Text} {sign : Char} (h : bullet? line = some (sign, text)) :
    text <:+ line ∧ text.length < line.length := by
  obtain ⟨-, behind, rfl, htext⟩ := bullet?_eq_some.1 h
  have hsuffix := suffix_behindMark? htext
  exact ⟨hsuffix.trans (List.suffix_cons _ _), Nat.lt_succ_of_le hsuffix.length_le⟩

theorem suffix_field? {line name text : Text} (h : field? line = some (name, text)) :
    text <:+ line ∧ text.length < line.length := by
  obtain ⟨-, behind, rfl, htext⟩ := field?_eq_some.1 h
  have hsuffix := suffix_behindMark? htext
  refine ⟨hsuffix.trans ?_, ?_⟩
  · exact ((List.suffix_cons _ _).trans (List.suffix_append _ _)).trans (List.suffix_cons _ _)
  · have hlength := hsuffix.length_le
    simp only [List.length_cons, List.length_append]
    omega

/-- A mark that stands in front of a line, whichever numbering counts it. -/
inductive Marker.IsOn (line : Text) : Marker → Prop where
  | field {name text : Text} (h : field? line = some (name, text)) : IsOn line (.field name text)
  | bullet {sign : Char} {text : Text} (h : bullet? line = some (sign, text)) :
      IsOn line (.bullet sign text)
  | enumerator {numbering : Text → Numbering} {e : Enumerator}
      (h : Enumerator.readIn? numbering line = some e) : IsOn line (.enumerator e)

theorem Marker.isOn_first? {m : Marker} {line : Text} {below : List Line}
    (h : Marker.first? line below = some m) : m.IsOn line := by
  unfold Marker.first? at h
  split at h
  · next hf => cases h; exact .field hf
  · split at h
    · next hb => cases h; exact .bullet hb
    · obtain ⟨e, he, rfl⟩ := Option.map_eq_some_iff.1 h
      exact .enumerator (Option.eq_some_of_filter_eq_some he)

theorem Marker.isOn_next? {m m' : Marker} {line : Text} (h : m.next? line = some m') :
    m'.IsOn line := by
  cases m with
  | field name text =>
    obtain ⟨⟨n, t⟩, hf, rfl⟩ := Option.map_eq_some_iff.1 h
    exact .field hf
  | bullet sign text =>
    obtain ⟨⟨n, t⟩, hb, rfl⟩ := Option.map_eq_some_iff.1 h
    exact .bullet (Option.eq_some_of_filter_eq_some hb)
  | enumerator mark =>
    obtain ⟨e, he, rfl⟩ := Option.map_eq_some_iff.1 h
    exact .enumerator (Option.eq_some_of_filter_eq_some he)

/-- The text behind a mark is the end of the line, without the mark. -/
theorem Marker.IsOn.suffix {m : Marker} {line : Text} (h : m.IsOn line) :
    m.text <:+ line ∧ m.text.length < line.length := by
  cases h with
  | field h => exact suffix_field? h
  | bullet h => exact suffix_bullet? h
  | enumerator h => exact Enumerator.suffix_readIn? h

end Testbook.Markup
