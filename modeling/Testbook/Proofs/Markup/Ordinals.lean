import Testbook.Proofs.Markup.Step
import Testbook.Proofs.Text.Words

/-!
Ordinals of enumerated lists. What a numeral stands for lies within the bounds of its numbering
(`Numbering.has_value?`): letters end with the alphabet, other numbers with 32 bits. From one item of
a list to the next the ordinal goes up by one, so all of them lie within these bounds
(`counts_readList`), unless the list is counted without ordinals.
-/

namespace Testbook.Markup

open Testbook.Text

/-- The least ordinal of a numbering. -/
def Numbering.least : Numbering → Nat
  | .arabic => 0
  | _ => 1

/-- The greatest ordinal of a numbering. -/
def Numbering.greatest : Numbering → Nat
  | .lowerAlpha | .upperAlpha => 26
  | _ => maxOrdinal

/-- Whether an ordinal belongs to a numbering. -/
def Numbering.Has (numbering : Numbering) (n : Nat) : Prop :=
  numbering.least ≤ n ∧ n ≤ numbering.greatest

/-- Whether a list of `count` items can start with the ordinal `start`: its ordinals are those of
the numbering, or it has none and is counted from one. -/
def Numbering.Counts (numbering : Numbering) (start count : Nat) : Prop :=
  numbering = .arabic ∧ start = 1
    ∨ numbering.least ≤ start ∧ start + count - 1 ≤ numbering.greatest

/-! ### Values of numerals -/

theorem letterValue?_le {inCase : Char → Bool} {raw : Text} {n : Nat}
    (hcase : ∀ c, inCase c = true → c.isAlpha = true) (h : letterValue? inCase raw = some n) :
    1 ≤ n ∧ n ≤ 26 := by
  have hletters : ∀ k < 0x80, (Char.ofNat k).isAlpha = true →
      (Char.ofNat k).toLower.toNat - 'a'.toNat + 1 ≤ 26 := by
    decide
  unfold letterValue? at h
  split at h
  · next c =>
    split at h
    · next hc =>
      cases h
      have hletter := hletters c.toNat (toNat_lt_of_isAlpha (hcase c hc))
      rw [Char.ofNat_toNat] at hletter
      exact ⟨Nat.le_add_left 1 _, hletter (hcase c hc)⟩
    · cases h
  · cases h

theorem romanValue?_le {raw : Text} {n : Nat} (h : romanValue? raw = some n) :
    1 ≤ n ∧ n ≤ maxOrdinal := by
  unfold romanValue? at h
  split at h
  · cases h
  · dsimp only at h
    split at h
    · next hsum =>
      simp only [Bool.and_eq_true, decide_eq_true_eq] at hsum
      cases h
      omega
    · cases h

theorem arabicValue?_le {raw : Text} {n : Nat} (h : arabicValue? raw = some n) :
    n ≤ maxOrdinal := by
  unfold arabicValue? at h
  split at h
  · cases h
  · dsimp only at h
    split at h
    · next hle => cases h; exact hle
    · cases h

theorem Numbering.has_value? {numbering : Numbering} {raw : Text} {n : Nat}
    (h : numbering.value? raw = some n) : numbering.Has n := by
  have hlower (c : Char) (hc : c.isLower = true) : c.isAlpha = true :=
    Bool.or_eq_true_iff.2 (.inr hc)
  have hupper (c : Char) (hc : c.isUpper = true) : c.isAlpha = true :=
    Bool.or_eq_true_iff.2 (.inl hc)
  have hroman {inCase : Char → Bool} (h : (if raw.all inCase then romanValue? raw else none) = some n) :
      1 ≤ n ∧ n ≤ maxOrdinal := by
    split at h
    · exact romanValue?_le h
    · cases h
  cases numbering with
  | arabic => exact ⟨Nat.zero_le n, arabicValue?_le h⟩
  | lowerAlpha => exact letterValue?_le hlower h
  | upperAlpha => exact letterValue?_le hupper h
  | lowerRoman => exact hroman h
  | upperRoman => exact hroman h

/-! ### Ordinals of items -/

theorem Enumerator.has_readIn? {numbering : Text → Numbering} {text : Text} {e : Enumerator}
    (h : Enumerator.readIn? numbering text = some e) : ∀ n ∈ e.ordinal, e.numbering.Has n := by
  obtain ⟨raw, ordinal, -, hordinal, rfl⟩ := Enumerator.readIn?_eq_some.1 h
  rcases Numbering.ordinal?_eq_some.1 hordinal with ⟨-, rfl⟩ | ⟨value, hvalue, rfl⟩
  · rintro n ⟨⟩
  · rintro n ⟨⟩
    exact Numbering.has_value? hvalue

/-- A list that starts without an ordinal counts in digits. -/
theorem Enumerator.numbering_first? {text : Text} {e : Enumerator}
    (h : Enumerator.first? text = some e) (hnone : e.ordinal = none) : e.numbering = .arabic := by
  obtain ⟨raw, ordinal, -, hordinal, rfl⟩ := Enumerator.readIn?_eq_some.1 h
  rcases Numbering.ordinal?_eq_some.1 hordinal with ⟨hsign, -⟩ | ⟨value, -, rfl⟩
  · simp [Numbering.suggested, hsign]
  · cases hnone

theorem Enumerator.first?_of_marker {e : Enumerator} {text : Text} {below : List Line}
    (h : Marker.first? text below = some (.enumerator e)) : Enumerator.first? text = some e := by
  rw [Marker.first?] at h
  split at h
  · cases h
  · split at h
    · cases h
    · obtain ⟨e', he', heq⟩ := Option.map_eq_some_iff.1 h
      cases heq
      exact Option.eq_some_of_filter_eq_some he'

theorem Enumerator.next?_counts {e e' : Enumerator} {text : Text} (h : e.next? text = some e') :
    e'.numbering = e.numbering ∧ ∀ n ∈ e.ordinal, e'.ordinal = some (n + 1) := by
  obtain ⟨hread, hprecedes⟩ := Option.filter_eq_some_iff.1 h
  obtain ⟨raw, ordinal, -, -, rfl⟩ := Enumerator.readIn?_eq_some.1 hread
  refine ⟨rfl, fun n hn => ?_⟩
  obtain ⟨-, -, hordinal⟩ := Enumerator.precedes_iff.1 hprecedes
  rcases hordinal with ⟨hnone, -⟩ | ⟨p, hp, -, hnext⟩
  · cases hn.symm.trans hnone
  · cases hn.symm.trans hp
    exact hnext

/-- The ordinals of a list run up from the first and stay in its numbering. -/
theorem length_readList_le (m : Marker) (line : Line) (below : List Line) :
    ∀ e n, m = .enumerator e → e.ordinal = some n → e.numbering.Has n →
      n + (readList m line below).items.length ≤ e.numbering.greatest + 1 := by
  fun_induction readList m line below with
  | case1 => exact fun _ _ _ _ hn => Nat.succ_le_succ hn.2
  | case2 m line below inner item next rest hd m' hnext run ih =>
    rintro e n rfl hordinal hn
    obtain ⟨e', he', rfl⟩ := Option.map_eq_some_iff.1 hnext
    obtain ⟨hnumbering, hsucc⟩ := Enumerator.next?_counts he'
    have hn' := Enumerator.has_readIn? (Option.eq_some_of_filter_eq_some he') _ (hsucc n hordinal)
    have hrest : n + 1 + run.items.length ≤ e'.numbering.greatest + 1 :=
      ih e' (n + 1) rfl (hsucc n hordinal) hn'
    rw [hnumbering] at hrest
    rw [List.length_cons]
    omega
  | case3 => exact fun _ _ _ _ hn => Nat.succ_le_succ hn.2

/-- What the items of a list that starts with an enumerator are counted by. -/
theorem counts_readList {e : Enumerator} {text : Text} (h : Enumerator.first? text = some e)
    (line : Line) (below : List Line) :
    e.numbering.Counts (e.ordinal.getD 1) (readList (.enumerator e) line below).items.length := by
  cases hordinal : e.ordinal with
  | none => exact .inl ⟨Enumerator.numbering_first? h hordinal, rfl⟩
  | some n =>
    have hn := Enumerator.has_readIn? h n hordinal
    have hlength := length_readList_le _ line below e n rfl hordinal hn
    exact .inr ⟨hn.1, by rw [Option.getD_some]; omega⟩

end Testbook.Markup
