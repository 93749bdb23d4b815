import Mathlib.Data.List.Basic
import Testbook.Text.Case

/-!
Case mappings change a text once. What a run of code points is moved to lies in none of the runs
that are moved, which is seen from the ends of the runs and, where two of them alternate, from
their parity (`Run.isApart`); so the tables are compared run by run and not letter by letter. A text
of characters that stand for themselves is its own lower or upper case, and both mappings give such
texts (`lower_lower`, `upper_upper`).
-/

namespace Testbook.Text

/-! ### Runs of code points -/

/-- The code points from `first` to `last`, or only every second of them. -/
structure Run where
  first : Nat
  last : Nat
  alternate : Bool

/-- Whether a run has a code point. -/
def Run.Holds (run : Run) (n : Nat) : Prop :=
  run.first ≤ n ∧ n ≤ run.last ∧ (run.alternate = true → n % 2 = run.first % 2)

/-- Whether two runs are seen to have no code point in common. -/
def Run.isApart (a b : Run) : Bool :=
  Nat.blt a.last b.first || Nat.blt b.last a.first
    || (a.alternate && b.alternate && Nat.beq ((a.first + b.first) % 2) 1)

/-- The run of one code point. -/
def Run.single (n : Nat) : Run := ⟨n, n, true⟩

theorem Run.holds_single (n : Nat) : (Run.single n).Holds n :=
  ⟨Nat.le_refl n, Nat.le_refl n, fun _ => rfl⟩

theorem Run.not_holds_of_isApart {a b : Run} {n : Nat} (h : a.isApart b = true) (hn : a.Holds n) :
    ¬ b.Holds n := by
  rintro ⟨hfirst, hlast, hparity⟩
  simp only [Run.isApart, Bool.or_eq_true, Bool.and_eq_true, Nat.blt_eq, Nat.beq_eq] at h
  obtain ⟨hafirst, halast, haparity⟩ := hn
  rcases h with (h | h) | ⟨⟨ha, hb⟩, h⟩
  · omega
  · omega
  · have hna := haparity ha
    have hnb := hparity hb
    omega

namespace Shift

/-- Whether a shift moves only every second code point, as one does that moves a single one. -/
def alternates (s : Shift) : Bool := Nat.beq s.step 2 || Nat.beq s.first s.last

/-- The code points that a shift moves. -/
def source (s : Shift) : Run := ⟨s.first, s.last, s.alternates⟩

/-- The code points that a shift moves them to. -/
def image (s : Shift) : Run :=
  ⟨((s.first : Int) + s.offset).toNat, ((s.last : Int) + s.offset).toNat, s.alternates⟩

/-- Whether all that a shift moves code points to are characters beyond ASCII. -/
def isWide (s : Shift) : Bool :=
  Nat.ble 0x80 s.image.first
    && (Nat.blt s.image.last 0xD800
      || (Nat.blt 0xDFFF s.image.first && Nat.blt s.image.last 0x110000))

variable {s : Shift} {n : Nat} {d : Char}

theorem mod_two_of_alternates (h : s.alternates = true) (hfirst : s.first ≤ n) (hlast : n ≤ s.last)
    (hstep : (n - s.first) % s.step = 0) : n % 2 = s.first % 2 := by
  simp only [alternates, Bool.or_eq_true, Nat.beq_eq] at h
  rcases h with h | h
  · rw [h] at hstep
    omega
  · omega

theorem moved?_eq_some (h : s.moved? n = some d) :
    s.source.Holds n ∧ d = Char.ofNat ((n : Int) + s.offset).toNat := by
  simp only [moved?, Bool.and_eq_true, decide_eq_true_eq, beq_iff_eq] at h
  split at h
  · next hn =>
    obtain ⟨⟨hfirst, hlast⟩, hstep⟩ := hn
    exact ⟨⟨hfirst, hlast, fun ha => mod_two_of_alternates ha hfirst hlast hstep⟩,
      (Option.some.inj h).symm⟩
  · cases h

theorem moved?_eq_none (h : ¬ s.source.Holds n) : s.moved? n = none :=
  Option.eq_none_iff_forall_ne_some.2 fun _ hd => h (moved?_eq_some hd).1

/-- What a shift gives is in its image, and beyond ASCII. -/
theorem holds_image (hwide : s.isWide = true) (h : s.moved? n = some d) :
    s.image.Holds d.toNat ∧ 0x80 ≤ d.toNat := by
  obtain ⟨⟨hfirst, hlast, hparity⟩, rfl⟩ := moved?_eq_some h
  simp only [isWide, image, Bool.or_eq_true, Bool.and_eq_true, Nat.ble_eq, Nat.blt_eq] at hwide
  simp only [source] at hfirst hlast hparity
  have hvalid : ((n : Int) + s.offset).toNat.isValidChar := by
    rw [Nat.isValidChar]
    omega
  have hcode : (Char.ofNat ((n : Int) + s.offset).toNat).toNat = ((n : Int) + s.offset).toNat := by
    rw [Char.ofNat, dif_pos hvalid]
    rfl
  rw [hcode]
  refine ⟨⟨?_, ?_, fun ha => ?_⟩, ?_⟩
  · simp only [image]
    omega
  · simp only [image]
    omega
  · have hn := hparity ha
    simp only [image]
    omega
  · omega

end Shift

/-! ### Characters that stand for themselves -/

/-- Whether a table moves none of the code points of a run. -/
def isUnmoved (shifts : List Shift) (run : Run) : Bool := shifts.all fun s => run.isApart s.source

theorem findSome?_moved?_eq_none {shifts : List Shift} {run : Run} {n : Nat}
    (h : isUnmoved shifts run = true) (hn : run.Holds n) :
    shifts.findSome? (·.moved? n) = none :=
  List.findSome?_eq_none_iff.2 fun s hs =>
    Shift.moved?_eq_none (Run.not_holds_of_isApart (List.all_eq_true.1 h s hs) hn)

/-- Whether a mapping leaves all characters as they are that a shift gives, where the mapping moves
characters beyond ASCII by a table and treats some apart. -/
def isSettled (mapping : Char → Text) (shifts : List Shift) (apart : List Nat) (s : Shift) : Bool :=
  (s.isWide && isUnmoved shifts s.image && apart.all fun n => s.image.isApart (.single n))
    || (Nat.beq s.first s.last
      && let d := Char.ofNat ((s.first : Int) + s.offset).toNat
        mapping d == [d])

theorem mapping_of_isSettled {mapping : Char → Text} {shifts : List Shift} {apart : List Nat}
    (hmapping : ∀ c : Char, 0x80 ≤ c.toNat → c.toNat ∉ apart →
      shifts.findSome? (·.moved? c.toNat) = none → mapping c = [c])
    {s : Shift} (h : isSettled mapping shifts apart s = true) {n : Nat} {d : Char}
    (hd : s.moved? n = some d) : mapping d = [d] := by
  simp only [isSettled, Bool.or_eq_true, Bool.and_eq_true, Nat.beq_eq, beq_iff_eq] at h
  rcases h with ⟨⟨hwide, hshifts⟩, hapart⟩ | ⟨hone, hself⟩
  · obtain ⟨hmem, hbeyond⟩ := Shift.holds_image hwide hd
    refine hmapping d hbeyond (fun hin => ?_) (findSome?_moved?_eq_none hshifts hmem)
    exact Run.not_holds_of_isApart (List.all_eq_true.1 hapart _ hin) hmem (Run.holds_single _)
  · obtain ⟨⟨hfirst, hlast, -⟩, rfl⟩ := Shift.moved?_eq_some hd
    simp only [Shift.source] at hfirst hlast
    obtain rfl : n = s.first := by omega
    exact hself

/-- A property of ASCII characters is checked for each of them. -/
theorem ascii_of_all {p : Char → Bool} (h : (List.range 0x80).all fun n => p (Char.ofNat n))
    {c : Char} (hc : c.toNat < 0x80) : p c = true := by
  have hp := List.all_eq_true.1 h c.toNat (List.mem_range.2 hc)
  rwa [Char.ofNat_toNat] at hp

/-! ### Lower case -/

theorem lowerChar_of_unmoved {c : Char} (hwide : 0x80 ≤ c.toNat) (hc : c.toNat ∉ [0x130])
    (h : lowerShifts.findSome? (·.moved? c.toNat) = none) : lowerChar c = [c] := by
  rw [lowerChar, if_neg (Nat.not_lt.2 hwide), if_neg (mt List.mem_singleton.2 hc), h,
    Option.getD_none]

theorem isSettled_lowerShifts :
    lowerShifts.all (isSettled lowerChar lowerShifts [0x130]) = true := by
  decide +kernel

theorem lowerChar_ascii : (List.range 0x80).all fun n =>
    (lowerChar (Char.ofNat n)).all fun d => lowerChar d == [d] := by
  decide +kernel

theorem lowerChar_dotted : (lowerChar '\u0130').all fun d => lowerChar d == [d] := by
  rfl

/-- The lower-case form of a character is in lower case. -/
theorem lowerChar_of_mem {c d : Char} (hd : d ∈ lowerChar c) : lowerChar d = [d] := by
  by_cases hascii : c.toNat < 0x80
  · have hall := ascii_of_all (p := fun c => (lowerChar c).all fun d => lowerChar d == [d])
      lowerChar_ascii hascii
    exact beq_iff_eq.1 (List.all_eq_true.1 hall d hd)
  by_cases hdotted : c.toNat = 0x130
  · obtain rfl : c = '\u0130' := by
      rw [← Char.ofNat_toNat c, hdotted]
    exact beq_iff_eq.1 (List.all_eq_true.1 lowerChar_dotted d hd)
  rw [lowerChar, if_neg hascii, if_neg hdotted, List.mem_singleton] at hd
  cases hmoved : lowerShifts.findSome? (·.moved? c.toNat) with
  | none =>
    rw [hmoved, Option.getD_none] at hd
    rw [hd]
    exact lowerChar_of_unmoved (Nat.not_lt.1 hascii) (mt List.mem_singleton.1 hdotted) hmoved
  | some d' =>
    rw [hmoved, Option.getD_some] at hd
    subst hd
    obtain ⟨s, hs, hsd⟩ := List.exists_of_findSome?_eq_some hmoved
    exact mapping_of_isSettled (fun _ => lowerChar_of_unmoved)
      (List.all_eq_true.1 isSettled_lowerShifts s hs) hsd

theorem lowerChar_sigmas : lowerChar 'ς' = ['ς'] ∧ lowerChar 'σ' = ['σ']
    ∧ lowerChar 'Σ' ≠ ['Σ'] := by
  decide

theorem lowerChar_of_mem_lowerAfter {before text : Text} {d : Char}
    (hd : d ∈ lowerAfter before text) : lowerChar d = [d] := by
  induction text generalizing before with
  | nil => cases hd
  | cons c cs ih =>
    obtain ⟨hfinal, hsmall, -⟩ := lowerChar_sigmas
    simp only [lowerAfter, List.mem_append] at hd
    rcases hd with hd | hd
    · split at hd
      · split at hd
        · rw [List.mem_singleton.1 hd, hfinal]
        · rw [List.mem_singleton.1 hd, hsmall]
      · exact lowerChar_of_mem hd
    · exact ih hd

/-- Lower case leaves a text of lower-case characters as it is, whatever stands before it. -/
theorem lowerAfter_of_lowerChar {before text : Text} (h : ∀ c ∈ text, lowerChar c = [c]) :
    lowerAfter before text = text := by
  induction text generalizing before with
  | nil => rfl
  | cons c cs ih =>
    obtain ⟨hc, hcs⟩ := List.forall_mem_cons.1 h
    have hsigma : c ≠ 'Σ' := by
      rintro rfl
      exact lowerChar_sigmas.2.2 hc
    simp only [lowerAfter, if_neg hsigma, hc, ih hcs, List.singleton_append]

/-- A text in lower case is its own lower case. -/
theorem lower_lower (text : Text) : lower (lower text) = lower text :=
  lowerAfter_of_lowerChar fun _ hd => lowerChar_of_mem_lowerAfter hd

/-! ### Upper case -/

/-- The code points whose upper case is several characters. -/
def sequenceCodes : List Nat := upperSequences.map (·.1)

theorem lookup_eq_none_of_not_mem {entries : List (Nat × List Nat)} {n : Nat}
    (h : n ∉ entries.map (·.1)) : entries.lookup n = none := by
  rw [List.lookup_eq_none_iff]
  intro e he
  rw [bne_iff_ne]
  rintro rfl
  exact h (List.mem_map_of_mem he)

theorem upperChar_of_unmoved {c : Char} (hwide : 0x80 ≤ c.toNat) (hc : c.toNat ∉ sequenceCodes)
    (h : upperShifts.findSome? (·.moved? c.toNat) = none) : upperChar c = [c] := by
  rw [upperChar, if_neg (Nat.not_lt.2 hwide), lookup_eq_none_of_not_mem hc, h, Option.getD_none]

theorem isSettled_upperShifts :
    upperShifts.all (isSettled upperChar upperShifts sequenceCodes) = true := by
  decide +kernel

/-- The code points in the sequences, each as a shift that leaves it where it is. -/
def sequenceShifts : List Shift :=
  upperSequences.flatMap fun e => e.2.map fun code => ⟨code, code, 1, 0⟩

theorem isSettled_sequenceShifts :
    sequenceShifts.all (isSettled upperChar upperShifts sequenceCodes) = true := by
  decide +kernel

theorem upperChar_ascii : (List.range 0x80).all fun n =>
    (upperChar (Char.ofNat n)).all fun d => upperChar d == [d] := by
  decide +kernel

theorem upperChar_of_shift {s : Shift}
    (h : isSettled upperChar upperShifts sequenceCodes s = true) {n : Nat} {d : Char}
    (hd : s.moved? n = some d) : upperChar d = [d] :=
  mapping_of_isSettled (fun _ => upperChar_of_unmoved) h hd

/-- The upper-case form of a character is in upper case. -/
theorem upperChar_of_mem {c d : Char} (hd : d ∈ upperChar c) : upperChar d = [d] := by
  by_cases hascii : c.toNat < 0x80
  · have hall := ascii_of_all (p := fun c => (upperChar c).all fun d => upperChar d == [d])
      upperChar_ascii hascii
    exact beq_iff_eq.1 (List.all_eq_true.1 hall d hd)
  rw [upperChar, if_neg hascii] at hd
  split at hd
  · next codes hcodes =>
    obtain ⟨code, hcode, rfl⟩ := List.mem_map.1 hd
    obtain ⟨front, behind, hentries, -⟩ := List.lookup_eq_some_iff.1 hcodes
    have hentry : (c.toNat, codes) ∈ upperSequences := by simp [hentries]
    have hmem : (⟨code, code, 1, 0⟩ : Shift) ∈ sequenceShifts :=
      List.mem_flatMap.2 ⟨_, hentry, List.mem_map.2 ⟨code, hcode, rfl⟩⟩
    refine upperChar_of_shift (List.all_eq_true.1 isSettled_sequenceShifts _ hmem) (n := code) ?_
    simp [Shift.moved?]
  · cases hmoved : upperShifts.findSome? (·.moved? c.toNat) with
    | none =>
      next hlookup =>
      rw [hmoved, Option.getD_none, List.mem_singleton] at hd
      rw [hd, upperChar, if_neg hascii, hlookup, hmoved, Option.getD_none]
    | some d' =>
      rw [hmoved, Option.getD_some, List.mem_singleton] at hd
      subst hd
      obtain ⟨s, hs, hsd⟩ := List.exists_of_findSome?_eq_some hmoved
      exact upperChar_of_shift (List.all_eq_true.1 isSettled_upperShifts s hs) hsd

/-- A text in upper case is its own upper case. -/
theorem upper_upper (text : Text) : upper (upper text) = upper text := by
  have hself : ∀ d ∈ upper text, upperChar d = [d] := by
    intro d hd
    obtain ⟨c, -, hdc⟩ := List.mem_flatMap.1 hd
    exact upperChar_of_mem hdc
  have hmap : (upper text).flatMap upperChar = (upper text).flatMap fun d => [d] :=
    List.flatMap_congr hself
  rw [upper, hmap]
  exact List.flatMap_singleton' _

end Testbook.Text
