import Testbook.Text.Basic
import Mathlib.Data.List.Infix

/-!
Replacing in parts. An occurrence may begin in a text and end behind it; where none does (`isApart`),
what stands behind makes no difference, and a text is replaced part by part (`replace_append`). So it is
with replacements made one after the other (`replaceAll_append`), each in what the one before left.
-/

namespace Testbook.Text

/-- Whether no occurrence of `old` can begin in a text and end behind it: no end of the text is only
the beginning of `old`. -/
def isApart (old text : Text) : Bool :=
  text.tails.all fun ending =>
    ending.isEmpty || decide (old.length ≤ ending.length) || !ending.isPrefixOf old

/-- The text after several replacements, each of one text by another. -/
def replaceAll (rules : List (Text × Text)) (text : Text) : Text :=
  rules.foldl (fun text rule => replace rule.1 rule.2 text) text

/-- Whether no occurrence that is replaced can begin in a text and end behind it. -/
def areApart : List (Text × Text) → Text → Bool
  | [], _ => true
  | (old, new) :: rules, text => isApart old text && areApart rules (replace old new text)

variable {old new text rest ending : Text} {rules : List (Text × Text)}

/-- An occurrence that begins in a text apart from it stands in the text. -/
theorem isPrefix_of_isApart (h : isApart old text = true) (hending : ending <:+ text)
    (hne : ending ≠ []) (hold : old <+: ending ++ rest) : old <+: ending := by
  have hapart := List.all_eq_true.1 h ending ((List.mem_tails _ _).2 hending)
  rw [Bool.or_eq_true, Bool.or_eq_true, List.isEmpty_iff, decide_eq_true_iff] at hapart
  rcases hapart with (hnil | hlength) | hshort
  · exact absurd hnil hne
  · exact List.prefix_of_prefix_length_le hold (List.prefix_append ending rest) hlength
  · rcases List.prefix_or_prefix_of_prefix hold (List.prefix_append ending rest) with h | h
    · exact h
    · rw [List.isPrefixOf_iff_prefix.2 h] at hshort
      cases hshort

theorem replaceFrom_append (h : isApart old text = true) {skip : Nat} (hskip : skip ≤ text.length) :
    replaceFrom old new skip (text ++ rest)
      = replaceFrom old new skip text ++ replaceFrom old new 0 rest := by
  induction text generalizing skip with
  | nil =>
    rw [Nat.le_zero.1 hskip]
    rfl
  | cons c cs ih =>
    have hcs : isApart old cs = true := by
      rw [isApart, List.tails_cons, List.all_cons, Bool.and_eq_true] at h
      exact h.2
    cases skip with
    | succ skip => exact ih hcs (Nat.le_of_succ_le_succ hskip)
    | zero =>
      have hsame : old.isPrefixOf (c :: cs ++ rest) = old.isPrefixOf (c :: cs) := by
        rw [Bool.eq_iff_iff, List.isPrefixOf_iff_prefix, List.isPrefixOf_iff_prefix]
        exact ⟨isPrefix_of_isApart h List.suffix_rfl (List.cons_ne_nil c cs),
          fun hfront => hfront.trans (List.prefix_append _ rest)⟩
      rw [List.cons_append] at hsame ⊢
      rw [replaceFrom, replaceFrom, hsame]
      split
      · next hfront =>
        have hlength := (List.isPrefixOf_iff_prefix.1 hfront).length_le
        rw [List.length_cons] at hlength
        rw [ih hcs (by omega), List.append_assoc]
      · rw [ih hcs (Nat.zero_le _), List.cons_append]

theorem replace_append (h : isApart old text = true) :
    replace old new (text ++ rest) = replace old new text ++ replace old new rest :=
  replaceFrom_append h (Nat.zero_le _)

/-- Replacements are made part by part. -/
theorem replaceAll_append (h : areApart rules text = true) :
    replaceAll rules (text ++ rest) = replaceAll rules text ++ replaceAll rules rest := by
  induction rules generalizing text rest with
  | nil => rfl
  | cons rule rules ih =>
    obtain ⟨hfirst, hrules⟩ := Bool.and_eq_true_iff.1 h
    change replaceAll rules (replace rule.1 rule.2 (text ++ rest)) = _
    rw [replace_append hfirst, ih hrules]
    rfl

/-! ### Texts in which nothing is replaced -/

theorem not_isPrefixOf_of_head?_not_mem {c : Char} (hold : old.head? = some c) (h : c ∉ text) :
    old.isPrefixOf text = false := by
  rw [Bool.eq_false_iff, ne_eq, List.isPrefixOf_iff_prefix]
  exact fun hfront => h (hfront.subset (List.mem_of_head? hold))

theorem replace_of_head?_not_mem {c : Char} (hold : old.head? = some c) (h : c ∉ text) :
    replace old new text = text := by
  induction text with
  | nil => rfl
  | cons d ds ih =>
    have htail : replaceFrom old new 0 ds = ds := ih fun hmem => h (List.mem_cons_of_mem _ hmem)
    rw [replace, replaceFrom, not_isPrefixOf_of_head?_not_mem hold h, if_neg (by decide), htail]

theorem isApart_of_head?_not_mem {c : Char} (hold : old.head? = some c) (h : c ∉ text) :
    isApart old text = true := by
  refine List.all_eq_true.2 fun ending hending => ?_
  have hsub := ((List.mem_tails _ _).1 hending).subset
  cases ending with
  | nil => rfl
  | cons d ds =>
    have hfront : (d :: ds).isPrefixOf old = false := by
      rw [Bool.eq_false_iff, ne_eq, List.isPrefixOf_iff_prefix]
      rintro ⟨more, hmore⟩
      rw [← hmore] at hold
      cases hold
      exact h (hsub List.mem_cons_self)
    rw [hfront, Bool.not_false, Bool.or_true]

/-- A text without the character with which all that is replaced begins stays as it is, and apart. -/
theorem replaceAll_of_head?_not_mem {c : Char} (hrules : ∀ rule ∈ rules, rule.1.head? = some c)
    (h : c ∉ text) : replaceAll rules text = text ∧ areApart rules text = true := by
  induction rules with
  | nil => exact ⟨rfl, rfl⟩
  | cons rule rules ih =>
    obtain ⟨hfirst, hrest⟩ := List.forall_mem_cons.1 hrules
    obtain ⟨hsame, hapart⟩ := ih hrest
    have hreplace : replace rule.1 rule.2 text = text := replace_of_head?_not_mem hfirst h
    refine ⟨?_, ?_⟩
    · change replaceAll rules (replace rule.1 rule.2 text) = text
      rw [hreplace, hsame]
    · change (isApart rule.1 text && areApart rules (replace rule.1 rule.2 text)) = true
      rw [hreplace, hapart, isApart_of_head?_not_mem hfirst h]
      rfl

end Testbook.Text
