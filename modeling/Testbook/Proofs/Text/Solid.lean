import Testbook.Text.Blank

/-!
The solid characters of a text are those that are not blank. Trimming, expanding tabs and cutting
at line feeds move blanks about and nothing else, so each of them keeps what is solid.
-/

namespace Testbook.Text

/-- The characters of a text that are not blank. -/
def solid (text : Text) : Text := text.filter (!isBlank ·)

@[simp]
theorem solid_nil : solid [] = [] := rfl

theorem solid_append (a b : Text) : solid (a ++ b) = solid a ++ solid b := List.filter_append ..

theorem solid_cons_of_blank {c : Char} {text : Text} (h : isBlank c = true) :
    solid (c :: text) = solid text := by
  simp [solid, h]

theorem solid_cons (c : Char) (text : Text) : solid (c :: text) = solid [c] ++ solid text :=
  solid_append [c] text

theorem solid_flatten (texts : List Text) : solid texts.flatten = (texts.map solid).flatten := by
  induction texts with
  | nil => rfl
  | cons a as ih => rw [List.flatten_cons, solid_append, ih, List.map_cons, List.flatten_cons]

/-- A text has no solid characters just when all of its characters are blank. -/
theorem solid_eq_nil {text : Text} : solid text = [] ↔ isAllBlank text = true := by
  simp [solid, isAllBlank, List.filter_eq_nil_iff]

/-! ### Operations that keep what is solid -/

theorem solid_dropWhile {p : Char → Bool} (hp : ∀ c, p c = true → isBlank c = true) (text : Text) :
    solid (text.dropWhile p) = solid text := by
  induction text with
  | nil => rfl
  | cons c cs ih =>
    by_cases h : p c = true
    · rw [List.dropWhile_cons_of_pos h, ih, solid_cons_of_blank (hp c h)]
    · rw [List.dropWhile_cons_of_neg h]

theorem solid_reverse (text : Text) : solid text.reverse = (solid text).reverse :=
  List.filter_reverse ..

theorem solid_trimStart (text : Text) : solid (trimStart text) = solid text :=
  solid_dropWhile (fun _ h => h) text

theorem solid_trimEnd (text : Text) : solid (trimEnd text) = solid text := by
  rw [trimEnd, solid_reverse, solid_dropWhile (fun _ h => h), solid_reverse, List.reverse_reverse]

theorem isAllBlank_trimEnd (text : Text) : isAllBlank (trimEnd text) = isAllBlank text := by
  rw [Bool.eq_iff_iff, ← solid_eq_nil, ← solid_eq_nil, solid_trimEnd]

theorem solid_replicate_space (n : Nat) : solid (List.replicate n ' ') = [] := by
  induction n with
  | zero => rfl
  | succ n ih => rw [List.replicate_succ, solid_cons_of_blank rfl, ih]

theorem solid_expandTabs (column : Nat) (text : Text) :
    solid (expandTabs column text) = solid text := by
  induction text generalizing column with
  | nil => rfl
  | cons c cs ih =>
    by_cases h : c = '\t'
    · rw [expandTabs, if_pos h, solid_append, ih, solid_replicate_space, List.nil_append, h,
        solid_cons_of_blank rfl]
    · rw [expandTabs, if_neg h, solid_cons, ih, ← solid_cons]

/-- Pieces cut apart at a blank character hold what is solid in the whole. -/
theorem solid_flatten_splitOn {sep : Char} (h : isBlank sep = true) (text : Text) :
    solid (splitOn sep text).flatten = solid text := by
  induction text with
  | nil => rfl
  | cons c cs ih =>
    by_cases hc : c = sep
    · rw [splitOn, if_pos hc, List.flatten_cons, List.nil_append, ih, hc, solid_cons_of_blank h]
    · rw [splitOn, if_neg hc]
      cases hs : splitOn sep cs with
      | nil => exact absurd hs (splitOn_ne_nil sep cs)
      | cons piece pieces =>
        rw [hs] at ih
        simp only [List.flatten_cons, List.cons_append] at ih ⊢
        rw [solid_cons, ih, ← solid_cons]

/-- Pieces joined by blanks hold what they hold without them. -/
theorem solid_join {sep : Text} (h : isAllBlank sep = true) (pieces : List Text) :
    solid (join sep pieces) = solid pieces.flatten := by
  induction pieces with
  | nil => rfl
  | cons piece rest ih =>
    cases rest with
    | nil => simp [join]
    | cons next rest =>
      rw [join, solid_append, solid_append, ih, solid_eq_nil.2 h, List.append_nil, ← solid_append]
      rfl

end Testbook.Text
