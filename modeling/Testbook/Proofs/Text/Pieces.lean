import Testbook.Text.Blank
import Mathlib.Data.List.TakeWhile

/-!
Pieces of text. Texts without the separator come back as they were when they are joined and cut
apart again (`splitOn_join`), also with blanks behind each separator (`splitOn_join_append`).
Trimming or expanding tabs leaves alone what has no blank at its ends and no tab.
-/

namespace Testbook.Text

/-! ### Cutting apart -/

/-- What holds no separator only lengthens the first piece behind it. -/
theorem splitOn_front {sep : Char} {front text first : Text} {rest : List Text} (h : sep ∉ front)
    (ht : splitOn sep text = first :: rest) :
    splitOn sep (front ++ text) = (front ++ first) :: rest := by
  induction front with
  | nil => exact ht
  | cons c cs ih =>
    rw [List.mem_cons, not_or] at h
    obtain ⟨hc, hcs⟩ := h
    rw [List.cons_append, splitOn, if_neg (Ne.symm hc), ih hcs]
    rfl

theorem splitOn_of_not_mem {sep : Char} {text : Text} (h : sep ∉ text) :
    splitOn sep text = [text] := by
  have hnil : splitOn sep [] = [[]] := rfl
  have hfront := splitOn_front h hnil
  rwa [List.append_nil] at hfront

theorem splitOn_append {sep : Char} {piece : Text} (h : sep ∉ piece) (rest : Text) :
    splitOn sep (piece ++ sep :: rest) = piece :: splitOn sep rest := by
  have hsep : splitOn sep (sep :: rest) = [] :: splitOn sep rest := by rw [splitOn, if_pos rfl]
  have hfront := splitOn_front h hsep
  rwa [List.append_nil] at hfront

/-- At a separator the pieces in front of it end. -/
theorem splitOn_append_sep (sep : Char) (front rest : Text) :
    splitOn sep (front ++ sep :: rest) = splitOn sep front ++ splitOn sep rest := by
  induction front with
  | nil =>
    have hsep : splitOn sep (sep :: rest) = [] :: splitOn sep rest := if_pos rfl
    exact hsep
  | cons c cs ih =>
    obtain ⟨piece, pieces, hp⟩ := List.exists_cons_of_ne_nil (splitOn_ne_nil sep cs)
    by_cases hc : c = sep
    · rw [List.cons_append, splitOn, if_pos hc, ih, splitOn, if_pos hc, List.cons_append]
    · rw [List.cons_append, splitOn, if_neg hc, ih, hp, splitOn, if_neg hc, hp]
      rfl

/-- No piece holds the separator. -/
theorem not_mem_of_mem_splitOn {sep : Char} {text piece : Text} (h : piece ∈ splitOn sep text) :
    sep ∉ piece := by
  induction text generalizing piece with
  | nil =>
    rw [splitOn, List.mem_singleton] at h
    rw [h]
    exact List.not_mem_nil
  | cons c cs ih =>
    by_cases hc : c = sep
    · rw [splitOn, if_pos hc, List.mem_cons] at h
      rcases h with rfl | h
      · exact List.not_mem_nil
      · exact ih h
    · rw [splitOn, if_neg hc] at h
      cases hs : splitOn sep cs with
      | nil => exact absurd hs (splitOn_ne_nil sep cs)
      | cons front rest =>
        simp only [hs] at h ih
        rcases List.mem_cons.1 h with rfl | h
        · rw [List.mem_cons, not_or]
          exact ⟨Ne.symm hc, ih List.mem_cons_self⟩
        · exact ih (List.mem_cons_of_mem _ h)

/-- A piece holds characters of the text. -/
theorem subset_of_mem_splitOn {sep : Char} {text piece : Text} (h : piece ∈ splitOn sep text) :
    piece ⊆ text := by
  induction text generalizing piece with
  | nil =>
    rw [splitOn, List.mem_singleton] at h
    rw [h]
    exact List.Subset.refl _
  | cons c cs ih =>
    obtain ⟨front, rest, hs⟩ := List.exists_cons_of_ne_nil (splitOn_ne_nil sep cs)
    rw [hs] at ih
    by_cases hc : c = sep
    · rw [splitOn, if_pos hc, hs, List.mem_cons] at h
      rcases h with rfl | h
      · exact List.nil_subset _
      · exact List.subset_cons_of_subset c (ih h)
    · rw [splitOn, if_neg hc, hs, List.mem_cons] at h
      rcases h with rfl | h
      · exact List.cons_subset_cons c (ih List.mem_cons_self)
      · exact List.subset_cons_of_subset c (ih (List.mem_cons_of_mem _ h))

/-- Pieces that are joined by a separator with a gap behind it are cut apart with the gap in front
of each but the first. -/
theorem splitOn_join_append {sep : Char} {gap piece : Text} {pieces : List Text} (hgap : sep ∉ gap)
    (h : ∀ p ∈ piece :: pieces, sep ∉ p) :
    splitOn sep (join (sep :: gap) (piece :: pieces)) = piece :: pieces.map (gap ++ ·) := by
  induction pieces generalizing piece with
  | nil => exact splitOn_of_not_mem (h piece List.mem_cons_self)
  | cons next rest ih =>
    obtain ⟨hpiece, hrest⟩ := List.forall_mem_cons.1 h
    have hcut := ih hrest
    rw [join, List.append_assoc, List.cons_append, splitOn_append hpiece, splitOn_front hgap hcut,
      List.map_cons]

/-- Pieces that are joined by a separator none of them holds are cut apart again. -/
theorem splitOn_join {sep : Char} {pieces : List Text} (hne : pieces ≠ [])
    (h : ∀ piece ∈ pieces, sep ∉ piece) : splitOn sep (join [sep] pieces) = pieces := by
  obtain ⟨piece, rest, rfl⟩ := List.exists_cons_of_ne_nil hne
  have hgap : sep ∉ ([] : Text) := List.not_mem_nil
  have hcut := splitOn_join_append hgap h
  simpa using hcut

/-- What stands behind the last piece stands behind the whole. -/
theorem join_concat_append (sep : Text) (pieces : List Text) (last ending : Text) :
    join sep (pieces ++ [last ++ ending]) = join sep (pieces ++ [last]) ++ ending := by
  induction pieces with
  | nil => rfl
  | cons piece pieces ih =>
    cases pieces with
    | nil => simp [join]
    | cons next rest =>
      simp only [List.cons_append, join, List.append_assoc] at ih ⊢
      rw [ih]

/-- What stands in joined pieces stands in a piece or in the separator. -/
theorem exists_of_mem_join {sep : Text} {pieces : List Text} {c : Char} (h : c ∈ join sep pieces) :
    c ∈ sep ∨ ∃ piece ∈ pieces, c ∈ piece := by
  induction pieces with
  | nil => cases h
  | cons piece pieces ih =>
    cases pieces with
    | nil => exact .inr ⟨piece, List.mem_cons_self, h⟩
    | cons next rest =>
      rw [join, List.append_assoc, List.mem_append, List.mem_append] at h
      rcases h with h | h | h
      · exact .inr ⟨piece, List.mem_cons_self, h⟩
      · exact .inl h
      · rcases ih h with hsep | ⟨p, hp, hc⟩
        · exact .inl hsep
        · exact .inr ⟨p, List.mem_cons_of_mem _ hp, hc⟩

/-! ### Ends of texts -/

theorem dropEnd?_eq_some {ending text kept : Text} (h : dropEnd? ending text = some kept) :
    text = kept ++ ending := by
  obtain ⟨rest, hr, rfl⟩ := Option.map_eq_some_iff.1 h
  rw [← List.reverse_reverse text, dropStart?_eq_some hr, List.reverse_append,
    List.reverse_reverse]

theorem dropStart?_append (start rest : Text) : dropStart? start (start ++ rest) = some rest := by
  induction start with
  | nil => rfl
  | cons c cs ih => rw [List.cons_append, dropStart?, if_pos rfl, ih]

theorem dropEnd?_append (ending kept : Text) : dropEnd? ending (kept ++ ending) = some kept := by
  rw [dropEnd?, List.reverse_append, dropStart?_append, Option.map_some, List.reverse_reverse]

theorem prefix_trimEnd (text : Text) : trimEnd text <+: text := by
  rw [trimEnd, ← List.reverse_suffix, List.reverse_reverse]
  exact List.dropWhile_suffix _

/-- A text that ends with a character that is not blank has nothing to trim at its end. -/
theorem trimEnd_of_getLast? {text : Text} (h : text.getLast?.all (!isBlank ·)) :
    trimEnd text = text := by
  rcases List.eq_nil_or_concat text with rfl | ⟨front, c, rfl⟩
  · rfl
  · have hc : ¬ isBlank c = true := by simpa using h
    rw [trimEnd, List.concat_eq_append, List.reverse_concat, List.dropWhile_cons_of_neg hc,
      List.reverse_cons, List.reverse_reverse]

theorem getLast?_trimEnd (text : Text) : (trimEnd text).getLast?.all (!isBlank ·) := by
  rw [trimEnd, List.getLast?_reverse]
  cases hd : (text.reverse.dropWhile isBlank).head? with
  | none => rfl
  | some c =>
    have hhead : isBlank c = false := head?_trimStart hd
    simp [hhead]

theorem trimEnd_append {front ending : Text} (hne : ending ≠ []) (h : trimEnd ending = ending) :
    trimEnd (front ++ ending) = front ++ ending := by
  have hend := getLast?_trimEnd ending
  rw [h] at hend
  refine trimEnd_of_getLast? ?_
  rw [List.getLast?_append]
  cases hlast : ending.getLast? with
  | none => exact absurd (List.getLast?_eq_none_iff.1 hlast) hne
  | some c =>
    rw [hlast] at hend
    exact hend

theorem trim_cons_of_blank {c : Char} (h : isBlank c = true) (text : Text) :
    trim (c :: text) = trim text := by
  rw [trim, trimStart, List.dropWhile_cons_of_pos h]
  rfl

/-- A text with other than blank characters at both ends has nothing to trim. -/
theorem trim_of_ends {text : Text} (hfirst : text.head?.all (!isBlank ·))
    (hlast : text.getLast?.all (!isBlank ·)) : trim text = text := by
  have hstart : trimStart text = text := by
    cases text with
    | nil => rfl
    | cons c cs => exact List.dropWhile_cons_of_neg (by simpa using hfirst)
  rw [trim, hstart, trimEnd_of_getLast? hlast]

theorem head?_trim (text : Text) : (trim text).head?.all (!isBlank ·) := by
  cases hh : (trim text).head? with
  | none => rfl
  | some c =>
    have hfront : (trimStart text).head? = some c := by
      obtain ⟨ending, hending⟩ := prefix_trimEnd (trimStart text)
      rw [← hending, List.head?_append]
      change (trim text).head?.or _ = _
      rw [hh, Option.some_or]
    have hc : isBlank c = false := head?_trimStart hfront
    simp [hc]

/-- Trimming once is enough. -/
theorem trim_trim (text : Text) : trim (trim text) = trim text :=
  trim_of_ends (head?_trim text) (getLast?_trimEnd _)

theorem sublist_trim (text : Text) : (trim text).Sublist text :=
  (prefix_trimEnd _).sublist.trans (List.dropWhile_sublist _)

theorem trimEnd_of_isAllBlank {text : Text} (h : isAllBlank text = true) : trimEnd text = [] := by
  have hdrop : text.reverse.dropWhile isBlank = [] :=
    List.dropWhile_eq_nil_iff.2 fun c hc => List.all_eq_true.1 h c (List.mem_reverse.1 hc)
  rw [trimEnd, hdrop]
  rfl

/-- What stands in front of a text that is not all blank stays. -/
theorem trimEnd_append_of_solid {text : Text} (h : isAllBlank text = false) (front : Text) :
    trimEnd (front ++ text) = front ++ trimEnd text := by
  have hdrop : (text.reverse.dropWhile isBlank).isEmpty = false := by
    rw [Bool.eq_false_iff, ne_eq, List.isEmpty_iff, List.dropWhile_eq_nil_iff]
    intro hall
    have hblank : isAllBlank text = true :=
      List.all_eq_true.2 fun c hc => hall c (List.mem_reverse.2 hc)
    rw [h] at hblank
    exact absurd hblank (by decide)
  rw [trimEnd, List.reverse_append, List.dropWhile_append, hdrop, if_neg (by decide),
    List.reverse_append, List.reverse_reverse]
  rfl

/-! ### Tabs -/

theorem expandTabs_of_not_mem {text : Text} (h : '\t' ∉ text) (column : Nat) :
    expandTabs column text = text := by
  induction text generalizing column with
  | nil => rfl
  | cons c cs ih =>
    rw [List.mem_cons, not_or] at h
    obtain ⟨hc, hcs⟩ := h
    rw [expandTabs, if_neg (Ne.symm hc), ih hcs]

theorem tab_not_mem_expandTabs (column : Nat) (text : Text) : '\t' ∉ expandTabs column text := by
  induction text generalizing column with
  | nil => exact List.not_mem_nil
  | cons c cs ih =>
    by_cases hc : c = '\t'
    · rw [expandTabs, if_pos hc]
      refine List.not_mem_append (fun hmem => ?_) (ih _)
      exact absurd (List.eq_of_mem_replicate hmem) (by decide)
    · rw [expandTabs, if_neg hc]
      rw [List.mem_cons, not_or]
      exact ⟨Ne.symm hc, ih _⟩

end Testbook.Text
