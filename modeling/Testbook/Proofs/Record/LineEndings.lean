import Testbook.Proofs.Markup.Shift
import Testbook.Proofs.Python.Docstring
import Testbook.Proofs.Python.Escape
import Testbook.Python.Literal

/-!
Documentation in files with other line endings. What a cleaned documentation declares depends on its
lines at the margin alone, trimmed and without the empty ones at both ends (`documented_cleanDoc`).
A carriage return at the end of a line is lost there, so a literal declares the same fields whether its
lines end with line feeds or with both characters (`documented_withReturns`), unless one of its lines
is continued on the next by a backslash, which then is taken for itself
(`documented_withReturns_continued`).
-/

namespace Testbook

open Testbook.Text Testbook.Markup Testbook.Python

/-- What lines declare, as the lines of a documentation. -/
def declaredBy (lines : List Text) : Fields :=
  if ∀ line ∈ lines, line.all (!isForbidden ·) = true then
    .ofList (declarations (readDocument (unnumbered (lines.map (tidyFrom 0)))).blocks)
  else .empty

variable {lines returned : List Text} {doc : Text}

/-! ### Empty lines at both ends -/

theorem documented_join (hfeed : ∀ line ∈ lines, '\n' ∉ line) (hlast : lines.getLast? ≠ some []) :
    documented (join ['\n'] lines) = declaredBy lines := by
  by_cases hne : lines = []
  · subst hne
    rfl
  have hsplit : splitOn '\n' (join ['\n'] lines) = lines := splitOn_join hne hfeed
  rw [declaredBy, documented, parse, hsplit]
  cases hbad : findBadCharacter 1 lines with
  | some bad =>
    have hforbidden : ¬ ∀ line ∈ lines, line.all (!isForbidden ·) = true := fun hall => by
      rw [findBadCharacter_eq_none.2 hall] at hbad
      exact absurd hbad (by simp)
    rw [if_neg hforbidden]
  | none =>
    have hread : (readLines (join ['\n'] lines)).map (·.text)
        = (unnumbered (lines.map (tidyFrom 0))).map (·.text) := by
      rw [map_text_readLines, rawLines, hsplit, if_neg hlast, map_text_unnumbered]
      rfl
    rw [if_pos (findBadCharacter_eq_none.1 hbad), ← blocks_readDocument_eq hread]

theorem readDocument_blanks {front back lines : List Line} (hfront : ∀ l ∈ front, l.isBlank = true)
    (hback : ∀ l ∈ back, l.isBlank = true) :
    readDocument (front ++ (lines ++ back)) = readDocument lines := by
  rw [readDocument_eq, segments_blanks hfront, ← readDocument_eq, ← readDocument_trimBlankEnd,
    trimBlankEnd_append_of_blank hback, readDocument_trimBlankEnd]

/-- Empty lines at the ends declare nothing. -/
theorem declaredBy_dropEmptyEnds (lines : List Text) :
    declaredBy (dropEmptyEnds lines) = declaredBy lines := by
  obtain ⟨front, back, hlines, hfront, hback⟩ := exists_dropEmptyEnds lines
  generalize dropEmptyEnds lines = kept at hlines
  subst hlines
  have hblank {ls : List Text} (h : ∀ line ∈ ls, line = []) :
      ∀ l ∈ unnumbered (ls.map (tidyFrom 0)), l.isBlank = true := by
    intro l hl
    obtain ⟨tidied, htidied, rfl⟩ := List.mem_map.1 hl
    obtain ⟨line, hline, rfl⟩ := List.mem_map.1 htidied
    rw [h line hline]
    rfl
  have hallowed {ls : List Text} (h : ∀ line ∈ ls, line = []) :
      ∀ line ∈ ls, line.all (!isForbidden ·) = true := fun line hline => by rw [h line hline]; rfl
  have hall : (∀ line ∈ front ++ (kept ++ back), line.all (!isForbidden ·) = true)
      ↔ ∀ line ∈ kept, line.all (!isForbidden ·) = true := by
    rw [List.forall_mem_append, List.forall_mem_append]
    exact ⟨fun h => h.2.1, fun h => ⟨hallowed hfront, h, hallowed hback⟩⟩
  simp only [declaredBy, hall, List.map_append, unnumbered_append]
  rw [readDocument_blanks (hblank hfront) (hblank hback)]

/-- A cleaned documentation declares what its lines at the margin declare. -/
theorem documented_cleanDoc (doc : Text) :
    documented (cleanDoc doc) = declaredBy (marginLines doc) := by
  obtain ⟨front, back, hlines, -⟩ := exists_dropEmptyEnds (marginLines doc)
  have hsub : dropEmptyEnds (marginLines doc) ⊆ marginLines doc := fun line hline => by
    rw [hlines]
    exact List.mem_append_right _ (List.mem_append_left _ hline)
  rw [cleanDoc, documented_join (fun line hline => feed_not_mem_marginLines (hsub hline))
    (getLast?_dropEmptyEnds _), declaredBy_dropEmptyEnds]

/-! ### Carriage returns -/

theorem declaredBy_of_isReturned (h : List.Forall₂ IsReturned returned lines) :
    declaredBy returned = declaredBy lines := by
  have htidy : returned.map (tidyFrom 0) = lines.map (tidyFrom 0) := by
    induction h with
    | nil => rfl
    | cons hline _ ih => rw [List.map_cons, List.map_cons, hline.tidy_eq, ih]
  have hall : (∀ line ∈ returned, line.all (!isForbidden ·) = true)
      ↔ ∀ line ∈ lines, line.all (!isForbidden ·) = true := by
    clear htidy
    induction h with
    | nil => exact Iff.rfl
    | @cons line' line lines' lines hline _ ih =>
      have hsame : line'.all (!isForbidden ·) = line.all (!isForbidden ·) := by
        rcases hline with rfl | rfl
        · rfl
        · rw [List.all_append]
          exact Bool.and_true _
      rw [List.forall_mem_cons, List.forall_mem_cons, ih, hsame]
  simp only [declaredBy, htidy, hall]

theorem blanksInFront_of_isReturned {line' line : Text} (h : IsReturned line' line)
    (hsolid : isAllBlank line = false) : blanksInFront line' = blanksInFront line := by
  rcases h with rfl | rfl
  · rfl
  · have hshort : (line.takeWhile isBlank).length ≠ line.length := fun hlen => by
      have hall := List.takeWhile_eq_self_iff.1 ((List.takeWhile_prefix isBlank).eq_of_length hlen)
      rw [isAllBlank, List.all_eq_true.2 hall] at hsolid
      exact absurd hsolid (by decide)
    rw [blanksInFront, List.takeWhile_append, if_neg hshort, blanksInFront]

theorem commonMargin_of_isReturned (h : List.Forall₂ IsReturned returned lines) :
    commonMargin returned = commonMargin lines := by
  have hfronts : (returned.filter (!isAllBlank ·)).map blanksInFront
      = (lines.filter (!isAllBlank ·)).map blanksInFront := by
    induction h with
    | nil => rfl
    | cons hline _ ih =>
      rw [List.filter_cons, List.filter_cons, hline.isAllBlank_eq]
      split
      · next hsolid =>
        rw [List.map_cons, List.map_cons, ih,
          blanksInFront_of_isReturned hline (by simpa using hsolid)]
      · exact ih
  rw [commonMargin, hfronts, commonMargin]

/-- Moving lines to the margin keeps carriage returns at their ends. -/
theorem marginLines_of_hasReturns {text : Text} (h : HasReturns text doc) :
    List.Forall₂ IsReturned (marginLines text) (marginLines doc) := by
  have hlines : List.Forall₂ IsReturned ((splitOn '\n' text).map (expandTabs 0))
      ((splitOn '\n' doc).map (expandTabs 0)) :=
    List.forall₂_map_left_iff.2 (List.forall₂_map_right_iff.2
      (h.lines.imp fun _ _ hline => hline.expandTabs 0))
  rw [marginLines, marginLines]
  generalize (splitOn '\n' text).map (expandTabs 0) = lines' at hlines
  generalize (splitOn '\n' doc).map (expandTabs 0) = lines at hlines
  cases hlines with
  | nil => exact .nil
  | cons hfirst hrest =>
    refine .cons hfirst.trimStart ?_
    rw [commonMargin_of_isReturned hrest]
    exact List.forall₂_map_left_iff.2 (List.forall₂_map_right_iff.2
      (hrest.imp fun _ _ hline => hline.drop _))

/-! ### Literals -/

/-- A literal that is raw, or has no line that is continued on the next, declares the same fields in a
file whose lines end with a carriage return and a line feed. -/
theorem documented_withReturns {literal : StringLiteral}
    (h : literal.isRaw = true ∨ continuesLine literal.body = false) :
    documented (cleanDoc { literal with body := withReturns literal.body }.text)
      = documented (cleanDoc literal.text) := by
  have htext : HasReturns { literal with body := withReturns literal.body }.text literal.text := by
    have hraw : StringLiteral.isRaw { literal with body := withReturns literal.body }
        = literal.isRaw := rfl
    rw [StringLiteral.text, StringLiteral.text, hraw]
    split
    · exact .of_withReturns literal.body
    · next hcooked => exact hasReturns_decodeText (h.resolve_left hcooked)
  rw [documented_cleanDoc, documented_cleanDoc]
  exact declaredBy_of_isReturned (marginLines_of_hasReturns htext)

/-- A backslash in front of a line feed stands for itself in a raw literal, and escapes of other
characters are no matter. -/
theorem documented_withReturns_escapes :
    let raw : StringLiteral := ⟨['r'], "\n    :steps:\n     * a \\\n       b\n"⟩
    let cooked : StringLiteral := ⟨[], "Reads \\\"a\\\".\n\n    :id: \\t1\n\n      :tags: x\n    "⟩
    documented (cleanDoc { raw with body := withReturns raw.body }.text) = documented (cleanDoc raw.text)
      ∧ continuesLine cooked.body = false
      ∧ documented (cleanDoc { cooked with body := withReturns cooked.body }.text)
        = documented (cleanDoc cooked.text) :=
  ⟨documented_withReturns (.inl (by decide)), by decide +kernel,
    documented_withReturns (.inr (by decide +kernel))⟩

/-- A field whose value is continued on the next line by a backslash loses what stands there. -/
theorem documented_withReturns_continued :
    let literal : StringLiteral := ⟨[], ":requirement: a\\\nb"⟩
    (documented (cleanDoc literal.text)).get? "requirement" = some "ab".toList
      ∧ (documented (cleanDoc { literal with body := withReturns literal.body }.text)).get?
        "requirement" = some "a\\".toList := by
  decide +kernel

end Testbook
