import Testbook.Proofs.Html.OrderedList
import Testbook.Proofs.Markup.FieldList
import Testbook.Proofs.Markup.Indent
import Testbook.Proofs.Markup.NumberedList

/-!
Numbered steps from the documentation to the pairs. Steps and results that are written as numbered
lines in two fields are read as two lists, rendered as HTML and read again as its items, and each
step meets its own result (`cutSteps_stepDocumentation`). When there are more of the one than of
the other, the two values stay whole.
-/

namespace Testbook

open Testbook.Text Testbook.Markup Testbook.Html

/-- The lines of a field body that holds a numbered list. -/
def indentedLines (start : Nat) (texts : List Text) : List Text :=
  (numberedLines start texts).map ("    ".toList ++ ·)

/-- The lines of a documentation with steps and expected results. -/
def stepLines (start : Nat) (steps results : List Text) : List Text :=
  [":steps:".toList, []] ++ indentedLines start steps
    ++ [[], ":expectedresults:".toList, []] ++ indentedLines start results

/-- A documentation with numbered steps and expected results. -/
def stepDocumentation (start : Nat) (steps results : List Text) : Text :=
  join ['\n'] (stepLines start steps results)

/-- An item of plain text as HTML. -/
def itemHtml (text : Text) : Text := "<p>".toList ++ renderInline text ++ "</p>".toList

variable {start : Nat} {texts steps results : List Text}

/-! ### Lines -/

theorem isLine_numberedLine {n : Nat} {text : Text} (h : IsPlain text) :
    IsLine (numberedLine n text) := by
  have hfront : numberedLine n text = decimal n ++ ['.', ' '] ++ text := by
    rw [numberedLine, List.append_assoc]
    rfl
  rw [hfront]
  refine .append ?_ ?_ h.ne_nil h.isLine
  · rw [List.all_append, Bool.and_eq_true]
    refine ⟨List.all_eq_true.2 fun c hc => ?_, by decide⟩
    rw [isForbidden_of_isDigit (isDigit_of_mem_decimal hc)]
    rfl
  · refine List.not_mem_append (fun hc => ?_) (by decide)
    exact absurd (isDigit_of_mem_decimal hc) (by decide)

theorem isLine_indentedLines (h : ∀ t ∈ texts, IsPlain t) :
    ∀ line ∈ indentedLines start texts, IsLine line := by
  intro line hline
  obtain ⟨numbered, hnumbered, rfl⟩ := List.mem_map.1 hline
  obtain ⟨n, text, htext, rfl⟩ := exists_of_mem_numberedLines hnumbered
  exact .append (by decide) (by decide) (numberedLine_ne_nil n text)
    (isLine_numberedLine (h text htext))

theorem isLine_stepLines (hsteps : ∀ t ∈ steps, IsPlain t) (hresults : ∀ t ∈ results, IsPlain t) :
    ∀ line ∈ stepLines start steps results, IsLine line := by
  have hheads : ∀ line ∈ [":steps:".toList, []], IsLine line := by
    simp only [List.forall_mem_cons]
    exact ⟨⟨by decide, by decide, rfl⟩, ⟨by decide, by decide, rfl⟩, by simp⟩
  have hheads' : ∀ line ∈ [[], ":expectedresults:".toList, []], IsLine line := by
    simp only [List.forall_mem_cons]
    exact ⟨⟨by decide, by decide, rfl⟩, ⟨by decide, by decide, rfl⟩, ⟨by decide, by decide, rfl⟩,
      by simp⟩
  simp only [stepLines, List.forall_mem_append]
  exact ⟨⟨⟨hheads, isLine_indentedLines hsteps⟩, hheads'⟩, isLine_indentedLines hresults⟩

theorem getLast?_stepLines (hne : results ≠ []) :
    (stepLines start steps results).getLast? ≠ some [] := by
  have hlines : indentedLines start results ≠ [] :=
    mt List.map_eq_nil_iff.1 (numberedLines_ne_nil start hne)
  obtain ⟨front, last, hlast⟩ :=
    (List.eq_nil_or_concat (indentedLines start results)).resolve_left hlines
  rw [List.concat_eq_append] at hlast
  have hmem : last ∈ indentedLines start results := by simp [hlast]
  obtain ⟨numbered, -, rfl⟩ := List.mem_map.1 hmem
  rw [stepLines, hlast, ← List.append_assoc, List.getLast?_concat]
  simp

/-! ### Field bodies -/

/-- The lines below the name of a field that holds a numbered list. -/
def bodyLines (start : Nat) (texts blanks : List Text) : List Line :=
  unnumbered ([] :: indentedLines start texts ++ blanks)

/-- Below the name everything is indented. -/
theorem bodyLines_eq {blanks : List Text} (hblanks : ∀ t ∈ blanks, t = []) :
    bodyLines start texts blanks
      = (unnumbered ([] :: numberedLines start texts ++ blanks)).map (Line.indented 4) := by
  have hblank : Line.indented 4 ⟨0, []⟩ = ⟨0, []⟩ := rfl
  have hnumbered : unnumbered (indentedLines start texts)
      = (unnumbered (numberedLines start texts)).map (Line.indented 4) := by
    rw [indentedLines, unnumbered, unnumbered, List.map_map, List.map_map]
    refine List.map_congr_left fun line hline => ?_
    obtain ⟨n, text, -, rfl⟩ := exists_of_mem_numberedLines hline
    rw [Function.comp_apply, Function.comp_apply,
      Line.indented_of_solid (isFlush_numberedLine 0 n text).1]
    rfl
  have hend : unnumbered blanks = (unnumbered blanks).map (Line.indented 4) := by
    rw [unnumbered, List.map_map]
    refine List.map_congr_left fun t ht => ?_
    rw [hblanks t ht]
    rfl
  rw [bodyLines, unnumbered_append, unnumbered_cons, hnumbered, hend, unnumbered_append,
    unnumbered_cons, List.map_append, List.map_cons, hblank, ← hend]

theorem isInner_bodyLines {blanks : List Text} (hblanks : ∀ t ∈ blanks, t = []) :
    ∀ l ∈ bodyLines start texts blanks, l.isInner = true := by
  rw [bodyLines_eq hblanks]
  intro l hl
  obtain ⟨k, -, rfl⟩ := List.mem_map.1 hl
  exact Line.isInner_indented (by decide)

/-- Moved to the margin, the lines of the body are the numbered lines below a blank line. -/
theorem flushed_bodyLines {blanks : List Text} (hne : texts ≠ []) (hblanks : ∀ t ∈ blanks, t = []) :
    flushed (bodyLines start texts blanks) = ⟨0, []⟩ :: unnumbered (numberedLines start texts) := by
  have hsolid : ∀ l ∈ unnumbered (numberedLines start texts), l.isBlank = false ∧ l.indent = 0 := by
    intro l hl
    obtain ⟨line, hline, rfl⟩ := List.mem_map.1 hl
    obtain ⟨n, text, -, rfl⟩ := exists_of_mem_numberedLines hline
    exact isFlush_numberedLine 0 n text
  have hlines : unnumbered (numberedLines start texts) ≠ [] :=
    mt List.map_eq_nil_iff.1 (numberedLines_ne_nil start hne)
  obtain ⟨l, hl⟩ := List.exists_mem_of_ne_nil _ hlines
  have hblank : ∀ l ∈ unnumbered blanks, l.isBlank = true := by
    intro l hl
    obtain ⟨t, ht, rfl⟩ := List.mem_map.1 hl
    rw [hblanks t ht]
    rfl
  have hempty : ∀ l ∈ unnumbered ([] :: numberedLines start texts ++ blanks),
      l.isBlank = true → l.text = [] := by
    intro l hl hb
    rw [unnumbered_append, unnumbered_cons, List.mem_append, List.mem_cons] at hl
    rcases hl with (rfl | hl) | hl
    · rfl
    · exact absurd hb (Bool.eq_false_iff.1 (hsolid l hl).1)
    · obtain ⟨t, ht, rfl⟩ := List.mem_map.1 hl
      exact hblanks t ht
  have hend : trimBlankEnd (⟨0, []⟩ :: unnumbered (numberedLines start texts))
      = ⟨0, []⟩ :: unnumbered (numberedLines start texts) :=
    trimBlankEnd_append_of_solid [⟨0, []⟩] hlines fun l hl => (hsolid l hl).1
  -- the indentation goes, then the blank lines at the end, and what is left is at the margin
  rw [bodyLines_eq hblanks, flushed_map_indented hempty, unnumbered_append,
    flushed_append_of_blank hblank]
  exact (flushed_of_margin (List.mem_cons_of_mem _ hl) (hsolid l hl).1 (hsolid l hl).2).trans hend

/-- The body is one numbered list of plain items. -/
theorem blocks_bodyLines {blanks : List Text} (hne : texts ≠ [])
    (hstart : start + texts.length ≤ maxOrdinal + 1) (h : ∀ t ∈ texts, IsPlain t)
    (hblanks : ∀ t ∈ blanks, t = []) :
    (readDocument (flushed (bodyLines start texts blanks))).blocks
      = [.numbered .arabic start (texts.map fun t => [.paragraph t])] := by
  have hitems : (texts.map fun t => (readDocument (unnumbered [t])).blocks)
      = texts.map fun t => [.paragraph t] :=
    List.map_congr_left fun t ht => (h t ht).blocks
  rw [flushed_bodyLines hne hblanks, blocks_blank_cons,
    blocks_numberedLines hne hstart fun t ht => (h t ht).isItemText, hitems]

/-! ### The two fields -/

/-- The list that numbered lines of plain texts make up. -/
def plainList (start : Nat) (texts : List Text) : Block :=
  .numbered .arabic start (texts.map fun t => [.paragraph t])

/-- The lines are those of two fields. -/
theorem unnumbered_stepLines : unnumbered (stepLines start steps results)
    = fieldLines [("steps".toList, bodyLines start steps [[]]),
        ("expectedresults".toList, bodyLines start results [])] := by
  have hsteps : ":steps:".toList = fieldHead "steps" := rfl
  have hresults : ":expectedresults:".toList = fieldHead "expectedresults" := rfl
  simp only [stepLines, fieldLines, bodyLines, unnumbered, hsteps, hresults, List.map_append,
    List.map_cons, List.map_nil, List.cons_append, List.nil_append, List.append_assoc,
    List.append_nil]

/-- What the documentation declares: each of the two names stands for its list. -/
theorem documented_stepDocumentation (hsteps : steps ≠ []) (hresults : results ≠ [])
    (hn : start + steps.length ≤ maxOrdinal + 1) (hm : start + results.length ≤ maxOrdinal + 1)
    (hstep : ∀ t ∈ steps, IsPlain t) (hresult : ∀ t ∈ results, IsPlain t) :
    documented (stepDocumentation start steps results)
      = .ofList [("steps".toList, fieldValue [plainList start steps]),
          ("expectedresults".toList, fieldValue [plainList start results])] := by
  have hblank : ∀ t ∈ [([] : Text)], t = [] := by simp
  have hnone : ∀ t ∈ ([] : List Text), t = [] := by simp
  have hfields : ∀ f ∈ [("steps".toList, bodyLines start steps [[]]),
      ("expectedresults".toList, bodyLines start results [])], IsField f := by
    simp only [List.forall_mem_cons]
    have hcolon : ':' ∉ "steps".toList ∧ ':' ∉ "expectedresults".toList := by decide
    exact ⟨⟨rfl, hcolon.1, isInner_bodyLines hblank⟩, ⟨rfl, hcolon.2, isInner_bodyLines hnone⟩,
      by simp⟩
  have hne : stepLines start steps results ≠ [] := List.cons_ne_nil _ _
  obtain ⟨document, hparse, hblocks⟩ :=
    parse_join hne (getLast?_stepLines hresults) (isLine_stepLines hstep hresult)
  rw [unnumbered_stepLines, blocks_fieldLines (List.cons_ne_nil _ _) hfields] at hblocks
  simp only [List.map_cons, List.map_nil, blocks_bodyLines hsteps hn hstep hblank,
    blocks_bodyLines hresults hm hresult hnone] at hblocks
  have hlower : lower "steps".toList = "steps".toList
      ∧ lower "expectedresults".toList = "expectedresults".toList := ⟨rfl, rfl⟩
  rw [documented, stepDocumentation, hparse]
  simp only [hblocks, declarations, declaredIn, declaredEntries, List.map_cons, List.map_nil,
    List.append_nil, hlower.1, hlower.2, plainList]

/-! ### The pairs -/

/-- The value of a field that holds a numbered list is read as the items of this list. -/
theorem orderedItems?_plainList :
    orderedItems? (fieldValue [plainList start texts]) = some (texts.map itemHtml) := by
  have hsimple : (texts.map fun t => [Block.paragraph t]).all isSimpleItem = true := by
    rw [List.all_map, List.all_eq_true]
    exact fun _ _ => rfl
  rw [plainList, orderedItems?_numbered, hsimple, List.map_map]
  exact congrArg some (List.map_congr_left fun t _ => trim_renderBlocks_paragraph .definitions t)

theorem pairSteps_plainList (hsteps : steps ≠ []) :
    pairSteps (fieldValue [plainList start steps]) (fieldValue [plainList start results])
      = if steps.length = results.length then (steps.map itemHtml).zip (results.map itemHtml)
        else [(fieldValue [plainList start steps], fieldValue [plainList start results])] := by
  have hsome : (steps.map itemHtml).isEmpty = false := by simpa using hsteps
  rw [pairSteps_of_lists orderedItems?_plainList orderedItems?_plainList]
  simp only [pairUp, hsome, List.length_map, Bool.not_false, Bool.true_and, decide_eq_true_eq]

/-- Numbered steps and expected results pair up item by item when there are as many of both, and
otherwise are one pair of the values as they are. -/
theorem cutSteps_stepDocumentation (hsteps : steps ≠ []) (hresults : results ≠ [])
    (hn : start + steps.length ≤ maxOrdinal + 1) (hm : start + results.length ≤ maxOrdinal + 1)
    (hstep : ∀ t ∈ steps, IsPlain t) (hresult : ∀ t ∈ results, IsPlain t) :
    ∃ v w, (documented (stepDocumentation start steps results)).get? "steps" = some v
      ∧ (documented (stepDocumentation start steps results)).get? "expectedresults" = some w
      ∧ cutSteps v w = .ok (if steps.length = results.length
          then (steps.map itemHtml).zip (results.map itemHtml) else [(v, w)]) := by
  have hfields := documented_stepDocumentation hsteps hresults hn hm hstep hresult
  refine ⟨fieldValue [plainList start steps], fieldValue [plainList start results], ?_, ?_, ?_⟩
  · rw [hfields]
    rfl
  · rw [hfields]
    rfl
  · rw [← pairSteps_plainList hsteps]
    exact (gives_cutSteps _ _).ok_of
      ⟨head?_fieldValue_numbered _ _ _, head?_fieldValue_numbered _ _ _⟩

/-- Two steps, numbered nine and ten. -/
theorem cutSteps_stepDocumentation_two :
    ∃ v w, (documented (":steps:\n\n    9. Run *it*\n    10. Stop\n\n"
          ++ ":expectedresults:\n\n    9. a < b\n    10. Done")).get? "steps" = some v
      ∧ (documented (":steps:\n\n    9. Run *it*\n    10. Stop\n\n"
          ++ ":expectedresults:\n\n    9. a < b\n    10. Done")).get? "expectedresults" = some w
      ∧ cutSteps v w = .ok [("<p>Run <em>it</em></p>".toList, "<p>a &lt; b</p>".toList),
          ("<p>Stop</p>".toList, "<p>Done</p>".toList)] := by
  have hsteps : ∀ t ∈ ["Run *it*".toList, "Stop".toList], IsPlain t := by decide +kernel
  have hresults : ∀ t ∈ ["a < b".toList, "Done".toList], IsPlain t := by decide +kernel
  have hdoc : stepDocumentation 9 ["Run *it*".toList, "Stop".toList] ["a < b".toList, "Done".toList]
      = ":steps:\n\n    9. Run *it*\n    10. Stop\n\n".toList
        ++ ":expectedresults:\n\n    9. a < b\n    10. Done".toList := by
    decide +kernel
  have hpairs : (["Run *it*".toList, "Stop".toList].map itemHtml).zip
        (["a < b".toList, "Done".toList].map itemHtml)
      = [("<p>Run <em>it</em></p>".toList, "<p>a &lt; b</p>".toList),
          ("<p>Stop</p>".toList, "<p>Done</p>".toList)] := by
    decide +kernel
  obtain ⟨v, w, hv, hw, hvw⟩ := @cutSteps_stepDocumentation 9 ["Run *it*".toList, "Stop".toList]
    ["a < b".toList, "Done".toList] (by simp) (by simp) (by decide) (by decide) hsteps hresults
  rw [hdoc] at hv hw
  exact ⟨v, w, hv, hw, hvw.trans (congrArg Except.ok hpairs)⟩

end Testbook
