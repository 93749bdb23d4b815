import Testbook.Proofs.Markup.Break
import Testbook.Proofs.Markup.Lines
import Testbook.Proofs.Text.Tabs

/-!
Two texts with an empty line between them. What stands below is read as if it stood alone, with
higher line numbers, when its first line starts at the margin and has no mark (`parse_joined`). The
mark is looked for on the line as it stands in the text; reading expands its tabs and trims it, and
neither makes a mark of what is none (`IsUnmarkedText.isUnmarked`).
-/

namespace Testbook.Markup

open Testbook.Text

/-- A line, as it stands in a text, that starts at the margin and has no mark. -/
structure IsUnmarkedText (line : Text) : Prop where
  solid : isAllBlank line = false
  noSpace : line.head? ≠ some ' '
  noTab : line.head? ≠ some '\t'
  noField : field? line = none
  noBullet : bullet? line = none
  noEnumerator : RawEnumerator.read? line = none

variable {text : Text} {c : Char}

/-! ### Lines and the tabs in them -/

/-- A character that is not blank stays, and the rest is read on its own. -/
theorem tidyFrom_append (h : isBlank c = false) (column : Nat) (front rest : Text) :
    ∃ column', tidyFrom column (front ++ c :: rest)
      = expandTabs column front ++ c :: tidyFrom column' rest := by
  have hc : c ≠ '\t' := fun heq => absurd (heq ▸ h) (by decide)
  induction front generalizing column with
  | nil => exact ⟨column + 1, by
      rw [List.nil_append, tidyFrom, expandTabs_cons hc, trimEnd_cons_of_solid h]
      rfl⟩
  | cons d front ih =>
    have hsolid (k : Nat) : isAllBlank (expandTabs k (front ++ c :: rest)) = false := by
      rw [isAllBlank_expandTabs, isAllBlank, List.all_append, List.all_cons, h, Bool.false_and,
        Bool.and_false]
    by_cases hd : d = '\t'
    · obtain ⟨column', hread⟩ := ih (column + (8 - column % 8))
      refine ⟨column', ?_⟩
      rw [tidyFrom] at hread
      rw [hd, List.cons_append, tidyFrom, expandTabs_tab, trimEnd_append_of_solid (hsolid _), hread,
        expandTabs_tab, List.append_assoc]
    · obtain ⟨column', hread⟩ := ih (column + 1)
      refine ⟨column', ?_⟩
      rw [tidyFrom] at hread
      rw [List.cons_append, tidyFrom, expandTabs_cons hd, ← List.singleton_append,
        trimEnd_append_of_solid (hsolid _), hread, expandTabs_cons hd]
      rfl

theorem tidyFrom_subset (h : isBlank c = false) (column : Nat) (hmem : c ∈ tidyFrom column text) :
    c ∈ text := by
  have hmem' : c ∈ solid (tidyFrom column text) := List.mem_filter.2 ⟨hmem, by simp [h]⟩
  rw [tidyFrom, solid_trimEnd, solid_expandTabs] at hmem'
  exact (List.mem_filter.1 hmem').1

/-- A line is cut at the same sign before and after reading. -/
theorem cut_tidyFrom {p : Char → Bool} (hp : ∀ c, p c = true → isBlank c = false) (column : Nat)
    {sign : Char} {behind : Text} (h : (tidyFrom column text).dropWhile (!p ·) = sign :: behind) :
    ∃ behind' column', text.dropWhile (!p ·) = sign :: behind' ∧ behind = tidyFrom column' behind'
      ∧ (tidyFrom column text).takeWhile (!p ·) = expandTabs column (text.takeWhile (!p ·)) := by
  have hcut := List.takeWhile_append_dropWhile (p := (!p ·)) (l := text)
  cases hd : text.dropWhile (!p ·) with
  | nil =>
    -- a sign that is left after reading was there before
    have hsign : p sign = true := by
      have hhead := List.head?_dropWhile_not (!p ·) (tidyFrom column text)
      rw [h] at hhead
      simpa using hhead
    have hmem : sign ∈ tidyFrom column text :=
      (List.dropWhile_sublist (!p ·)).subset (h ▸ List.mem_cons_self)
    have hnone := List.dropWhile_eq_nil_iff.1 hd sign (tidyFrom_subset (hp sign hsign) column hmem)
    simp [hsign] at hnone
  | cons sign' behind' =>
    have hsign' : p sign' = true := by
      have hhead := List.head?_dropWhile_not (!p ·) text
      rw [hd] at hhead
      simpa using hhead
    rw [hd] at hcut
    obtain ⟨column', hread⟩ :=
      tidyFrom_append (hp sign' hsign') column (text.takeWhile (!p ·)) behind'
    rw [hcut] at hread
    have hfront : ∀ c ∈ expandTabs column (text.takeWhile (!p ·)), (!p c) = true := by
      intro c hc
      by_cases hb : isBlank c = true
      · cases hpc : p c with
        | false => rfl
        | true => rw [hp c hpc] at hb; exact absurd hb (by decide)
      · have hc' : c ∈ solid (expandTabs column (text.takeWhile (!p ·))) :=
          List.mem_filter.2 ⟨hc, by simpa using hb⟩
        rw [solid_expandTabs] at hc'
        exact List.all_eq_true.1 List.all_takeWhile c (List.mem_filter.1 hc').1
    rw [hread, List.dropWhile_append_of_pos hfront,
      List.dropWhile_cons_of_neg (by simp [hsign'])] at h
    obtain ⟨rfl, rfl⟩ := List.cons.inj h
    refine ⟨behind', column', rfl, rfl, ?_⟩
    rw [hread, List.takeWhile_append_of_pos hfront, List.takeWhile_cons_of_neg (by simp [hsign']),
      List.append_nil]

/-- What stands behind a mark is set off by blanks also when the tabs are expanded. -/
theorem behindMark?_tidyFrom {column : Nat} (h : behindMark? text = none) :
    behindMark? (tidyFrom column text) = none := by
  rw [← Option.not_isSome_iff_eq_none, isSome_behindMark?] at h ⊢
  cases text with
  | nil => exact absurd rfl h
  | cons c cs =>
    have hc : isBlank c = false := by simpa using h
    obtain ⟨column', hread⟩ := tidyFrom_append hc column [] cs
    rw [List.nil_append] at hread
    rw [hread]
    exact h

/-! ### Marks -/

theorem isFieldName_expandTabs (column : Nat) (text : Text) :
    isFieldName (expandTabs column text) = isFieldName text := by
  cases text with
  | nil => rfl
  | cons c cs =>
    have hne : (expandTabs column (c :: cs)).isEmpty = (c :: cs).isEmpty :=
      List.isEmpty_eq_false_iff.2 (expandTabs_ne_nil (List.cons_ne_nil c cs))
    rw [isFieldName, hne, head?_expandTabs, getLast?_expandTabs, isFieldName]

/-- No numeral has a blank in it. -/
theorem expandTabs_of_isNumeral {column : Nat} (h : isNumeral (expandTabs column text) = true) :
    expandTabs column text = text := by
  have hspace : ' ' ∉ expandTabs column text :=
    fun hmem => ne_of_isNumeral h hmem (by decide) rfl
  clear h
  induction text generalizing column with
  | nil => rfl
  | cons c cs ih =>
    by_cases hc : c = '\t'
    · have hwidth : 8 - column % 8 ≠ 0 := by omega
      rw [hc, expandTabs_tab] at hspace
      exact absurd (List.mem_append_left _ (List.mem_replicate.2 ⟨hwidth, rfl⟩)) hspace
    · rw [expandTabs_cons hc, List.mem_cons, not_or] at hspace
      rw [expandTabs_cons hc, ih hspace.2]

theorem bullet?_tidyFrom {column : Nat} (h : bullet? (c :: text) = none) :
    bullet? (c :: tidyFrom column text) = none := by
  rw [bullet?] at h ⊢
  split at h
  · next hsign =>
    rw [if_pos hsign, behindMark?_tidyFrom (Option.map_eq_none_iff.1 h), Option.map_none]
  · next hsign => exact if_neg hsign

theorem field?_tidyFrom {column : Nat} (h : field? (c :: text) = none) :
    field? (c :: tidyFrom column text) = none := by
  by_cases hc : c = ':'
  · subst hc
    have hsolid : ∀ d : Char, (d == ':') = true → isBlank d = false := by
      intro d hd
      rw [beq_iff_eq.1 hd]
      decide
    simp only [field?] at h ⊢
    cases hd : (tidyFrom column text).dropWhile (· != ':') with
    | nil => rfl
    | cons sign behind =>
      obtain ⟨behind', column', htext, rfl, hname⟩ := cut_tidyFrom (p := (· == ':')) hsolid column hd
      have hname' : (tidyFrom column text).takeWhile (· != ':')
          = expandTabs column (text.takeWhile (· != ':')) := hname
      have htext' : text.dropWhile (· != ':') = sign :: behind' := htext
      simp only [htext'] at h
      simp only [hname', isFieldName_expandTabs]
      split at h
      · next hfield =>
        rw [if_pos hfield, behindMark?_tidyFrom (Option.map_eq_none_iff.1 h), Option.map_none]
      · next hbad => exact if_neg hbad
  · unfold field?
    split
    · next cs heq => exact absurd (List.cons.inj heq).1 hc
    · rfl

theorem readInner?_tidyFrom {opened : Bool} {column : Nat}
    (h : RawEnumerator.readInner? opened text = none) :
    RawEnumerator.readInner? opened (tidyFrom column text) = none := by
  have hsolid : ∀ d, isCloser d = true → isBlank d = false := by
    intro d hd
    simp only [isCloser, Bool.or_eq_true, decide_eq_true_eq] at hd
    rcases hd with rfl | rfl <;> decide
  simp only [RawEnumerator.readInner?] at h ⊢
  cases hd : (tidyFrom column text).dropWhile (!isCloser ·) with
  | nil => rfl
  | cons sign behind =>
    obtain ⟨behind', column', htext, rfl, hnumeral⟩ := cut_tidyFrom hsolid column hd
    simp only [htext] at h
    simp only [hnumeral]
    split
    · next hcond =>
      -- a numeral has no tab that could have been expanded
      rw [expandTabs_of_isNumeral (Bool.and_eq_true_iff.1 hcond).1] at hcond
      rw [if_pos hcond] at h
      rw [behindMark?_tidyFrom (Option.map_eq_none_iff.1 h), Option.map_none]
    · rfl

/-- Reading makes no mark of what is none. -/
theorem IsUnmarkedText.isUnmarked {line : Text} (h : IsUnmarkedText line) (number : Nat) :
    Line.IsUnmarked ⟨number, tidyFrom 0 line⟩ := by
  obtain ⟨c, cs, rfl⟩ : ∃ c cs, line = c :: cs :=
    List.exists_cons_of_ne_nil fun heq => absurd (heq ▸ h.solid) (by decide)
  have htab : c ≠ '\t' := fun heq => h.noTab (by rw [heq]; rfl)
  have hspace : c ≠ ' ' := fun heq => h.noSpace (by rw [heq]; rfl)
  have hsolid : isAllBlank (tidyFrom 0 (c :: cs)) = false := by
    rw [tidyFrom, isAllBlank_trimEnd, isAllBlank_expandTabs, h.solid]
  have hread : tidyFrom 0 (c :: cs) = c :: tidyFrom 1 cs := by
    rw [tidyFrom, expandTabs_cons htab]
    cases hc : isBlank c with
    | false => exact trimEnd_cons_of_solid hc _
    | true =>
      have hcs : isAllBlank (expandTabs 1 cs) = false := by
        have hline := h.solid
        rw [isAllBlank, List.all_cons, hc, Bool.true_and] at hline
        rw [isAllBlank_expandTabs, isAllBlank, hline]
      exact trimEnd_append_of_solid hcs [c]
  rw [hread] at hsolid ⊢
  refine ⟨hsolid, ?_, field?_tidyFrom h.noField, bullet?_tidyFrom h.noBullet, ?_⟩
  · simp [Line.indent, hspace]
  · have hnone := h.noEnumerator
    by_cases hopen : c = '('
    · subst hopen
      exact readInner?_tidyFrom hnone
    · have hread? (t : Text) : RawEnumerator.read? (c :: t) = RawEnumerator.readInner? false (c :: t) := by
        unfold RawEnumerator.read?
        split
        · next heq => exact absurd (List.cons.inj heq).1 hopen
        · rfl
      rw [hread?] at hnone ⊢
      rw [← hread]
      exact readInner?_tidyFrom hnone

/-! ### Texts -/

/-- What follows a line feed has lines of its own. -/
theorem rawLines_append_feed (front rest : Text) :
    rawLines (front ++ '\n' :: rest) = rawLines (front ++ ['\n']) ++ rawLines rest := by
  induction front using lines_induction with
  | nil =>
    have hnil : '\n' ∉ ([] : Text) := List.not_mem_nil
    have hfeed := rawLines_append hnil []
    rw [List.nil_append] at hfeed
    rw [List.nil_append, List.nil_append, hfeed]
    exact rawLines_append hnil rest
  | last line hline hne => rw [rawLines_append hline, rawLines_append hline]; rfl
  | cons line front hline ih =>
    rw [List.append_assoc, List.append_assoc, List.cons_append, List.cons_append,
      rawLines_append hline, rawLines_append hline, ih]
    rfl

/-- Two line feeds end the last line and add an empty one, or two if there was no last line. -/
theorem rawLines_two_feeds (front : Text) :
    ∃ blanks, rawLines (front ++ ['\n', '\n']) = rawLines front ++ blanks ∧ blanks ≠ []
      ∧ ∀ line ∈ blanks, line = [] := by
  have hfeed : rawLines ['\n'] = [[]] := rfl
  induction front using lines_induction with
  | nil => exact ⟨[[], []], rfl, by simp, by simp⟩
  | last line hline hne =>
    refine ⟨[[]], ?_, by simp, by simp⟩
    rw [rawLines_append hline, hfeed, rawLines_of_not_mem hline hne]
    rfl
  | cons line front hline ih =>
    obtain ⟨blanks, hlines, hblanks⟩ := ih
    refine ⟨blanks, ?_, hblanks⟩
    rw [List.append_assoc, List.cons_append, rawLines_append hline, hlines, rawLines_append hline]
    rfl

/-- The lines below have the numbers that they have alone, moved on by the number of lines above. -/
theorem readLines_append_feed (front rest : Text) :
    readLines (front ++ '\n' :: rest) = readLines (front ++ ['\n'])
      ++ renumberAll (· + (rawLines (front ++ ['\n'])).length) (readLines rest) := by
  rw [readLines, rawLines_append_feed, List.mapIdx_append, readLines, readLines, renumberAll]
  refine congrArg _ (List.ext_getElem? fun i => ?_)
  rw [List.getElem?_mapIdx, List.getElem?_map, List.getElem?_mapIdx, Option.map_map]
  simp only [Line.renumber, Function.comp_def, Nat.add_right_comm]

theorem readLines_two_feeds (front : Text) :
    ∃ blanks, readLines (front ++ ['\n', '\n']) = readLines front ++ blanks ∧ blanks ≠ []
      ∧ ∀ l ∈ blanks, l.isBlank = true := by
  obtain ⟨blanks, hlines, hne, hblanks⟩ := rawLines_two_feeds front
  refine ⟨_, by rw [readLines, hlines, List.mapIdx_append]; rfl, by simpa using hne, fun l hl => ?_⟩
  obtain ⟨i, hi, rfl⟩ := List.mem_mapIdx.1 hl
  rw [Line.isBlank, hblanks _ (List.getElem_mem hi)]
  rfl

theorem exists_head?_readLines {line : Text} (h : (rawLines text).head? = some line) :
    (readLines text).head? = some ⟨1, tidyFrom 0 line⟩ := by
  cases hlines : rawLines text with
  | nil => simp [hlines] at h
  | cons first rest =>
    rw [hlines, List.head?_cons, Option.some.injEq] at h
    rw [readLines, hlines, List.mapIdx_cons, h]
    rfl

theorem findBadCharacter_append_feed {front rest : Text}
    (hfront : findBadCharacter 1 (splitOn '\n' front) = none)
    (hrest : findBadCharacter 1 (splitOn '\n' rest) = none) :
    findBadCharacter 1 (splitOn '\n' (front ++ '\n' :: rest)) = none := by
  rw [findBadCharacter_eq_none] at hfront hrest ⊢
  intro line hline
  rw [splitOn_append_sep, List.mem_append] at hline
  exact hline.elim (hfront line) (hrest line)

/-- Two texts with an empty line between them can be read together if each can be read. -/
theorem parse_two_feeds {above below : Text} {upper lower : Document}
    (habove : parse above = .ok upper) (hbelow : parse below = .ok lower) :
    ∃ blanks, blanks ≠ [] ∧ (∀ l ∈ blanks, l.isBlank = true)
      ∧ parse (above ++ '\n' :: '\n' :: below)
        = .ok (readDocument (readLines above ++ (blanks
          ++ renumberAll (· + (rawLines (above ++ ['\n', '\n'])).length) (readLines below)))) := by
  obtain ⟨hupper, -⟩ := parse_eq_ok habove
  obtain ⟨hlower, -⟩ := parse_eq_ok hbelow
  obtain ⟨blanks, hlines, hne, hblanks⟩ := readLines_two_feeds above
  have hread := readLines_append_feed (above ++ ['\n']) below
  simp only [List.append_assoc, List.singleton_append] at hread
  have hnil : findBadCharacter 1 (splitOn '\n' []) = none := rfl
  have hempty : findBadCharacter 1 (splitOn '\n' ('\n' :: below)) = none :=
    findBadCharacter_append_feed hnil hlower
  refine ⟨blanks, hne, hblanks, ?_⟩
  rw [parse_of_allowed (findBadCharacter_append_feed hupper hempty), hread, hlines,
    List.append_assoc]

/-- Two texts with an empty line between them are read one after the other, when the second starts
with a line at the margin that has no mark: its messages name the lines that they name in the second
text alone, moved on by the number of lines above. -/
theorem parse_joined {above below line : Text} {upper lower : Document}
    (habove : parse above = .ok upper) (hbelow : parse below = .ok lower)
    (hline : (rawLines below).head? = some line) (hmark : IsUnmarkedText line) :
    parse (above ++ '\n' :: '\n' :: below) = .ok ⟨upper.blocks ++ lower.blocks,
      upper.messages
        ++ lower.messages.map (Message.renumber (· + (rawLines (above ++ ['\n', '\n'])).length))⟩ := by
  obtain ⟨blanks, hne, hblanks, hread⟩ := parse_two_feeds habove hbelow
  obtain ⟨-, rfl⟩ := parse_eq_ok habove
  obtain ⟨-, rfl⟩ := parse_eq_ok hbelow
  have hbreak : IsBreak blanks
      (renumberAll (· + (rawLines (above ++ ['\n', '\n'])).length) (readLines below)) := by
    refine ⟨hblanks, fun l hl => ?_, fun _ => hne⟩
    rw [renumberAll, List.head?_map, exists_head?_readLines hline] at hl
    cases hl
    exact hmark.isUnmarked _
  rw [hread, readDocument_break hbreak, readDocument_renumber]
  rfl

/-- The first text announces a literal block, which does not come, and each has a line that does
not fit. -/
theorem parse_joined_announced :
    ∃ upper lower, parse "* a\nb::" = .ok upper ∧ parse "See\n  this" = .ok lower
      ∧ upper.messages = [⟨2, .unexpectedUnindent .bullet⟩]
      ∧ lower.messages = [⟨2, .unexpectedIndentation⟩]
      ∧ parse "* a\nb::\n\nSee\n  this" = .ok ⟨upper.blocks ++ lower.blocks,
        [⟨2, .unexpectedUnindent .bullet⟩, ⟨5, .unexpectedIndentation⟩]⟩ := by
  have habove : parse "* a\nb::" = .ok (readDocument (readLines "* a\nb::")) :=
    parse_of_allowed (by decide +kernel)
  have hbelow : parse "See\n  this" = .ok (readDocument (readLines "See\n  this")) :=
    parse_of_allowed (by decide +kernel)
  have hupper : (readDocument (readLines "* a\nb::")).messages
      = [⟨2, .unexpectedUnindent .bullet⟩] := by
    decide +kernel
  have hlower : (readDocument (readLines "See\n  this")).messages
      = [⟨2, .unexpectedIndentation⟩] := by
    decide +kernel
  have hmark : IsUnmarkedText "See".toList :=
    ⟨by decide, by decide, by decide, by decide, by decide, by decide⟩
  have hjoined := parse_joined habove hbelow (by decide +kernel) hmark
  rw [hupper, hlower] at hjoined
  exact ⟨_, _, habove, hbelow, hupper, hlower, hjoined⟩

end Testbook.Markup
