import Testbook.Proofs.Markup.Break
import Testbook.Proofs.Markup.Lines
import Testbook.Record.Documented
import Mathlib.Data.List.TakeWhile
import Mathlib.Tactic.Push

/-!
Texts moved to the right. With spaces in front of each line a text declares the same fields. If it
had a line at the margin, it is now one block quote, which holds what the text held, with the same
messages (`documented_indentText`). Only the lines change in reading, each by itself
(`readLines_indentText`); then the indented block is moved back to the margin, where it is the lines
as they were, up to blank ones at its ends.
-/

namespace Testbook.Markup

open Testbook.Text

/-- A text with `k` spaces in front of each line that begins in it; `fresh` tells that one begins
with its first character. -/
def indentFrom (k : Nat) (fresh : Bool) : Text → Text
  | [] => []
  | c :: cs =>
    (if fresh then List.replicate k ' ' else []) ++ c :: indentFrom k (c = '\n') cs

/-- The text with `k` spaces in front of each line. -/
def indentText (k : Nat) (text : Text) : Text := indentFrom k true text

variable {k : Nat} {text line : Text} {lines : List Line}

/-! ### Texts -/

theorem indentFrom_append (h : '\n' ∉ line) (rest : Text) :
    indentFrom k false (line ++ rest) = line ++ indentFrom k false rest := by
  induction line with
  | nil => rfl
  | cons c cs ih =>
    rw [List.mem_cons, not_or] at h
    obtain ⟨hc, hcs⟩ := h
    have hfresh : decide (c = '\n') = false := decide_eq_false (Ne.symm hc)
    rw [List.cons_append, indentFrom, hfresh, ih hcs]
    rfl

theorem indentText_of_ne_nil (h : text ≠ []) :
    indentText k text = List.replicate k ' ' ++ indentFrom k false text := by
  cases text with
  | nil => exact absurd rfl h
  | cons c cs => rfl

theorem isEmpty_indentText : (indentText k text).isEmpty = text.isEmpty := by
  cases text with
  | nil => rfl
  | cons c cs => simp [indentText, indentFrom]

theorem indentText_line (h : '\n' ∉ line) (hne : line ≠ []) :
    indentText k line = List.replicate k ' ' ++ line := by
  have hline := indentFrom_append (k := k) h []
  rw [List.append_nil] at hline
  rw [indentText_of_ne_nil hne, hline, indentFrom, List.append_nil]

theorem indentText_append (h : '\n' ∉ line) (rest : Text) :
    indentText k (line ++ '\n' :: rest)
      = List.replicate k ' ' ++ line ++ '\n' :: indentText k rest := by
  rw [indentText_of_ne_nil (by simp), indentFrom_append h, List.append_assoc]
  rfl

theorem feed_not_mem_indented (h : '\n' ∉ line) : '\n' ∉ List.replicate k ' ' ++ line := by
  refine List.not_mem_append (fun hmem => ?_) h
  exact absurd (List.eq_of_mem_replicate hmem) (by decide)

/-- The lines are those of the text with the spaces in front. -/
theorem rawLines_indentText (k : Nat) (text : Text) :
    rawLines (indentText k text) = (rawLines text).map (List.replicate k ' ' ++ ·) := by
  induction text using lines_induction with
  | nil => rfl
  | last line hline hne =>
    rw [indentText_line hline hne, rawLines_of_not_mem hline hne, List.map_singleton]
    exact rawLines_of_not_mem (feed_not_mem_indented hline) (by simp [hne])
  | cons line rest hline ih =>
    rw [indentText_append hline, rawLines_append (feed_not_mem_indented hline), ih,
      rawLines_append hline, List.map_cons]

/-- Spaces are never refused. -/
theorem findBadCharacter_indentText (h : findBadCharacter 1 (splitOn '\n' text) = none) :
    findBadCharacter 1 (splitOn '\n' (indentText k text)) = none := by
  rw [findBadCharacter_eq_none] at h ⊢
  have hspaces (line : Text) (hline : line.all (!isForbidden ·) = true) :
      (List.replicate k ' ' ++ line).all (!isForbidden ·) = true := by
    rw [List.all_append, hline, Bool.and_true, List.all_replicate]
    split <;> rfl
  induction text using lines_induction with
  | nil => exact h
  | last line hline hne =>
    rw [splitOn_of_not_mem hline, List.forall_mem_singleton] at h
    rw [indentText_line hline hne, splitOn_of_not_mem (feed_not_mem_indented hline),
      List.forall_mem_singleton]
    exact hspaces line h
  | cons line rest hline ih =>
    rw [splitOn_append hline, List.forall_mem_cons] at h
    rw [indentText_append hline, splitOn_append (feed_not_mem_indented hline),
      List.forall_mem_cons]
    exact ⟨hspaces line h.1, ih h.2⟩

/-! ### Lines -/

/-- Spaces in front of a line move what is read of it to the right. -/
theorem indented_trimEnd (number : Nat) (raw : Text) :
    Line.indented k ⟨number, trimEnd raw⟩ = ⟨number, trimEnd (List.replicate k ' ' ++ raw)⟩ := by
  have hblank : Line.isBlank ⟨number, trimEnd raw⟩ = isAllBlank raw := isAllBlank_trimEnd raw
  cases hraw : isAllBlank raw with
  | true =>
    have hall : isAllBlank (List.replicate k ' ' ++ raw) = true := by
      rw [isAllBlank, List.all_append, ← isAllBlank, ← isAllBlank, hraw, Bool.and_true,
        ← solid_eq_nil, solid_replicate_space]
    rw [Line.indented_of_blank (hblank.trans hraw), trimEnd_of_isAllBlank hraw,
      trimEnd_of_isAllBlank hall]
  | false =>
    rw [Line.indented_of_solid (hblank.trans hraw), trimEnd_append_of_solid hraw]

/-- The text moved to the right is read as its lines moved to the right. -/
theorem readLines_indentText (htab : '\t' ∉ text) :
    readLines (indentText k text) = (readLines text).map (Line.indented k) := by
  refine List.ext_getElem? fun i => ?_
  rw [readLines, readLines, rawLines_indentText, List.getElem?_mapIdx, List.getElem?_map,
    List.getElem?_map, List.getElem?_mapIdx]
  cases hraw : (rawLines text)[i]? with
  | none => rfl
  | some raw =>
    have hmem : raw ∈ rawLines text := List.mem_of_getElem? hraw
    have hnone : '\t' ∉ raw := fun h => htab (subset_of_mem_rawLines hmem h)
    have hnone' : '\t' ∉ List.replicate k ' ' ++ raw := by
      refine List.not_mem_append (fun hspace => ?_) hnone
      exact absurd (List.eq_of_mem_replicate hspace) (by decide)
    simp only [Option.map_some, expandTabs_of_not_mem hnone, expandTabs_of_not_mem hnone',
      indented_trimEnd]

/-- Reading leaves nothing of a blank line. -/
theorem text_of_mem_readLines {l : Line} (hl : l ∈ readLines text) (hb : l.isBlank = true) :
    l.text = [] := by
  obtain ⟨i, hi, rfl⟩ := List.mem_mapIdx.1 hl
  exact trimEnd_of_isAllBlank ((isAllBlank_trimEnd _).symm.trans hb)

theorem indent_trimEnd (number : Nat) (h : line.head? ≠ some ' ') :
    Line.indent ⟨number, trimEnd line⟩ = 0 := by
  obtain ⟨blanks, hcut⟩ := prefix_trimEnd line
  cases htext : trimEnd line with
  | nil => rfl
  | cons c cs =>
    have hhead : line.head? = some c := by
      rw [← hcut, htext]
      rfl
    have hc : c ≠ ' ' := fun hc => h (hhead.trans (congrArg some hc))
    simp [Line.indent, hc]

/-- A line of the text that does not start with a space is read as a line at the margin. -/
theorem exists_margin (htab : '\t' ∉ text) (hline : line ∈ rawLines text)
    (hb : isAllBlank line = false) (hhead : line.head? ≠ some ' ') :
    ∃ l ∈ readLines text, l.isBlank = false ∧ l.indent = 0 := by
  have hread : expandTabs 0 line = line :=
    expandTabs_of_not_mem (fun h => htab (subset_of_mem_rawLines hline h)) 0
  obtain ⟨i, hi, hget⟩ := List.mem_iff_getElem.1 hline
  refine ⟨⟨i + 1, trimEnd line⟩, List.mem_mapIdx.2 ⟨i, hi, by rw [hget, hread]⟩, ?_,
    indent_trimEnd _ hhead⟩
  rw [Line.isBlank, isAllBlank_trimEnd, hb]

/-! ### Blocks -/

/-- The document as a quote. -/
def Document.quoted (d : Document) : Document := ⟨[.quote d.blocks], d.messages⟩

theorem declarations_quoted (d : Document) :
    declarations d.quoted.blocks = declarations d.blocks := by
  rw [Document.quoted, declarations, declarations, declaredIn, List.append_nil]

theorem append_empty (d : Document) : d.append Document.empty = d := by
  simp [Document.append, Document.empty]

/-- Blank lines in front are nothing. -/
theorem readDocument_dropWhile (lines : List Line) :
    readDocument (lines.dropWhile Line.isBlank) = readDocument lines := by
  have hfront : ∀ l ∈ lines.takeWhile Line.isBlank, l.isBlank = true :=
    List.all_eq_true.1 List.all_takeWhile
  have hsegments := @segments_blanks _ false hfront (lines.dropWhile Line.isBlank)
  rw [List.takeWhile_append_dropWhile] at hsegments
  rw [readDocument_eq, ← hsegments, ← readDocument_eq]

/-- Blank lines at the end are nothing. -/
theorem readDocument_trimBlankEnd (lines : List Line) :
    readDocument (trimBlankEnd lines) = readDocument lines := by
  obtain ⟨blanks, hcut, hblanks⟩ := trimBlankEnd_append lines
  have hbreak := readDocument_break (IsBreak.of_blank hblanks) (trimBlankEnd lines)
  rw [List.append_nil, ← hcut] at hbreak
  rw [hbreak, readDocument_eq [], segments_nil]
  exact (append_empty _).symm

/-- Lines that start with an indented block and have no line at the margin are a quote. -/
theorem readDocument_indented {l : Line} {below : List Line} (hb : l.isBlank = false)
    (hinner : ∀ k ∈ l :: below, k.isInner = true) :
    readDocument (l :: below) = (readDocument (flushed (l :: below))).quoted := by
  obtain ⟨hl, hbelow⟩ := List.forall_mem_cons.1 hinner
  have hi : 0 < l.indent := by rwa [Line.isInner, hb, Bool.false_or, decide_eq_true_iff] at hl
  have htake : below.takeWhile Line.isInner = below := List.takeWhile_eq_self_iff.2 hbelow
  have hdrop : below.dropWhile Line.isInner = [] := List.dropWhile_eq_nil_iff.2 hbelow
  rw [readDocument_eq, segments_of_indented hb hi, htake, hdrop, segments_nil]
  simp [indentedSegment, Segment.document, Construct.blocks, Document.concat, Document.append,
    Document.empty, Document.quoted]

/-- Lines without one at the margin are a quote of them moved to the margin. -/
theorem readDocument_of_isInner (hsolid : ∃ l ∈ lines, l.isBlank = false)
    (hinner : ∀ l ∈ lines, l.isInner = true) :
    readDocument lines
      = (readDocument (flushed (lines.dropWhile Line.isBlank))).quoted := by
  rw [← readDocument_dropWhile lines]
  have hsub := List.dropWhile_sublist (l := lines) Line.isBlank
  cases hd : lines.dropWhile Line.isBlank with
  | nil =>
    obtain ⟨l, hl, hb⟩ := hsolid
    exact absurd (List.dropWhile_eq_nil_iff.1 hd l hl) (Bool.eq_false_iff.1 hb)
  | cons l below =>
    have hhead := List.head?_dropWhile_not Line.isBlank lines
    rw [hd] at hhead hsub
    exact readDocument_indented (by simpa using hhead) fun k hk => hinner k (hsub.subset hk)

/-- Lines with one at the margin are already where moving them to the margin leaves them. -/
theorem readDocument_of_margin {l : Line} (hl : l ∈ lines) (hb : l.isBlank = false)
    (hi : l.indent = 0) :
    readDocument (flushed (lines.dropWhile Line.isBlank)) = readDocument lines := by
  have hmem : l ∈ lines.dropWhile Line.isBlank := by
    have hcut := List.takeWhile_append_dropWhile (p := Line.isBlank) (l := lines)
    rw [← hcut, List.mem_append] at hl
    refine hl.resolve_left fun h => ?_
    exact absurd (List.all_eq_true.1 List.all_takeWhile l h) (Bool.eq_false_iff.1 hb)
  rw [flushed_of_margin hmem hb hi, readDocument_trimBlankEnd, readDocument_dropWhile]

/-- Lines moved to the right are a quote of them moved to the margin. -/
theorem readDocument_map_indented (hk : 0 < k)
    (hempty : ∀ l ∈ lines, l.isBlank = true → l.text = [])
    (hsolid : ∃ l ∈ lines, l.isBlank = false) :
    readDocument (lines.map (Line.indented k))
      = (readDocument (flushed (lines.dropWhile Line.isBlank))).quoted := by
  have hblank : Line.isBlank ∘ Line.indented k = Line.isBlank :=
    funext fun _ => Line.isBlank_indented
  have hsub := List.dropWhile_sublist (l := lines) Line.isBlank
  have hsolid' : ∃ l ∈ lines.map (Line.indented k), l.isBlank = false := by
    obtain ⟨l, hl, hb⟩ := hsolid
    exact ⟨l.indented k, List.mem_map_of_mem hl, Line.isBlank_indented.trans hb⟩
  have hinner : ∀ l ∈ lines.map (Line.indented k), l.isInner = true := fun l hl => by
    obtain ⟨l, -, rfl⟩ := List.mem_map.1 hl
    exact Line.isInner_indented hk
  rw [readDocument_of_isInner hsolid' hinner, List.dropWhile_map, hblank,
    flushed_map_indented fun l hl => hempty l (hsub.subset hl)]

/-! ### Documents -/

/-- Lines moved to the right declare what they declared, and are complained of the same way. -/
theorem declarations_map_indented (hk : 0 < k)
    (hempty : ∀ l ∈ lines, l.isBlank = true → l.text = []) :
    declarations (readDocument (lines.map (Line.indented k))).blocks
        = declarations (readDocument lines).blocks
      ∧ (readDocument (lines.map (Line.indented k))).messages = (readDocument lines).messages := by
  by_cases hsolid : ∃ l ∈ lines, l.isBlank = false
  · rw [readDocument_map_indented hk hempty hsolid, declarations_quoted]
    by_cases hinner : ∀ l ∈ lines, l.isInner = true
    · rw [readDocument_of_isInner hsolid hinner, declarations_quoted]
      exact ⟨rfl, rfl⟩
    · push Not at hinner
      obtain ⟨l, hl, hmargin⟩ := hinner
      rw [Line.isInner, ne_eq, Bool.or_eq_true, not_or, decide_eq_true_iff] at hmargin
      rw [readDocument_of_margin hl (Bool.eq_false_iff.2 hmargin.1)
        (Nat.eq_zero_of_not_pos hmargin.2)]
      exact ⟨rfl, rfl⟩
  · -- blank lines stay where they are
    push Not at hsolid
    have hstay : lines.map (Line.indented k) = lines :=
      (List.map_congr_left fun l hl =>
        Line.indented_of_blank (Bool.of_not_eq_false (hsolid l hl))).trans (List.map_id lines)
    rw [hstay]
    exact ⟨rfl, rfl⟩

/-- A text moved to the right declares the same fields, and there is the same to say about it. If
it had a line at the margin, it is now one quote of what it held, with the same messages on the
same lines. -/
theorem documented_indentText {document : Document} (hparse : parse text = .ok document)
    (htab : '\t' ∉ text) (hk : 0 < k) :
    documented (indentText k text) = documented text
      ∧ documentedNotices (indentText k text) = documentedNotices text
      ∧ ((∃ line ∈ rawLines text, isAllBlank line = false ∧ line.head? ≠ some ' ') →
        parse (indentText k text) = .ok ⟨[.quote document.blocks], document.messages⟩) := by
  obtain ⟨hallowed, rfl⟩ := parse_eq_ok hparse
  have hindented := parse_of_allowed (findBadCharacter_indentText (k := k) hallowed)
  have hempty (l : Line) (hl : l ∈ readLines text) (hb : l.isBlank = true) : l.text = [] :=
    text_of_mem_readLines hl hb
  rw [readLines_indentText htab] at hindented
  obtain ⟨hdeclarations, hmessages⟩ := declarations_map_indented hk hempty
  refine ⟨?_, ?_, fun ⟨line, hline, hb, hhead⟩ => ?_⟩
  · rw [documented, hindented, documented, hparse]
    exact congrArg Fields.ofList hdeclarations
  · rw [documentedNotices, isEmpty_indentText, hindented, documentedNotices, hparse]
    simp only [hmessages]
  · obtain ⟨l, hl, hb, hi⟩ := exists_margin htab hline hb hhead
    rw [hindented, readDocument_map_indented hk hempty ⟨l, hl, hb⟩, readDocument_of_margin hl hb hi]
    rfl

/-- A field list and a bullet list that ends on a line it should not end on. -/
theorem documented_indentText_bullets :
    ∃ document, parse ":id: 1\n\n* Run\n\n    so\n  it\nend" = .ok document
      ∧ document.messages = [⟨7, .unexpectedUnindent .bullet⟩]
      ∧ documented "  :id: 1\n  \n  * Run\n  \n      so\n    it\n  end"
        = documented ":id: 1\n\n* Run\n\n    so\n  it\nend"
      ∧ documentedNotices "  :id: 1\n  \n  * Run\n  \n      so\n    it\n  end"
        = documentedNotices ":id: 1\n\n* Run\n\n    so\n  it\nend"
      ∧ parse "  :id: 1\n  \n  * Run\n  \n      so\n    it\n  end"
        = .ok ⟨[.quote document.blocks], document.messages⟩ := by
  have hparse : parse ":id: 1\n\n* Run\n\n    so\n  it\nend"
      = .ok (readDocument (readLines ":id: 1\n\n* Run\n\n    so\n  it\nend")) :=
    parse_of_allowed (by decide +kernel)
  have htext : indentText 2 ":id: 1\n\n* Run\n\n    so\n  it\nend"
      = "  :id: 1\n  \n  * Run\n  \n      so\n    it\n  end" := by
    decide +kernel
  obtain ⟨hfields, hnotices, hquote⟩ := @documented_indentText 2
    ":id: 1\n\n* Run\n\n    so\n  it\nend" _ hparse (by decide +kernel) (by decide)
  rw [htext] at hfields hnotices hquote
  exact ⟨_, hparse, by decide +kernel, hfields, hnotices,
    hquote ⟨"end", by decide +kernel, by decide +kernel, by decide +kernel⟩⟩

end Testbook.Markup
