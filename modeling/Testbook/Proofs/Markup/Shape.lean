import Testbook.Proofs.Markup.Lines
import Testbook.Proofs.Markup.Ordinals
import Testbook.Proofs.Text.Tabs
import Mathlib.Data.List.Basic

/-!
The shape of documents. Every block that reading makes, at any depth, is sound (`isSound_parse`):
lists have items, field names could stand between colons, the lines of a paragraph stand at the
margin and end with what is not blank, a literal block has been moved to the margin as a whole, and
the ordinals of a list are ordinals of its numbering. The lines carry the invariant: each is as
reading leaves it (`IsLine`), and the lines of nested bodies are ends of such lines
(`suffix_of_mem_body`).
-/

namespace Testbook.Markup

open Testbook.Text

/-! ### Sound blocks -/

/-- What can name a field. -/
structure IsName (name : Text) : Prop where
  ne_nil : name ≠ []
  noColon : ':' ∉ name
  front : name.head?.any isBlank = false
  back : name.getLast?.any isBlank = false

/-- A line as it stands in a paragraph. -/
structure IsParagraphLine (line : Text) : Prop where
  solid : isAllBlank line = false
  margin : line.head? ≠ some ' '
  back : line.getLast?.any isBlank = false

/-- What can be a paragraph. -/
structure IsParagraph (text : Text) : Prop where
  ne_nil : text ≠ []
  noTab : '\t' ∉ text
  lines : ∀ line ∈ splitOn '\n' text, IsParagraphLine line

/-- What can be a literal block: it starts and ends with a line that is not blank, and some line
stands at the margin. -/
structure IsLiteral (text : Text) : Prop where
  first : ∃ line, (splitOn '\n' text).head? = some line ∧ isAllBlank line = false
  last : ∃ line, (splitOn '\n' text).getLast? = some line ∧ isAllBlank line = false
  margin : ∃ line ∈ splitOn '\n' text, isAllBlank line = false ∧ line.head? ≠ some ' '

/-- What a block is, its nested blocks apart. -/
def Block.IsSound : Block → Prop
  | .paragraph text => IsParagraph text
  | .literal text => IsLiteral text
  | .bullets items => items ≠ []
  | .numbered numbering start items => items ≠ [] ∧ numbering.Counts start items.length
  | .fields entries => entries ≠ [] ∧ ∀ e ∈ entries, IsName e.1
  | .quote _ => True

/-- The sequences of blocks that a block holds. -/
def Block.bodies : Block → List (List Block)
  | .paragraph _ => []
  | .literal _ => []
  | .bullets items => items
  | .numbered _ _ items => items
  | .fields entries => entries.map (·.2)
  | .quote blocks => [blocks]

/-- A block among blocks, at any depth. -/
inductive IsWithin (block : Block) : List Block → Prop where
  | here {blocks : List Block} (h : block ∈ blocks) : IsWithin block blocks
  | deeper {blocks body : List Block} {outer : Block} (houter : outer ∈ blocks)
      (hbody : body ∈ outer.bodies) (h : IsWithin block body) : IsWithin block blocks

/-! ### Lines of nested bodies -/

theorem IsLine.of_suffix {text ending : Text} (h : IsLine text) (hs : ending <:+ text) :
    IsLine ending where
  allowed := List.all_eq_true.2 fun c hc => List.all_eq_true.1 h.allowed c (hs.subset hc)
  noTab := fun hc => h.noTab (hs.subset hc)
  trimmed := by
    refine trimEnd_of_getLast? ?_
    have hend := getLast?_trimEnd text
    rw [h.trimmed] at hend
    obtain ⟨front, rfl⟩ := hs
    cases hlast : ending.getLast? with
    | none => rfl
    | some c =>
      rw [List.getLast?_append, hlast] at hend
      exact hend

variable {line : Line} {below lines : List Line}

theorem suffix_dedent (n : Nat) (l : Line) : (l.dedent n).text <:+ l.text :=
  List.drop_suffix _ _

theorem suffix_of_mem_flushed {l : Line} (h : l ∈ flushed lines) :
    ∃ source ∈ lines, l.text <:+ source.text := by
  obtain ⟨source, hsource, rfl⟩ := List.mem_map.1 h
  exact ⟨source, (trimBlankEnd_sublist lines).subset hsource, suffix_dedent _ source⟩

/-- The lines of the items of a list are ends of its lines. -/
theorem suffix_of_mem_item {m : Marker} (h : m.text <:+ line.text) :
    ∀ item ∈ (readList m line below).items, ∀ l ∈ item.2,
      ∃ source ∈ line :: below, l.text <:+ source.text := by
  have hbody (m : Marker) (line : Line) (below : List Line) (h : m.text <:+ line.text) :
      ∀ l ∈ itemBody m line (below.takeWhile Line.isInner),
        ∃ source ∈ line :: below, l.text <:+ source.text := by
    intro l hl
    rcases List.mem_cons.1 hl with rfl | hl
    · exact ⟨line, List.mem_cons_self, h⟩
    · obtain ⟨source, hsource, hsuffix⟩ := suffix_of_mem_flushed hl
      exact ⟨source, List.mem_cons_of_mem _ ((List.takeWhile_sublist _).subset hsource), hsuffix⟩
  fun_induction readList m line below with
  | case1 m line below inner item hd =>
    intro i hi
    cases List.mem_singleton.1 hi
    exact hbody m line below h
  | case2 m line below inner item next rest hd m' hm run ih =>
    intro i hi l hl
    rcases List.mem_cons.1 hi with rfl | hi
    · exact hbody m line below h l hl
    · obtain ⟨source, hsource, hsuffix⟩ := ih (Marker.isOn_next? hm).suffix.1 i hi l hl
      have hrest := (List.dropWhile_sublist (l := below) Line.isInner).subset
      rw [hd] at hrest
      exact ⟨source, List.mem_cons_of_mem _ (hrest hsource), hsuffix⟩
  | case3 m line below inner item next rest hd hm =>
    intro i hi
    cases List.mem_singleton.1 hi
    exact hbody m line below h

/-- The lines of nested bodies are ends of the lines that they are cut from. -/
theorem suffix_of_mem_body (announced : Bool) (lines : List Line) :
    ∀ s ∈ segments announced lines, ∀ body ∈ s.bodies, ∀ l ∈ body,
      ∃ source ∈ lines, l.text <:+ source.text := by
  fun_induction segments announced lines with
  | case1 => simp
  | case2 announced line below hb ih =>
    intro s hs body hbody l hl
    obtain ⟨source, hsource, hsuffix⟩ := ih s hs body hbody l hl
    exact ⟨source, List.mem_cons_of_mem _ hsource, hsuffix⟩
  | case3 announced line below hb hi inner segment ih =>
    intro s hs body hbody l hl
    rcases List.mem_cons.1 hs with rfl | hs
    · have hinner : body = inner := by
        simp only [segment] at hbody
        split at hbody <;> simp_all
      rw [hinner] at hl
      obtain ⟨source, hsource, hsuffix⟩ := suffix_of_mem_flushed hl
      exact ⟨source, ((List.takeWhile_sublist _).cons_cons line).subset hsource, hsuffix⟩
    · obtain ⟨source, hsource, hsuffix⟩ := ih s hs body hbody l hl
      have hrest := (List.dropWhile_sublist (l := below) Line.isInner).subset hsource
      exact ⟨source, List.mem_cons_of_mem _ hrest, hsuffix⟩
  | case4 announced line below hb hi m hm run ih =>
    intro s hs body hbody l hl
    rcases List.mem_cons.1 hs with rfl | hs
    · obtain ⟨item, hitem, rfl⟩ := List.mem_map.1 hbody
      exact suffix_of_mem_item (Marker.isOn_first? hm).suffix.1 item hitem l hl
    · obtain ⟨source, hsource, hsuffix⟩ := ih s hs body hbody l hl
      have hrest := (readList_rest_sublist m line below).subset hsource
      exact ⟨source, List.mem_cons_of_mem _ hrest, hsuffix⟩
  | case5 announced line below hb hi hm text announces hp rest ih =>
    intro s hs body hbody l hl
    rcases List.mem_cons.1 hs with rfl | hs
    · cases hbody
    · obtain ⟨source, hsource, hsuffix⟩ := ih s hs body hbody l hl
      have hrest := (List.dropWhile_sublist (l := below) Line.isFlush).subset hsource
      exact ⟨source, List.mem_cons_of_mem _ hrest, hsuffix⟩

/-! ### Paragraphs -/

theorem head?_of_indent {l : Line} (h : l.indent = 0) : l.text.head? ≠ some ' ' := by
  intro hhead
  obtain ⟨cs, hcs⟩ := List.head?_eq_some_iff.1 hhead
  simp [Line.indent, hcs] at h

theorem IsLine.isParagraphLine {l : Line} (h : IsLine l.text) (hf : l.isFlush = true) :
    IsParagraphLine l.text := by
  simp only [Line.isFlush, Bool.and_eq_true, Bool.not_eq_true', decide_eq_true_eq] at hf
  have hend := getLast?_trimEnd l.text
  rw [h.trimmed] at hend
  refine ⟨hf.1, head?_of_indent hf.2, ?_⟩
  cases hlast : l.text.getLast? with
  | none => rfl
  | some c => simpa [hlast] using hend

/-- Where a text is cut in two, a line is cut in two. -/
theorem exists_splitOn_append {text first : Text} {rest : List Text}
    (h : splitOn '\n' text = first :: rest) (front : Text) :
    ∃ pieces last, splitOn '\n' front = pieces ++ [last]
      ∧ splitOn '\n' (front ++ text) = pieces ++ (last ++ first) :: rest
      ∧ last <:+ front ∧ (last = [] → ∀ c ∈ front.getLast?, c = '\n') := by
  induction front using lines_induction with
  | nil => exact ⟨[], [], rfl, h, List.suffix_refl _, by simp⟩
  | last line hline hne =>
    exact ⟨[], line, splitOn_of_not_mem hline, splitOn_front hline h, List.suffix_refl _,
      fun hnil => absurd hnil hne⟩
  | cons line front hline ih =>
    obtain ⟨pieces, last, hfront, hwhole, hsuffix, hfeed⟩ := ih
    refine ⟨line :: pieces, last, ?_, ?_, ?_, fun hnil c hc => ?_⟩
    · rw [splitOn_append hline, hfront, List.cons_append]
    · rw [List.append_assoc, List.cons_append, splitOn_append hline, hwhole, List.cons_append]
    · exact (hsuffix.trans (List.suffix_cons _ _)).trans (List.suffix_append _ _)
    · rw [List.getLast?_append_of_ne_nil _ (List.cons_ne_nil _ _)] at hc
      cases front with
      | nil => simpa using hc.symm
      | cons d ds => exact hfeed hnil c hc

/-- The front of a paragraph, up to a character that is not blank, could be one too. -/
theorem IsParagraph.of_prefix {text front : Text} (h : IsParagraph text) (hp : front <+: text)
    (hne : front ≠ []) (hback : front.getLast?.any isBlank = false) : IsParagraph front := by
  obtain ⟨ending, rfl⟩ := hp
  refine ⟨hne, fun hc => h.noTab (List.mem_append_left _ hc), fun line hline => ?_⟩
  obtain ⟨first, rest, hending⟩ := List.exists_cons_of_ne_nil (splitOn_ne_nil '\n' ending)
  obtain ⟨pieces, last, hfront, hwhole, hsuffix, hfeed⟩ := exists_splitOn_append hending front
  rw [hfront, List.mem_append, List.mem_singleton] at hline
  rcases hline with hline | rfl
  · exact h.lines line (by rw [hwhole]; exact List.mem_append_left _ hline)
  · -- the line that is cut keeps its front, and ends where the front of the text ends
    obtain ⟨c, hc⟩ := Option.ne_none_iff_exists'.1 (mt List.getLast?_eq_none_iff.1 hne)
    have hsolid : isBlank c = false := by simpa [hc] using hback
    have hlast : line ≠ [] := fun hnil => by
      rw [hfeed hnil c hc] at hsolid
      exact absurd hsolid (by decide)
    have hend : line.getLast? = some c := by
      obtain ⟨before, rfl⟩ := hsuffix
      rwa [List.getLast?_append_of_ne_nil _ hlast] at hc
    have hcut : IsParagraphLine (line ++ first) := h.lines _ (by rw [hwhole]; simp)
    refine ⟨?_, ?_, by rw [hend]; exact hsolid⟩
    · exact List.all_eq_false.2 ⟨c, List.mem_of_getLast? hend, by simp [hsolid]⟩
    · have hmargin := hcut.margin
      rwa [List.head?_append_of_ne_nil _ hlast] at hmargin

theorem splitOn_lines (hne : lines ≠ []) (h : ∀ l ∈ lines, IsLine l.text) :
    splitOn '\n' (join ['\n'] (lines.map (·.text))) = lines.map (·.text) := by
  refine splitOn_join (by simpa using hne) fun text htext => ?_
  obtain ⟨l, hl, rfl⟩ := List.mem_map.1 htext
  exact (h l hl).noFeed

theorem isParagraph_join (hne : lines ≠ []) (h : ∀ l ∈ lines, IsLine l.text)
    (hf : ∀ l ∈ lines, l.isFlush = true) : IsParagraph (join ['\n'] (lines.map (·.text))) := by
  have hparagraph : ∀ l ∈ lines, IsParagraphLine l.text :=
    fun l hl => (h l hl).isParagraphLine (hf l hl)
  refine ⟨fun hnil => ?_, fun htab => ?_, ?_⟩
  · -- the first line would be empty, and so blank
    obtain ⟨l, ls, rfl⟩ := List.exists_cons_of_ne_nil hne
    have hlines := splitOn_lines hne h
    rw [hnil, List.map_cons] at hlines
    have hempty : l.text = [] := (List.cons.inj hlines).1.symm
    have hsolid := (hparagraph l List.mem_cons_self).solid
    rw [hempty] at hsolid
    exact absurd hsolid (by decide)
  · rcases exists_of_mem_join htab with hfeed | ⟨text, htext, hc⟩
    · exact absurd hfeed (by decide)
    · obtain ⟨l, hl, rfl⟩ := List.mem_map.1 htext
      exact (h l hl).noTab hc
  · rw [splitOn_lines hne h]
    intro text htext
    obtain ⟨l, hl, rfl⟩ := List.mem_map.1 htext
    exact hparagraph l hl

/-- What is left of a paragraph that announces a literal block is a paragraph, or nothing. -/
theorem IsParagraph.announcedText {kept : Text} (h : IsParagraph (kept ++ [':', ':'])) :
    announcedText kept = [] ∨ IsParagraph (announcedText kept) := by
  by_cases hempty : Markup.announcedText kept = []
  · exact .inl hempty
  · refine .inr (h.of_prefix ?_ hempty ?_)
    · rw [Markup.announcedText]
      split
      · exact (prefix_trimEnd kept).trans (List.prefix_append _ _)
      · exact ⟨[':'], by simp⟩
    · rw [Markup.announcedText]
      split
      · have hback := getLast?_trimEnd kept
        cases hlast : (trimEnd kept).getLast? with
        | none => rfl
        | some c => simpa [hlast] using hback
      · rw [List.getLast?_concat]
        rfl

theorem isParagraph_paragraphText (hne : lines ≠ []) (h : ∀ l ∈ lines, IsLine l.text)
    (hf : ∀ l ∈ lines, l.isFlush = true) :
    (paragraphText lines).1 = [] ∨ IsParagraph (paragraphText lines).1 := by
  have hjoin := isParagraph_join hne h hf
  simp only [paragraphText]
  split
  · next kept hkept =>
    rw [dropEnd?_eq_some hkept] at hjoin
    exact hjoin.announcedText
  · exact .inr hjoin

/-! ### Literal blocks -/

theorem isBlank_of_getLast?_trimBlankEnd (lines : List Line) :
    ∀ l ∈ (trimBlankEnd lines).getLast?, l.isBlank = false := by
  intro l hl
  rw [trimBlankEnd, List.getLast?_reverse] at hl
  have hhead := List.head?_dropWhile_not Line.isBlank lines.reverse
  rw [hl] at hhead
  simpa using hhead

/-- The line that is indented least is moved to the margin. -/
theorem indent_dedent (l : Line) : (l.dedent l.indent).text.head? ≠ some ' ' := by
  have hdrop : l.text.drop l.indent = l.text.dropWhile (· = ' ') := by
    conv => lhs; rw [← List.takeWhile_append_dropWhile (p := (· = ' ')) (l := l.text)]
    exact List.drop_left
  rw [Line.dedent, Nat.min_self]
  simp only [hdrop]
  intro hhead
  have hnot := List.head?_dropWhile_not (fun c => decide (c = ' ')) l.text
  rw [hhead] at hnot
  simp at hnot

/-- An indented block moved to the margin can be a literal block. -/
theorem isLiteral_flushed (hline : line.isBlank = false) (h : ∀ l ∈ line :: below, IsLine l.text) :
    IsLiteral (join ['\n'] ((flushed (line :: below)).map (·.text))) := by
  have hinner : ∀ l ∈ flushed (line :: below), IsLine l.text := fun l hl => by
    obtain ⟨source, hsource, hsuffix⟩ := suffix_of_mem_flushed hl
    exact (h source hsource).of_suffix hsuffix
  have hkept : trimBlankEnd (line :: below) = line :: trimBlankEnd below := trimBlankEnd_cons hline
  have hne : flushed (line :: below) ≠ [] := by simp [flushed, hkept]
  have hsolid {l : Line} (n : Nat) (hb : l.isBlank = false) : isAllBlank (l.dedent n).text = false :=
    (isBlank_dedent n l).trans hb
  obtain ⟨last, hlast⟩ := Option.ne_none_iff_exists'.1
    (mt List.getLast?_eq_none_iff.1 (hkept ▸ List.cons_ne_nil _ _))
  obtain ⟨least, hmem, hleast, hindent⟩ :=
    exists_minIndent ⟨line, hkept ▸ List.mem_cons_self, hline⟩
  constructor
  · refine ⟨_, ?_, hsolid (minIndent (trimBlankEnd (line :: below))) hline⟩
    rw [splitOn_lines hne hinner, flushed, hkept]
    rfl
  · refine ⟨_, ?_, hsolid (minIndent (trimBlankEnd (line :: below)))
      (isBlank_of_getLast?_trimBlankEnd (line :: below) last hlast)⟩
    rw [splitOn_lines hne hinner, flushed, List.getLast?_map, List.getLast?_map, hlast]
    rfl
  · refine ⟨_, ?_, hsolid _ hleast, indent_dedent least⟩
    rw [splitOn_lines hne hinner, flushed, ← hindent]
    exact List.mem_map_of_mem (List.mem_map_of_mem hmem)

/-! ### Names of fields -/

theorem isName_of_field? {text name behind : Text} (h : field? text = some (name, behind)) :
    IsName name := by
  obtain ⟨⟨hcolon, hname⟩, -⟩ := field?_eq_some.1 h
  simp only [isFieldName, Bool.and_eq_true, Bool.not_eq_true'] at hname
  exact ⟨List.isEmpty_eq_false_iff.1 hname.1.1, hcolon, hname.1.2, hname.2⟩

theorem Marker.IsOn.isName {m : Marker} {text : Text} (h : m.IsOn text) (hm : m.kind = .field) :
    IsName m.name := by
  cases h with
  | field h => exact isName_of_field? h
  | bullet h => cases hm
  | enumerator h => cases hm

/-- The items of a field list have names. -/
theorem isName_readList {m : Marker} {text : Text} (h : m.IsOn text) (hm : m.kind = .field)
    (line : Line) (below : List Line) :
    ∀ item ∈ (readList m line below).items, IsName item.1.name := by
  intro item hitem
  have hnames := forall_marks_readList (p := fun m => m.kind = .field → IsName m.name)
    (fun _ hnext => (Marker.isOn_next? hnext).isName) h.isName line below
  exact hnames item hitem ((kind_readList m line below item hitem).trans hm)

/-! ### Constructs -/

/-- What a construct with `count` bodies is; a paragraph that leaves no block may be empty. -/
def Construct.IsSound (count : Nat) : Construct → Prop
  | .paragraph text => text = [] ∨ IsParagraph text
  | .literal text => IsLiteral text
  | .quote => True
  | .bullets => 0 < count
  | .numbered numbering start => 0 < count ∧ numbering.Counts start count
  | .fields names => 0 < count ∧ names.length = count ∧ ∀ name ∈ names, IsName name

theorem Construct.IsSound.blocks {construct : Construct} {bodies : List (List Block)}
    (h : construct.IsSound bodies.length) : ∀ block ∈ construct.blocks bodies, block.IsSound := by
  intro block hblock
  cases construct with
  | paragraph text =>
    cases text with
    | nil => cases hblock
    | cons c cs =>
      obtain rfl := List.mem_singleton.1 hblock
      exact h.resolve_left (List.cons_ne_nil c cs)
  | literal text =>
    obtain rfl := List.mem_singleton.1 hblock
    exact h
  | quote =>
    obtain rfl := List.mem_singleton.1 hblock
    trivial
  | bullets =>
    obtain rfl := List.mem_singleton.1 hblock
    exact List.ne_nil_of_length_pos h
  | numbered numbering start =>
    obtain rfl := List.mem_singleton.1 hblock
    exact ⟨List.ne_nil_of_length_pos h.1, h.2⟩
  | fields names =>
    obtain rfl := List.mem_singleton.1 hblock
    obtain ⟨hpos, hlength, hnames⟩ := h
    refine ⟨List.ne_nil_of_length_pos ?_, fun entry hentry => hnames _ (List.of_mem_zip hentry).1⟩
    rw [List.length_zip, hlength, Nat.min_self]
    exact hpos

theorem isSound_segment {m : Marker} (hm : Marker.first? line.text below = some m) :
    ((readList m line below).segment m).construct.IsSound
      ((readList m line below).segment m).bodies.length := by
  have hpos : 0 < (readList m line below).items.length :=
    List.length_pos_of_ne_nil (items_readList_ne_nil m line below)
  rw [ListRun.segment, List.length_map]
  cases m with
  | bullet sign text => exact hpos
  | field name text =>
    refine ⟨hpos, by rw [List.length_map, List.length_map], fun n hn => ?_⟩
    obtain ⟨m', hm', rfl⟩ := List.mem_map.1 hn
    obtain ⟨item, hitem, rfl⟩ := List.mem_map.1 hm'
    exact isName_readList (Marker.isOn_first? hm) rfl line below item hitem
  | enumerator e => exact ⟨hpos, counts_readList (Enumerator.first?_of_marker hm) line below⟩

/-- Every segment of lines as reading leaves them is sound. -/
theorem isSound_segments (announced : Bool) {lines : List Line} (h : ∀ l ∈ lines, IsLine l.text) :
    ∀ s ∈ segments announced lines, s.construct.IsSound s.bodies.length := by
  fun_induction segments announced lines with
  | case1 => simp
  | case2 announced line below hb ih => exact ih (List.forall_mem_cons.1 h).2
  | case3 announced line below hb hi inner segment ih =>
    have hsub {p : Line → Bool} : (below.takeWhile p).Sublist below := List.takeWhile_sublist p
    refine List.forall_mem_cons.2 ⟨?_, ih fun l hl => h l (List.mem_cons_of_mem _
      ((List.dropWhile_sublist Line.isInner).subset hl))⟩
    cases announced with
    | true =>
      exact isLiteral_flushed (Bool.eq_false_iff.2 hb) fun l hl =>
        h l ((hsub.cons_cons line).subset hl)
    | false => trivial
  | case4 announced line below hb hi m hm run ih =>
    refine List.forall_mem_cons.2 ⟨isSound_segment hm, ih fun l hl => h l (List.mem_cons_of_mem _
      ((readList_rest_sublist m line below).subset hl))⟩
  | case5 announced line below hb hi hm text announces hp rest ih =>
    refine List.forall_mem_cons.2 ⟨?_, ih fun l hl => h l (List.mem_cons_of_mem _
      ((List.dropWhile_sublist Line.isFlush).subset hl))⟩
    have hflush : ∀ l ∈ line :: below.takeWhile Line.isFlush, l.isFlush = true := by
      refine List.forall_mem_cons.2 ⟨?_, List.all_eq_true.1 List.all_takeWhile⟩
      simp only [Line.isFlush, Bool.eq_false_iff.2 hb, Nat.eq_zero_of_not_pos hi, Bool.not_false,
        decide_true, Bool.and_self]
    have hparagraph := isParagraph_paragraphText (List.cons_ne_nil _ _)
      (fun l hl => h l (((List.takeWhile_sublist Line.isFlush).cons_cons line).subset hl)) hflush
    rw [hp] at hparagraph
    exact hparagraph

/-! ### Documents -/

theorem IsWithin.mono {block : Block} {blocks more : List Block} (h : IsWithin block blocks)
    (hsub : blocks ⊆ more) : IsWithin block more := by
  cases h with
  | here h => exact .here (hsub h)
  | deeper houter hbody h => exact .deeper (hsub houter) hbody h

theorem IsWithin.of_flatten {block : Block} {bodies : List (List Block)}
    (h : IsWithin block bodies.flatten) : ∃ body ∈ bodies, IsWithin block body := by
  cases h with
  | here h =>
    obtain ⟨body, hbody, hmem⟩ := List.mem_flatten.1 h
    exact ⟨body, hbody, .here hmem⟩
  | deeper houter hinner h =>
    obtain ⟨body, hbody, hmem⟩ := List.mem_flatten.1 houter
    exact ⟨body, hbody, .deeper hmem hinner h⟩

/-- A block in a construct is the construct's own or stands in one of its bodies. -/
theorem IsWithin.of_blocks {block : Block} {construct : Construct} {bodies : List (List Block)}
    (h : IsWithin block (construct.blocks bodies)) :
    block ∈ construct.blocks bodies ∨ ∃ body ∈ bodies, IsWithin block body := by
  cases h with
  | here h => exact .inl h
  | @deeper _ body outer houter hbody h =>
    refine .inr ?_
    cases construct with
    | paragraph text =>
      cases text with
      | nil => cases houter
      | cons c cs =>
        obtain rfl := List.mem_singleton.1 houter
        cases hbody
    | literal text =>
      obtain rfl := List.mem_singleton.1 houter
      cases hbody
    | quote =>
      obtain rfl := List.mem_singleton.1 houter
      obtain rfl := List.mem_singleton.1 hbody
      exact h.of_flatten
    | bullets =>
      obtain rfl := List.mem_singleton.1 houter
      exact ⟨body, hbody, h⟩
    | numbered numbering start =>
      obtain rfl := List.mem_singleton.1 houter
      exact ⟨body, hbody, h⟩
    | fields names =>
      obtain rfl := List.mem_singleton.1 houter
      obtain ⟨entry, hentry, rfl⟩ := List.mem_map.1 hbody
      exact ⟨entry.2, (List.of_mem_zip hentry).2, h⟩

/-- Every block of lines as reading leaves them is sound. -/
theorem isSound_readDocument {lines : List Line} (h : ∀ l ∈ lines, IsLine l.text) :
    ∀ block, IsWithin block (readDocument lines).blocks → block.IsSound := by
  induction lines using readDocument_induction with
  | step lines ih =>
    intro block hblock
    rw [← readDocument_eq, blocks_readDocument, List.flatMap_def] at hblock
    obtain ⟨blocks, hblocks, hblock⟩ := hblock.of_flatten
    obtain ⟨s, hs, rfl⟩ := List.mem_map.1 hblocks
    rcases hblock.of_blocks with hblock | ⟨body, hbody, hblock⟩
    · refine Construct.IsSound.blocks ?_ block hblock
      rw [List.length_map]
      exact isSound_segments false h s hs
    · obtain ⟨inner, hinner, rfl⟩ := List.mem_map.1 hbody
      refine ih s hs inner hinner (fun l hl => ?_) block hblock
      obtain ⟨source, hsource, hsuffix⟩ := suffix_of_mem_body false lines s hs inner hinner l hl
      exact (h source hsource).of_suffix hsuffix

/-- Reading a text without characters that are refused leaves lines of no other kind. -/
theorem isLine_of_mem_readLines {text : Text} (h : findBadCharacter 1 (splitOn '\n' text) = none) :
    ∀ l ∈ readLines text, IsLine l.text := by
  intro l hl
  obtain ⟨i, hi, rfl⟩ := List.mem_mapIdx.1 hl
  have hraw : (rawLines text)[i] ∈ splitOn '\n' text := by
    rcases splitOn_eq_rawLines text with heq | heq
    · rw [heq]
      exact List.getElem_mem _
    · rw [heq]
      exact List.mem_append_left _ (List.getElem_mem _)
  have hallowed := findBadCharacter_eq_none.1 h _ hraw
  have hfront := prefix_trimEnd (expandTabs 0 (rawLines text)[i])
  refine ⟨List.all_eq_true.2 fun c hc => ?_, fun hc => ?_, trimEnd_of_getLast? (getLast?_trimEnd _)⟩
  · by_cases hspace : c = ' '
    · rw [hspace]
      rfl
    · exact List.all_eq_true.1 hallowed c (mem_of_mem_expandTabs hspace (hfront.subset hc))
  · exact tab_not_mem_expandTabs _ _ (hfront.subset hc)

/-- Every block of a document, at any depth, is sound. -/
theorem isSound_parse {text : Text} {document : Document} (h : parse text = .ok document) :
    ∀ block, IsWithin block document.blocks → block.IsSound := by
  obtain ⟨hallowed, rfl⟩ := parse_eq_ok h
  exact isSound_readDocument (isLine_of_mem_readLines hallowed)

/-- A literal block in the first item of a list that stands in a field. -/
theorem isSound_parse_nested :
    ∃ document, parse ":do:\n  y. Run\n     so::\n\n       a <b>\n\n  z. *Stop*" = .ok document
      ∧ document.blocks = [.fields [("do", [.numbered .lowerAlpha 25
        [[.paragraph "Run\nso:", .literal "a <b>"], [.paragraph "*Stop*"]]])]]
      ∧ IsWithin (.literal "a <b>") document.blocks
      ∧ ∀ block, IsWithin block document.blocks → block.IsSound := by
  have hparse : parse ":do:\n  y. Run\n     so::\n\n       a <b>\n\n  z. *Stop*"
      = .ok (readDocument (readLines ":do:\n  y. Run\n     so::\n\n       a <b>\n\n  z. *Stop*")) :=
    parse_of_allowed (by decide +kernel)
  have hblocks : (readDocument (readLines
      ":do:\n  y. Run\n     so::\n\n       a <b>\n\n  z. *Stop*")).blocks
      = [.fields [("do", [.numbered .lowerAlpha 25
        [[.paragraph "Run\nso:", .literal "a <b>"], [.paragraph "*Stop*"]]])]] := by
    with_unfolding_all rfl
  have hliteral : IsWithin (.literal "a <b>") [.paragraph "Run\nso:", .literal "a <b>"] :=
    .here (List.mem_cons_of_mem _ List.mem_cons_self)
  refine ⟨_, hparse, hblocks, ?_, isSound_parse hparse⟩
  rw [hblocks]
  exact .deeper List.mem_cons_self List.mem_cons_self
    (.deeper List.mem_cons_self List.mem_cons_self hliteral)

end Testbook.Markup
