import Testbook.Markup.Inline
import Testbook.Proofs.Markup.Indent
import Testbook.Proofs.Markup.Step
import Testbook.Proofs.Text.Pieces
import Testbook.Proofs.Text.Solid
import Mathlib.Data.List.Induction
import Mathlib.Data.List.TakeWhile

/-!
No text gets lost in reading. The leaves of a document, in their order, hold what the text holds,
except for the marks that open list items and fields and the colons that announce literal blocks.
The invariant is `Keeps source kept`: apart from blanks `kept` comes from `source` by deleting
marks. It holds for each line that opens an item, then for lists and segments, and by induction
over nested bodies for whole documents.
-/

namespace Testbook.Markup

open Testbook.Text

/-! ### The text in a tree -/

mutual

/-- The text in the leaves of a block, in their order. The name of a field comes before its body. -/
def leafText : Block → Text
  | .paragraph text => text
  | .literal text => text
  | .bullets items => itemLeaves items
  | .numbered _ _ items => itemLeaves items
  | .quote blocks => leaves blocks
  | .fields entries => entryLeaves entries

/-- The text in the leaves of several blocks. -/
def leaves : List Block → Text
  | [] => []
  | block :: blocks => leafText block ++ leaves blocks

/-- The text in the leaves of list items. -/
def itemLeaves : List (List Block) → Text
  | [] => []
  | item :: items => leaves item ++ itemLeaves items

/-- The text in the leaves of fields. -/
def entryLeaves : List (Text × List Block) → Text
  | [] => []
  | (name, body) :: entries => name ++ leaves body ++ entryLeaves entries

end

theorem leaves_append (a b : List Block) : leaves (a ++ b) = leaves a ++ leaves b := by
  induction a with
  | nil => rfl
  | cons block blocks ih => rw [List.cons_append, leaves, leaves, ih, List.append_assoc]

theorem leaves_flatten (items : List (List Block)) :
    leaves items.flatten = (items.map leaves).flatten := by
  induction items with
  | nil => rfl
  | cons item items ih =>
    rw [List.flatten_cons, leaves_append, ih, List.map_cons, List.flatten_cons]

theorem itemLeaves_eq (items : List (List Block)) :
    itemLeaves items = (items.map leaves).flatten := by
  induction items with
  | nil => rfl
  | cons item items ih => rw [itemLeaves, ih, List.map_cons, List.flatten_cons]

theorem entryLeaves_zip (names : List Text) (bodies : List (List Block)) :
    entryLeaves (names.zip bodies)
      = ((names.zip (bodies.map leaves)).map fun e => e.1 ++ e.2).flatten := by
  induction names generalizing bodies with
  | nil => rfl
  | cons name names ih =>
    cases bodies with
    | nil => rfl
    | cons body bodies =>
      rw [List.zip_cons_cons, entryLeaves, ih, List.map_cons, List.zip_cons_cons, List.map_cons,
        List.flatten_cons]

/-! ### What is kept -/

/-- The characters that the marks of items and fields are made of: letters and digits in ASCII and
some punctuation. -/
def isMark (c : Char) : Bool := c.isAlphanum || c ∈ ":*-+#().".toList

/-- The characters of a text that are neither blank nor part of marks. -/
def content (text : Text) : Text := text.filter fun c => !isBlank c && !isMark c

theorem content_append (a b : Text) : content (a ++ b) = content a ++ content b :=
  List.filter_append ..

theorem content_eq_solid (text : Text) : content text = (solid text).filter (!isMark ·) := by
  rw [content, solid, List.filter_filter]
  congr 1
  funext c
  exact Bool.and_comm ..

/-- What is `kept` comes from the `source` by deleting marks, and by deleting and adding blanks. -/
structure Keeps (source kept : Text) : Prop where
  sublist : (solid kept).Sublist (solid source)
  content_eq : content kept = content source

namespace Keeps

theorem of_solid {source kept : Text} (h : solid kept = solid source) : Keeps source kept where
  sublist := h ▸ List.Sublist.refl _
  content_eq := by rw [content_eq_solid, content_eq_solid, h]

theorem refl (text : Text) : Keeps text text := of_solid rfl

theorem trans {a b c : Text} (hab : Keeps a b) (hbc : Keeps b c) : Keeps a c where
  sublist := hbc.sublist.trans hab.sublist
  content_eq := hbc.content_eq.trans hab.content_eq

theorem append {a b c d : Text} (h : Keeps a b) (h' : Keeps c d) : Keeps (a ++ c) (b ++ d) where
  sublist := by
    rw [solid_append, solid_append]
    exact h.sublist.append h'.sublist
  content_eq := by
    rw [content_append, content_append, h.content_eq, h'.content_eq]

theorem flatten_map {α : Type} {f g : α → Text} {xs : List α} (h : ∀ x ∈ xs, Keeps (f x) (g x)) :
    Keeps (xs.map f).flatten (xs.map g).flatten := by
  induction xs with
  | nil => exact refl _
  | cons x xs ih =>
    exact (h x List.mem_cons_self).append (ih fun y hy => h y (List.mem_cons_of_mem _ hy))

/-- Marks may be deleted. -/
theorem of_marks (mark : Text) (h : mark.all isMark = true) : Keeps mark [] where
  sublist := List.nil_sublist _
  content_eq := by
    refine (List.filter_eq_nil_iff.2 fun c hc => ?_).symm
    simp [List.all_eq_true.1 h c hc]

theorem drop_mark (mark : Text) {source kept : Text} (hm : mark.all isMark = true)
    (h : Keeps source kept) : Keeps (mark ++ source) kept := by
  simpa using (of_marks mark hm).append h

end Keeps

/-! ### The lines that open items -/

theorem solid_behindMark? {behind text : Text} (h : behindMark? behind = some text) :
    solid text = solid behind := by
  cases behind with
  | nil =>
    rw [behindMark?, Option.some.injEq] at h
    rw [← h]
  | cons c cs =>
    rw [behindMark?] at h
    split at h
    · next hc =>
      rw [Option.some.injEq] at h
      rw [← h, solid_trimStart, solid_cons_of_blank hc]
    · simp at h

theorem keeps_bullet? {line text : Text} {sign : Char} (h : bullet? line = some (sign, text)) :
    Keeps line text := by
  obtain ⟨hsign, behind, rfl, htext⟩ := bullet?_eq_some.1 h
  have hmark : [sign].all isMark = true := by
    rcases hsign with rfl | rfl | rfl <;> rfl
  exact .drop_mark [sign] hmark (.of_solid (solid_behindMark? htext))

theorem keeps_field? {line name text : Text} (h : field? line = some (name, text)) :
    Keeps line (name ++ text) := by
  have colon : [':'].all isMark = true := rfl
  obtain ⟨-, behind, rfl, htext⟩ := field?_eq_some.1 h
  have hbehind : Keeps (':' :: behind) text :=
    .drop_mark [':'] colon (.of_solid (solid_behindMark? htext))
  exact .drop_mark [':'] colon ((Keeps.refl name).append hbehind)

theorem isMark_of_isNumeral {raw : Text} (h : isNumeral raw = true) : raw.all isMark = true := by
  refine List.all_eq_true.2 fun c hc => ?_
  rcases isAlphanum_of_isNumeral h hc with halnum | rfl
  · rw [isMark, halnum, Bool.true_or]
  · rfl

theorem RawEnumerator.all_isMark_mark {raw : RawEnumerator} (h : raw.IsMark) :
    raw.mark.all isMark = true := by
  have hcloser : isMark raw.closer = true := by
    have hclose := h.closer
    simp only [isCloser, Bool.or_eq_true, decide_eq_true_eq] at hclose
    rcases hclose with hclose | hclose <;> rw [hclose] <;> rfl
  have hopening : (if raw.opened then ['('] else []).all isMark = true := by
    split <;> rfl
  rw [RawEnumerator.mark, List.all_append, List.all_append, isMark_of_isNumeral h.numeral, hopening,
    List.all_cons, hcloser]
  rfl

theorem Enumerator.keeps_readIn? {numbering : Text → Numbering} {line : Text} {e : Enumerator}
    (h : Enumerator.readIn? numbering line = some e) : Keeps line e.text := by
  obtain ⟨raw, ordinal, hraw, -, rfl⟩ := Enumerator.readIn?_eq_some.1 h
  obtain ⟨hmark, behind, rfl, htext⟩ := RawEnumerator.read?_eq_some.1 hraw
  exact .drop_mark raw.mark (RawEnumerator.all_isMark_mark hmark)
    (.of_solid (solid_behindMark? htext))

/-- A line with a mark keeps the name of a field and what is behind the mark. -/
theorem Marker.IsOn.keeps {m : Marker} {line : Text} (h : m.IsOn line) :
    Keeps line (m.name ++ m.text) := by
  cases h with
  | field h => exact keeps_field? h
  | bullet h => exact keeps_bullet? h
  | enumerator h => exact Enumerator.keeps_readIn? h

/-! ### Lines -/

/-- The text of several lines. -/
def plain (lines : List Line) : Text := (lines.map (·.text)).flatten

@[simp]
theorem plain_nil : plain [] = [] := rfl

theorem plain_cons (l : Line) (ls : List Line) : plain (l :: ls) = l.text ++ plain ls := rfl

theorem plain_append (a b : List Line) : plain (a ++ b) = plain a ++ plain b := by
  rw [plain, List.map_append, List.flatten_append, plain, plain]

theorem plain_takeWhile_dropWhile (p : Line → Bool) (lines : List Line) :
    plain (lines.takeWhile p) ++ plain (lines.dropWhile p) = plain lines := by
  rw [← plain_append, List.takeWhile_append_dropWhile]

theorem solid_plain (lines : List Line) :
    solid (plain lines) = (lines.map (solid ·.text)).flatten := by
  rw [plain, solid_flatten, List.map_map]
  rfl

theorem solid_of_isBlank {l : Line} (h : l.isBlank = true) : solid l.text = [] :=
  solid_eq_nil.2 h

/-- Blank lines at the end hold nothing solid. -/
theorem solid_plain_trimBlankEnd (lines : List Line) :
    solid (plain (trimBlankEnd lines)) = solid (plain lines) := by
  induction lines using List.reverseRecOn with
  | nil => rfl
  | append_singleton ls l ih =>
    cases h : l.isBlank with
    | true =>
      have hblank : ∀ k ∈ [l], k.isBlank = true := fun k hk => List.mem_singleton.1 hk ▸ h
      rw [trimBlankEnd_append_of_blank hblank, ih, plain_append, solid_append, plain_cons,
        plain_nil, List.append_nil, solid_of_isBlank h, List.append_nil]
    | false => rw [trimBlankEnd_concat h]

theorem solid_dedent (n : Nat) (l : Line) : solid (l.dedent n).text = solid l.text := by
  have hspace : isAllBlank (l.text.take (min n l.indent)) = true := by
    refine List.all_eq_true.2 fun c hc => ?_
    have hsub : l.text.take (min n l.indent) <+: l.text.takeWhile (· = ' ') := by
      refine List.prefix_of_prefix_length_le (List.take_prefix ..) (List.takeWhile_prefix _) ?_
      rw [List.length_take]
      exact Nat.le_trans (Nat.min_le_left ..) (Nat.min_le_right ..)
    have := List.mem_takeWhile_imp (hsub.subset hc)
    rw [of_decide_eq_true this]
    rfl
  conv => rhs; rw [← List.take_append_drop (min n l.indent) l.text]
  rw [solid_append, solid_eq_nil.2 hspace]
  rfl

theorem isBlank_dedent (n : Nat) (l : Line) : (l.dedent n).isBlank = l.isBlank := by
  rw [Bool.eq_iff_iff, Line.isBlank, Line.isBlank, ← solid_eq_nil, ← solid_eq_nil, solid_dedent]

/-- Moving lines to the margin keeps what is solid. -/
theorem solid_plain_flushed (lines : List Line) :
    solid (plain (flushed lines)) = solid (plain lines) := by
  rw [← solid_plain_trimBlankEnd lines, flushed, solid_plain, solid_plain, List.map_map]
  congr 2
  funext l
  exact solid_dedent _ l

theorem keeps_flushed (lines : List Line) : Keeps (plain lines) (plain (flushed lines)) :=
  .of_solid (solid_plain_flushed lines)

/-! ### Lists -/

theorem Marker.kind_next? {m m' : Marker} {line : Text} (h : m.next? line = some m') :
    m'.kind = m.kind := by
  cases m <;> obtain ⟨_, -, rfl⟩ := Option.map_eq_some_iff.1 h <;> rfl

/-- All items of a list have marks of one kind. -/
theorem kind_readList (m : Marker) (line : Line) (below : List Line) :
    ∀ item ∈ (readList m line below).items, item.1.kind = m.kind :=
  forall_marks_readList (fun hkind hnext => (Marker.kind_next? hnext).trans hkind) rfl line below

/-- The text of list items: names of fields, and bodies. -/
def itemsText (items : List (Marker × List Line)) : Text :=
  (items.map fun item => item.1.name ++ plain item.2).flatten

theorem keeps_itemBody {m : Marker} {line : Line} (inner : List Line)
    (h : Keeps line.text (m.name ++ m.text)) :
    Keeps (line.text ++ plain inner) (m.name ++ plain (itemBody m line inner)) := by
  have := h.append (keeps_flushed inner)
  rwa [List.append_assoc] at this

/-- A list and what follows it keep the lines they were read from. -/
theorem keeps_readList {m : Marker} {line : Line} {below : List Line}
    (h : Keeps line.text (m.name ++ m.text)) :
    Keeps (line.text ++ plain below)
      (itemsText (readList m line below).items ++ plain (readList m line below).rest) := by
  fun_induction readList m line below with
  | case1 m line below inner item hd =>
    have hbody := keeps_itemBody inner h
    rw [← plain_takeWhile_dropWhile Line.isInner below, hd]
    simpa [itemsText, item] using hbody
  | case2 m line below inner item next rest hd m' hm run ih =>
    have hrest := ih (Marker.isOn_next? hm).keeps
    have := (keeps_itemBody inner h).append hrest
    rw [← plain_cons next, ← hd, List.append_assoc, plain_takeWhile_dropWhile] at this
    simpa [itemsText, item, run, List.append_assoc] using this
  | case3 m line below inner item next rest hd hm =>
    have := (keeps_itemBody inner h).append (Keeps.refl (plain (next :: rest)))
    rw [← hd, List.append_assoc, plain_takeWhile_dropWhile, hd] at this
    simpa [itemsText, item] using this

/-! ### Segments -/

/-- The text of a construct over the texts of its bodies. -/
def Construct.source (bodies : List Text) : Construct → Text
  | .paragraph text => text
  | .literal text => text
  | .fields names => ((names.zip bodies).map fun e => e.1 ++ e.2).flatten
  | _ => bodies.flatten

/-- The text of a segment, with its bodies not read yet. -/
def Segment.source (segment : Segment) : Text :=
  segment.construct.source (segment.bodies.map plain)

/-- The leaves of the blocks of a construct are its text over the leaves of its bodies. -/
theorem leaves_blocks (bodies : List (List Block)) (construct : Construct) :
    leaves (construct.blocks bodies) = construct.source (bodies.map leaves) := by
  cases construct with
  | paragraph text => cases text <;> simp [Construct.blocks, Construct.source, leaves, leafText]
  | literal text => simp [Construct.blocks, Construct.source, leaves, leafText]
  | quote => simp [Construct.blocks, Construct.source, leaves, leafText, leaves_flatten]
  | bullets => simp [Construct.blocks, Construct.source, leaves, leafText, itemLeaves_eq]
  | numbered numbering start =>
    simp [Construct.blocks, Construct.source, leaves, leafText, itemLeaves_eq]
  | fields names => simp [Construct.blocks, Construct.source, leaves, leafText, entryLeaves_zip]

theorem Construct.keeps_source {bodies : List (List Line)} {f : List Line → Text}
    (h : ∀ body ∈ bodies, Keeps (plain body) (f body)) (construct : Construct) :
    Keeps (construct.source (bodies.map plain)) (construct.source (bodies.map f)) := by
  have flat : Keeps (bodies.map plain).flatten (bodies.map f).flatten := .flatten_map h
  cases construct with
  | paragraph text => exact .refl _
  | literal text => exact .refl _
  | quote => exact flat
  | bullets => exact flat
  | numbered numbering start => exact flat
  | fields names =>
    clear flat
    rw [source, source]
    induction names generalizing bodies with
    | nil => exact .refl _
    | cons name names ih =>
      cases bodies with
      | nil => exact .refl _
      | cons body bodies =>
        have hbody := (Keeps.refl name).append (h body List.mem_cons_self)
        exact hbody.append (ih fun b hb => h b (List.mem_cons_of_mem _ hb))

theorem Marker.name_eq_nil {m : Marker} (h : m.kind ≠ .field) : m.name = [] := by
  cases m with
  | field name text => exact absurd rfl h
  | bullet sign text => rfl
  | enumerator mark => rfl

/-- Only the items of field lists have names. -/
theorem source_ofMarkers {m : Marker} {items : List (Marker × List Line)}
    (h : ∀ item ∈ items, item.1.kind = m.kind) :
    (Construct.ofMarkers m (items.map (·.1))).source ((items.map (·.2)).map plain)
      = itemsText items := by
  have nameless (hm : m.kind ≠ .field) :
      ((items.map (·.2)).map plain).flatten = itemsText items := by
    rw [itemsText, List.map_map]
    refine congrArg List.flatten (List.map_congr_left fun item hi => ?_)
    rw [Marker.name_eq_nil (h item hi ▸ hm)]
    rfl
  cases m with
  | field name text =>
    rw [Construct.ofMarkers, Construct.source, itemsText, List.map_map, List.map_map, List.zip_map',
      List.map_map]
    rfl
  | bullet sign text => exact nameless (by simp [Marker.kind])
  | enumerator mark => exact nameless (by simp [Marker.kind])

theorem source_segment (m : Marker) (line : Line) (below : List Line) :
    ((readList m line below).segment m).source = itemsText (readList m line below).items :=
  source_ofMarkers (kind_readList m line below)

/-- A paragraph loses at most the colons that announce a literal block. -/
theorem keeps_paragraphText (lines : List Line) : Keeps (plain lines) (paragraphText lines).1 := by
  have hjoin : Keeps (plain lines) (join ['\n'] (lines.map (·.text))) :=
    .of_solid (solid_join rfl _)
  refine hjoin.trans ?_
  simp only [paragraphText]
  split
  · next kept hk =>
    rw [dropEnd?_eq_some hk, announcedText]
    split
    · have := (Keeps.of_solid (solid_trimEnd kept)).append (.of_marks [':', ':'] (by decide))
      rwa [List.append_nil] at this
    · exact (Keeps.refl kept).append (.drop_mark [':'] rfl (.refl [':']))
  · exact .refl _

/-- The segments of lines, with their bodies not read yet, keep the lines. -/
theorem keeps_segments (announced : Bool) (lines : List Line) :
    Keeps (plain lines) ((segments announced lines).map Segment.source).flatten := by
  -- each case cuts the lines in two: a segment keeps the one part, the induction the other
  fun_induction segments announced lines with
  | case1 => exact .refl _
  | case2 announced line below hb ih =>
    have hline : Keeps line.text [] := .of_solid (solid_of_isBlank hb).symm
    exact hline.append ih
  | case3 announced line below hb hi inner segment ih =>
    have hinner : Keeps (plain (line :: below.takeWhile Line.isInner)) segment.source := by
      refine (keeps_flushed _).trans (.of_solid ?_)
      simp only [segment]
      split
      · exact solid_join rfl _
      · simp [Segment.source, Construct.source, inner]
    have := hinner.append ih
    rwa [plain_cons, List.append_assoc, plain_takeWhile_dropWhile] at this
  | case4 announced line below hb hi m hm run ih =>
    have hlist : Keeps (plain (line :: below)) (itemsText run.items ++ plain run.rest) :=
      keeps_readList (Marker.isOn_first? hm).keeps
    rw [← source_segment m line below] at hlist
    exact hlist.trans ((Keeps.refl _).append ih)
  | case5 announced line below hb hi hm text announces hp rest ih =>
    have htext := keeps_paragraphText (line :: below.takeWhile Line.isFlush)
    have := htext.append ih
    rwa [plain_cons, List.append_assoc, plain_takeWhile_dropWhile, hp] at this

/-! ### Whole documents -/

theorem leaves_concat (documents : List Document) :
    leaves (Document.concat documents).blocks = (documents.map (leaves ·.blocks)).flatten := by
  induction documents with
  | nil => rfl
  | cons d ds ih =>
    rw [List.map_cons, List.flatten_cons, ← ih, ← leaves_append]
    rfl

/-- The leaves of what is read keep the lines. -/
theorem keeps_readDocument (lines : List Line) :
    Keeps (plain lines) (leaves (readDocument lines).blocks) := by
  induction lines using readDocument_induction with
  | step lines ih =>
    refine (keeps_segments false lines).trans ?_
    rw [leaves_concat, List.map_map]
    refine .flatten_map fun s hs => ?_
    rw [Function.comp_apply, Segment.document, leaves_blocks, List.map_map, List.map_map]
    exact Construct.keeps_source (ih s hs) s.construct

/-- Of the pieces of a text only an empty one at the end is no line. -/
theorem splitOn_eq_rawLines (text : Text) :
    splitOn '\n' text = rawLines text ∨ splitOn '\n' text = rawLines text ++ [[]] := by
  rw [rawLines]
  split
  · next h =>
    obtain ⟨pieces, hp⟩ := List.getLast?_eq_some_iff.1 h
    exact .inr (by rw [hp, List.dropLast_concat])
  · exact .inl rfl

theorem flatten_rawLines (text : Text) : (rawLines text).flatten = (splitOn '\n' text).flatten := by
  rcases splitOn_eq_rawLines text with h | h
  · rw [h]
  · rw [h, List.flatten_append]
    exact (List.append_nil _).symm

theorem map_text_readLines (text : Text) :
    (readLines text).map (·.text) = (rawLines text).map fun raw => trimEnd (expandTabs 0 raw) := by
  refine List.ext_getElem? fun i => ?_
  simp [readLines, Function.comp_def]

theorem solid_plain_readLines (text : Text) : solid (plain (readLines text)) = solid text := by
  have hfeed : isBlank '\n' = true := rfl
  rw [plain, map_text_readLines, solid_flatten, List.map_map, ← solid_flatten_splitOn hfeed text,
    ← flatten_rawLines, solid_flatten]
  refine congrArg List.flatten (List.map_congr_left fun raw _ => ?_)
  exact (solid_trimEnd _).trans (solid_expandTabs 0 raw)

theorem keeps_parse {text : Text} {document : Document} (h : parse text = .ok document) :
    Keeps text (leaves document.blocks) := by
  obtain ⟨-, rfl⟩ := parse_eq_ok h
  exact (Keeps.of_solid (solid_plain_readLines text)).trans (keeps_readDocument _)

/-- Reading a text keeps it: apart from blanks, the leaves of the document are the text with
characters deleted, and the characters that make up no mark are all there, in their order. -/
theorem leaves_parse {text : Text} {document : Document} (h : parse text = .ok document) :
    (solid (leaves document.blocks)).Sublist (solid text)
      ∧ content (leaves document.blocks) = content text := by
  have hkeeps := keeps_parse h
  exact ⟨hkeeps.sublist, hkeeps.content_eq⟩

/-- A numbered list in the body of a field, with a literal block in its first item. -/
theorem leaves_parse_nested :
    ∃ document, parse ":do:\n  1. Run\n     so::\n\n       a <b>\n\n  2. *Stop*" = .ok document
      ∧ leaves document.blocks = "doRun\nso:a <b>*Stop*".toList
      ∧ (solid (leaves document.blocks)).Sublist
          (solid ":do:\n  1. Run\n     so::\n\n       a <b>\n\n  2. *Stop*")
      ∧ content (leaves document.blocks)
          = content ":do:\n  1. Run\n     so::\n\n       a <b>\n\n  2. *Stop*" := by
  have hparse : parse ":do:\n  1. Run\n     so::\n\n       a <b>\n\n  2. *Stop*"
      = .ok (readDocument (readLines ":do:\n  1. Run\n     so::\n\n       a <b>\n\n  2. *Stop*")) :=
    parse_of_allowed (by decide +kernel)
  exact ⟨_, hparse, by decide +kernel, leaves_parse hparse⟩

end Testbook.Markup
