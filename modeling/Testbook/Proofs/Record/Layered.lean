import Testbook.Proofs.Markup.ItemLine
import Testbook.Proofs.Markup.Joined
import Testbook.Proofs.Record.Paragraphs
import Testbook.Proofs.Record.Resolve

/-!
Documentation in layers. Two documentation texts in one, with an empty line between, say the same as
the two in nested scopes: the fields of the second replace those of the first
(`documented_joined`), when the second starts with a field. A field list at the end of the first
text then goes on in the second, so that two lists become one (`declarations_gap`); what stands in
front of it, and any other construct at the end, is read as before.
-/

namespace Testbook

open Testbook.Text Testbook.Markup

/-! ### Lines that start a field -/

namespace Markup

variable {line name text : Text}

/-- A field stands at the margin. -/
theorem isFlush_of_field? {l : Line} (h : field? l.text = some (name, text)) :
    l.isBlank = false ∧ l.indent = 0 := by
  obtain ⟨-, behind, hline, -⟩ := field?_eq_some.1 h
  have hcolon : isBlank ':' = false := by decide
  constructor
  · rw [Line.isBlank, isAllBlank, hline, List.all_cons, hcolon, Bool.false_and]
  · simp [Line.indent, hline]

/-- A field goes on a field list and no other list. -/
theorem next?_of_field? (h : field? line = some (name, text)) (m : Marker) :
    m.next? line = if m.kind = .field then some (.field name text) else none := by
  obtain ⟨-, behind, hline, -⟩ := field?_eq_some.1 h
  cases m with
  | field name' text' =>
    rw [Marker.next?, h]
    rfl
  | bullet sign text' =>
    have hnone : bullet? line = none := by rw [hline]; rfl
    rw [Marker.next?, hnone]
    rfl
  | enumerator e =>
    have hnone : RawEnumerator.read? line = none := by
      refine Option.eq_none_iff_forall_ne_some.2 fun raw hraw => ?_
      obtain ⟨hmark, behind', rfl, -⟩ := RawEnumerator.read?_eq_some.1 hraw
      rw [(hmark.field?_append behind').1] at h
      cases h
    rw [Marker.next?, Enumerator.next?, Enumerator.readIn?, hnone]
    rfl

/-- What is behind a mark is set off by blanks also when the tabs are expanded. -/
theorem isSome_behindMark?_tidyFrom (column : Nat) (h : (behindMark? text).isSome = true) :
    (behindMark? (tidyFrom column text)).isSome = true := by
  rw [isSome_behindMark?] at h ⊢
  cases htidy : tidyFrom column text with
  | nil => rfl
  | cons c cs =>
    obtain ⟨blanks, hcut⟩ := prefix_trimEnd (expandTabs column text)
    rw [← tidyFrom, htidy, List.cons_append] at hcut
    have hhead := head?_expandTabs column text
    rw [← hcut] at hhead
    cases text with
    | nil => cases htidy
    | cons d ds => exact hhead.trans h

/-- Reading leaves a field a field. -/
theorem isSome_field?_tidyFrom (h : (field? line).isSome = true) :
    (field? (tidyFrom 0 line)).isSome = true := by
  obtain ⟨⟨name, text⟩, h⟩ := Option.isSome_iff_exists.1 h
  obtain ⟨⟨hcolon, hname⟩, behind, rfl, hbehind⟩ := field?_eq_some.1 h
  obtain ⟨column, hread⟩ := tidyFrom_append (c := ':') (by decide) 0 (':' :: name) behind
  rw [List.cons_append, expandTabs_cons (by decide), List.cons_append] at hread
  obtain ⟨text', htext'⟩ := Option.isSome_iff_exists.1
    (isSome_behindMark?_tidyFrom column (Option.isSome_iff_exists.2 ⟨text, hbehind⟩))
  refine Option.isSome_iff_exists.2 ⟨(expandTabs (0 + 1) name, text'), field?_eq_some.2 ?_⟩
  refine ⟨⟨fun hmem => hcolon (mem_of_mem_expandTabs (by decide) hmem), ?_⟩, _, hread, htext'⟩
  rw [isFieldName_expandTabs, hname]

end Markup

/-! ### Fields on both sides of a gap -/

theorem declarations_append (a b : List Block) :
    declarations (a ++ b) = declarations a ++ declarations b := by
  rw [declarations_eq, declarations_eq, declarations_eq, ← fieldValues_append]
  refine congrArg _ ?_
  induction a with
  | nil => rfl
  | cons block blocks ih => rw [List.cons_append, bodies, ih, bodies, List.append_assoc]

/-- The blocks that a segment makes up. -/
def segmentBlocks (s : Segment) : List Block :=
  s.construct.blocks (s.bodies.map fun body => (readDocument body).blocks)

/-- The fields that segments declare. -/
def segmentFields (segments : List Segment) : List (Text × Text) :=
  declarations (segments.flatMap segmentBlocks)

theorem segmentFields_cons (s : Segment) (segments : List Segment) :
    segmentFields (s :: segments) = segmentFields [s] ++ segmentFields segments := by
  rw [segmentFields, List.flatMap_cons, declarations_append, segmentFields, List.flatMap_singleton]
  rfl

theorem segmentFields_segments (lines : List Line) :
    segmentFields (segments false lines) = declarations (readDocument lines).blocks := by
  rw [blocks_readDocument]
  rfl

/-- The fields of a field list. -/
theorem segmentFields_fields {m : Marker} (hm : m.kind = .field) (run : ListRun) :
    segmentFields [run.segment m]
      = run.items.map fun item => (lower item.1.name, fieldValue (readDocument item.2).blocks) := by
  cases m with
  | field name text =>
    have hblocks : segmentBlocks (run.segment (.field name text))
        = [.fields (run.items.map fun item => (item.1.name, (readDocument item.2).blocks))] := by
      rw [segmentBlocks, ListRun.segment, Construct.ofMarkers, Construct.blocks, List.map_map,
        List.map_map, List.zip_map']
      rfl
    rw [segmentFields, List.flatMap_singleton, hblocks, declarations, declarations, declaredIn,
      declaredEntries, List.map_map, List.append_nil]
    rfl
  | bullet sign text => cases hm
  | enumerator e => cases hm

theorem isGap_of_field? {blanks rest : List Line} {next : Line} {name text : Text}
    (hblanks : ∀ l ∈ blanks, l.isBlank = true) (hne : blanks ≠ [])
    (h : field? next.text = some (name, text)) : IsGap blanks (next :: rest) := by
  refine ⟨hblanks, fun l hl => ?_, fun _ => hne⟩
  obtain rfl := Option.some.inj hl
  obtain ⟨hb, hi⟩ := isFlush_of_field? h
  rw [Line.isInner, hb, hi]
  rfl

/-- Behind a gap a field list may go on, and its fields are those on both sides. -/
theorem declarations_gap {blanks rest : List Line} {next : Line} {name text : Text}
    (hblanks : ∀ l ∈ blanks, l.isBlank = true) (hne : blanks ≠ [])
    (hfield : field? next.text = some (name, text)) (lines : List Line) :
    declarations (readDocument (lines ++ (blanks ++ next :: rest))).blocks
      = declarations (readDocument lines).blocks
        ++ declarations (readDocument (next :: rest)).blocks := by
  rw [← segmentFields_segments, ← segmentFields_segments, ← segmentFields_segments]
  refine segments_gap (isGap_of_field? hblanks hne hfield) (fun upper whole =>
    segmentFields whole = segmentFields upper ++ segmentFields (segments false (next :: rest)))
    rfl ?_ ?_ false lines
  · intro s upper whole hrest
    rw [segmentFields_cons, hrest, ← List.append_assoc, ← segmentFields_cons]
  · rintro m line below run item rfl hitem - hmessage
    have hkind := kind_readList m line below item hitem
    have hresume := next?_of_field? hfield item.1
    obtain ⟨hb, hi⟩ := isFlush_of_field? hfield
    have hfirst : Marker.first? next.text rest = some (.field name text) := by
      rw [Marker.first?, hfield]
    rw [ListRun.resume, hresume, hkind]
    by_cases hm : m.kind = .field
    · -- the two lists become one
      have hupper := segmentFields_fields hm (readList m line below)
      have hlower := segmentFields_fields (m := .field name text) rfl
        (readList (.field name text) next rest)
      simp only [if_pos hm]
      rw [segments_of_marker hb hi hfirst, segmentFields_cons, segmentFields_fields hm, hupper,
        segmentFields_cons (ListRun.segment (.field name text) _), hlower, List.map_append,
        List.append_assoc]
    · simp only [if_neg hm]
      rw [segmentFields_cons, ListRun.segment, ListRun.segment, hmessage]

/-! ### Texts -/

/-- Fields written one after another are those in front, with those behind in their place. -/
theorem Fields.ofList_append (a b : List (Text × Text)) :
    Fields.ofList (a ++ b) = (Fields.ofList a).override (Fields.ofList b) := by
  refine Fields.ext_get? fun name => ?_
  rw [Fields.get?_override, Fields.get?_ofList, Fields.get?_ofList, Fields.get?_ofList,
    List.reverse_append, List.lookup_append]

theorem documented_of_parse {doc : Text} {document : Document} (h : parse doc = .ok document) :
    documented doc = .ofList (declarations document.blocks) := by
  rw [documented, h]

theorem declared?_pair {outer inner : Scope} {above below : Text} (houter : outer.doc = some above)
    (hinner : inner.doc = some below) (name : Text) : declared? [outer, inner] name
      = ((documented above).override (documented below)).get? name := by
  have hreverse : [outer, inner].reverse = [inner, outer] := rfl
  rw [Fields.get?_override, declared?, hreverse, List.findSome?_cons, List.findSome?_cons,
    List.findSome?_nil, houter, hinner, documented?, documented?]
  cases (documented below).get? name with
  | some value => rfl
  | none => cases (documented above).get? name <;> rfl

/-- A text with a field behind two line feeds declares what is declared on both sides of them, and
what is declared behind them counts. -/
theorem documented_append_field {above below line : Text} {upper lower : Document}
    (habove : parse above = .ok upper) (hbelow : parse below = .ok lower)
    (hline : (rawLines below).head? = some line) (hfield : (field? line).isSome = true) :
    documented (above ++ '\n' :: '\n' :: below)
      = (documented above).override (documented below) := by
  obtain ⟨blanks, hne, hblanks, hread⟩ := parse_two_feeds habove hbelow
  obtain ⟨-, rfl⟩ := parse_eq_ok habove
  obtain ⟨-, rfl⟩ := parse_eq_ok hbelow
  obtain ⟨rest, hlines⟩ := List.head?_eq_some_iff.1 (exists_head?_readLines hline)
  obtain ⟨⟨name, text⟩, hname⟩ := Option.isSome_iff_exists.1 (isSome_field?_tidyFrom hfield)
  have hlower (f : Nat → Nat) :
      declarations (readDocument (renumberAll f (⟨1, tidyFrom 0 line⟩ :: rest))).blocks
        = declarations (readDocument (readLines below)).blocks := by
    rw [hlines, blocks_readDocument_eq (map_text_renumberAll f _)]
  rw [hlines] at hread
  rw [documented_of_parse hread, renumberAll_cons, declarations_gap hblanks hne hname,
    ← renumberAll_cons, hlower, Fields.ofList_append, ← documented_of_parse habove,
    ← documented_of_parse hbelow]

/-- A documentation text with an empty line in it declares what is below the line, and what is above
for the names that are not declared below, when a field stands first below. So do a scope that is
documented by what is above and one inside it that is documented by what is below, the markers
apart. -/
theorem documented_joined {above below line : Text} {upper lower : Document}
    (habove : parse above = .ok upper) (hbelow : parse below = .ok lower)
    (hline : (rawLines below).head? = some line) (hfield : (field? line).isSome = true) :
    documented (above ++ '\n' :: '\n' :: below) = (documented above).override (documented below)
      ∧ ∀ outer inner : Scope, outer.doc = some above → inner.doc = some below →
        ∀ ignored name, name ≠ markersField → (resolve [outer, inner] ignored).fields.get? name
          = (documented (above ++ '\n' :: '\n' :: below)).get? name := by
  have hjoined := documented_append_field habove hbelow hline hfield
  refine ⟨hjoined, fun outer inner houter hinner ignored name hname => ?_⟩
  rw [get?_resolve _ _ hname, declared?_pair houter hinner, hjoined]

/-- A field list that goes on behind the empty line, with one of its names written again. -/
theorem documented_joined_resumed :
    (documented ":id: A\n:owner: x\n\n:ID: B").entries
        = [("id".toList, "B".toList), ("owner".toList, "x".toList)]
      ∧ documented ":id: A\n:owner: x\n\n:ID: B"
        = (documented ":id: A\n:owner: x").override (documented ":ID: B")
      ∧ ∀ outer inner : Scope, outer.doc = some ":id: A\n:owner: x".toList →
        inner.doc = some ":ID: B".toList → ∀ ignored name, name ≠ markersField →
          (resolve [outer, inner] ignored).fields.get? name
            = (documented ":id: A\n:owner: x\n\n:ID: B").get? name := by
  have habove : parse ":id: A\n:owner: x" = .ok (readDocument (readLines ":id: A\n:owner: x")) :=
    parse_of_allowed (by decide +kernel)
  have hbelow : parse ":ID: B" = .ok (readDocument (readLines ":ID: B")) :=
    parse_of_allowed (by decide +kernel)
  have hline : (rawLines ":ID: B").head? = some ":ID: B".toList := by decide +kernel
  have hfield : (field? ":ID: B").isSome = true := by decide
  exact ⟨by decide +kernel, documented_joined habove hbelow hline hfield⟩

end Testbook
