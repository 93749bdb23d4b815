import Testbook.Markup.Marker

/-!
Cutting lines into segments. A segment is a construct that starts at the margin together with
the lines of its nested bodies, which are not read yet: one per list item, one for a quote, none
for a paragraph or a literal block. Every nested body is lighter than the lines it was cut from
(`weight_body_lt`), so reading the bodies in turn comes to an end.
-/

namespace Testbook.Markup

open Testbook.Text

/-- A construct without its nested bodies. -/
inductive Construct where
  | paragraph (text : Text)
  | literal (text : Text)
  | quote
  | bullets
  | numbered (numbering : Numbering) (start : Nat)
  | fields (names : List Text)

/-- The list construct of a first mark, when all marks of the list are given. -/
def Construct.ofMarkers (first : Marker) (all : List Marker) : Construct :=
  match first with
  | .bullet .. => .bullets
  | .field .. => .fields (all.map Marker.name)
  | .enumerator mark => .numbered mark.numbering (mark.ordinal.getD 1)

/-- The blocks of a construct over its bodies. A paragraph that announced a literal block and
held nothing else leaves no block. -/
def Construct.blocks (bodies : List (List Block)) : Construct → List Block
  | .paragraph [] => []
  | .paragraph text => [.paragraph text]
  | .literal text => [.literal text]
  | .quote => [.quote bodies.flatten]
  | .bullets => [.bullets bodies]
  | .numbered numbering start => [.numbered numbering start bodies]
  | .fields names => [.fields (names.zip bodies)]

/-- A construct, the lines of its nested bodies, and the message that its end gives rise to. -/
structure Segment where
  construct : Construct
  bodies : List (List Line)
  message : Option Message

/-- The items of a list with the lines of their bodies, the message on how the list ends, and
the lines behind it. -/
structure ListRun where
  items : List (Marker × List Line)
  message : Option Message
  rest : List Line

/-- The lines of an item's body: what follows the mark, and the lines below moved to the margin. -/
def itemBody (m : Marker) (line : Line) (inner : List Line) : List Line :=
  ⟨line.number, m.text⟩ :: flushed inner

/-- The message on a list followed by `next` when its last line is not blank. -/
def unindentMessage (kind : ListKind) (item : List Line) (next : Line) : Option Message :=
  if item.getLast?.any Line.isBlank then none
  else some ⟨next.number, .unexpectedUnindent kind⟩

/-- The list whose first item has mark `m` on `line`, with the lines `below` it. -/
def readList (m : Marker) (line : Line) (below : List Line) : ListRun :=
  let inner := below.takeWhile Line.isInner
  let item := (m, itemBody m line inner)
  match _h : below.dropWhile Line.isInner with
  | [] => ⟨[item], none, []⟩
  | next :: rest =>
    match m.next? next.text with
    | some m' =>
      let run := readList m' next rest
      ⟨item :: run.items, run.message, run.rest⟩
    | none => ⟨[item], unindentMessage m.kind (line :: inner) next, next :: rest⟩
termination_by below.length
decreasing_by
  have := (List.dropWhile_sublist (l := below) Line.isInner).length_le
  rw [_h] at this
  exact this

/-- The segment of a list. -/
def ListRun.segment (m : Marker) (run : ListRun) : Segment :=
  ⟨.ofMarkers m (run.items.map (·.1)), run.items.map (·.2), run.message⟩

/-- The text of a paragraph that ends with two colons, and so announces a literal block: one
colon stays behind a word, none behind a blank. -/
def announcedText (text : Text) : Text :=
  if text.getLast?.all isBlank then trimEnd text else text ++ [':']

/-- The text of a paragraph, and whether it announces a literal block. -/
def paragraphText (lines : List Line) : Text × Bool :=
  let text := join ['\n'] (lines.map (·.text))
  match dropEnd? [':', ':'] text with
  | some kept => (announcedText kept, true)
  | none => (text, false)

/-- The message on a paragraph that is followed by an indented line. -/
def indentMessage : List Line → Option Message
  | [] => none
  | next :: _ => if next.isBlank then none else some ⟨next.number, .unexpectedIndentation⟩

theorem readList_rest_le (m : Marker) (line : Line) (below : List Line) :
    (readList m line below).rest.length ≤ below.length := by
  fun_induction readList m line below with
  | case1 => exact Nat.zero_le _
  | case2 m line below inner item next rest hd m' hm run ih =>
    have := (List.dropWhile_sublist (l := below) Line.isInner).length_le
    rw [hd] at this
    exact Nat.le_trans ih (Nat.le_of_succ_le this)
  | case3 m line below inner item next rest hd hm =>
    have := (List.dropWhile_sublist (l := below) Line.isInner).length_le
    rw [hd] at this
    exact this

/-- The segments of a sequence of lines; `announced` tells that an indented block at the front is
a literal block. -/
def segments (announced : Bool) : List Line → List Segment
  | [] => []
  | line :: below =>
    if line.isBlank then segments announced below
    else if 0 < line.indent then
      let inner := flushed (line :: below.takeWhile Line.isInner)
      let segment : Segment :=
        if announced then ⟨.literal (join ['\n'] (inner.map (·.text))), [], none⟩
        else ⟨.quote, [inner], none⟩
      segment :: segments false (below.dropWhile Line.isInner)
    else match Marker.first? line.text below with
      | some m =>
        let run := readList m line below
        run.segment m :: segments false run.rest
      | none =>
        let (text, announces) := paragraphText (line :: below.takeWhile Line.isFlush)
        let rest := below.dropWhile Line.isFlush
        ⟨.paragraph text, [], indentMessage rest⟩ :: segments announces rest
termination_by lines => lines.length
decreasing_by
  · exact Nat.lt_succ_self _
  · exact Nat.lt_succ_of_le (List.dropWhile_sublist _).length_le
  · exact Nat.lt_succ_of_le (readList_rest_le _ _ _)
  · exact Nat.lt_succ_of_le (List.dropWhile_sublist _).length_le

/-! ### Nested bodies are lighter -/

theorem weight_itemBody_lt {m : Marker} {line : Line} {below : List Line}
    (h : m.text.length < line.text.length) :
    weight (itemBody m line (below.takeWhile Line.isInner)) < weight (line :: below) := by
  have h1 := weight_flushed_le (below.takeWhile Line.isInner)
  have h2 := weight_sublist (List.takeWhile_sublist (l := below) Line.isInner)
  simp only [itemBody, weight_cons]
  omega

theorem weight_readList_lt {m : Marker} {line : Line} {below : List Line}
    (h : m.text.length < line.text.length) :
    ∀ item ∈ (readList m line below).items, weight item.2 < weight (line :: below) := by
  fun_induction readList m line below with
  | case1 =>
    intro i hi
    cases List.mem_singleton.1 hi
    exact weight_itemBody_lt h
  | case2 m line below inner item next rest hd m' hm run ih =>
    intro i hi
    rcases List.mem_cons.1 hi with rfl | hi
    · exact weight_itemBody_lt h
    · have h1 := ih (Marker.isOn_next? hm).suffix.2 i hi
      have h2 := weight_sublist (List.dropWhile_sublist (l := below) Line.isInner)
      rw [hd] at h2
      rw [weight_cons]
      omega
  | case3 =>
    intro i hi
    cases List.mem_singleton.1 hi
    exact weight_itemBody_lt h

theorem readList_rest_sublist (m : Marker) (line : Line) (below : List Line) :
    (readList m line below).rest.Sublist below := by
  fun_induction readList m line below with
  | case1 => exact List.nil_sublist _
  | case2 m line below inner item next rest hd m' hm run ih =>
    have := List.dropWhile_sublist (l := below) Line.isInner
    rw [hd] at this
    exact ih.trans ((List.sublist_cons_self next rest).trans this)
  | case3 m line below inner item next rest hd hm =>
    have := List.dropWhile_sublist (l := below) Line.isInner
    rwa [hd] at this

theorem all_isInner_takeWhile (lines : List Line) :
    ∀ l ∈ lines.takeWhile Line.isInner, l.isInner = true := by
  induction lines with
  | nil => simp
  | cons k ks ih =>
    intro l hl
    by_cases hk : k.isInner = true
    · rw [List.takeWhile_cons_of_pos hk] at hl
      rcases List.mem_cons.1 hl with rfl | hl
      · exact hk
      · exact ih l hl
    · simp [hk] at hl

/-- Every nested body of a segment is lighter than the lines that were cut. -/
theorem weight_body_lt (announced : Bool) (lines : List Line) :
    ∀ segment ∈ segments announced lines, ∀ body ∈ segment.bodies, weight body < weight lines := by
  fun_induction segments announced lines with
  | case1 => simp
  | case2 announced line below hb ih =>
    intro s hs b hbody
    have := ih s hs b hbody
    rw [weight_cons]
    omega
  | case3 announced line below hb hi inner segment ih =>
    intro s hs b hbody
    have h2 := weight_sublist (List.takeWhile_sublist (l := below) Line.isInner)
    rcases List.mem_cons.1 hs with rfl | hs
    · have hline : line.isBlank = false := by simpa using hb
      have h1 : weight inner < weight (line :: below.takeWhile Line.isInner) := by
        refine weight_flushed_lt hline fun k hk => ?_
        rcases List.mem_cons.1 hk with rfl | hk
        · simp [Line.isInner, hi]
        · exact all_isInner_takeWhile _ k hk
      have hb' : b = inner := by
        simp only [segment] at hbody
        split at hbody <;> simp_all
      subst hb'
      simp only [weight_cons] at h1 ⊢
      omega
    · have := ih s hs b hbody
      have h3 := weight_sublist (List.dropWhile_sublist (l := below) Line.isInner)
      rw [weight_cons]
      omega
  | case4 announced line below hb hi m hm run ih =>
    intro s hs b hbody
    rcases List.mem_cons.1 hs with rfl | hs
    · obtain ⟨item, hitem, rfl⟩ := List.mem_map.1 hbody
      exact weight_readList_lt (Marker.isOn_first? hm).suffix.2 item hitem
    · have h1 := ih s hs b hbody
      have h2 := weight_sublist (readList_rest_sublist m line below)
      rw [weight_cons]
      exact Nat.lt_of_lt_of_le h1 (Nat.le_trans h2 (Nat.le_add_left _ _))
  | case5 announced line below hb hi hm text announces hp rest ih =>
    intro s hs b hbody
    rcases List.mem_cons.1 hs with rfl | hs
    · simp at hbody
    · have h1 := ih s hs b hbody
      have h2 := weight_sublist (List.dropWhile_sublist (l := below) Line.isFlush)
      rw [weight_cons]
      exact Nat.lt_of_lt_of_le h1 (Nat.le_trans h2 (Nat.le_add_left _ _))

end Testbook.Markup
