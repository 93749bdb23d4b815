import Testbook.Proofs.Markup.Step

/-!
Field lists written line by line: for each field a line with its name between colons, and below it
the lines of its body. They are read as one field list, where each name has the blocks of its own
lines (`blocks_fieldLines`).
-/

namespace Testbook.Markup

open Testbook.Text

/-- The line of a field that has its body on the lines below. -/
def fieldHead (name : Text) : Text := ':' :: name ++ [':']

/-- The lines of fields, each given by its name and the lines below. -/
def fieldLines : List (Text × List Line) → List Line
  | [] => []
  | (name, inner) :: fields => ⟨0, fieldHead name⟩ :: (inner ++ fieldLines fields)

/-- A name that can be written, and lines that belong to an indented block. -/
structure IsField (field : Text × List Line) : Prop where
  name : isFieldName field.1 = true
  noColon : ':' ∉ field.1
  inner : ∀ l ∈ field.2, l.isInner = true

theorem field?_fieldHead {name : Text} (hname : isFieldName name = true) (hcolon : ':' ∉ name) :
    field? (fieldHead name) = some (name, []) :=
  field?_eq_some.2 ⟨⟨hcolon, hname⟩, [], rfl, rfl⟩

theorem isFlush_fieldHead (number : Nat) (name : Text) :
    Line.isBlank ⟨number, fieldHead name⟩ = false ∧ Line.indent ⟨number, fieldHead name⟩ = 0 :=
  ⟨rfl, rfl⟩

theorem cut_fieldLines {field : Text × List Line} (h : IsField field)
    (fields : List (Text × List Line)) :
    (field.2 ++ fieldLines fields).takeWhile Line.isInner = field.2
      ∧ (field.2 ++ fieldLines fields).dropWhile Line.isInner = fieldLines fields := by
  rw [List.takeWhile_append_of_pos h.inner, List.dropWhile_append_of_pos h.inner]
  cases fields with
  | nil => exact ⟨List.append_nil _, rfl⟩
  | cons next fields =>
    have hnext : ¬ Line.isInner ⟨0, fieldHead next.1⟩ = true := Bool.false_ne_true
    rw [fieldLines, List.takeWhile_cons_of_neg hnext, List.dropWhile_cons_of_neg hnext,
      List.append_nil]
    exact ⟨rfl, rfl⟩

/-- A field as an item of the list. -/
def fieldItem (field : Text × List Line) : Marker × List Line :=
  (.field field.1 [], ⟨0, []⟩ :: flushed field.2)

/-- Each field is an item, up to the end of the lines. -/
theorem readList_fieldLines {field : Text × List Line} {fields : List (Text × List Line)}
    (h : ∀ f ∈ field :: fields, IsField f) :
    readList (.field field.1 []) ⟨0, fieldHead field.1⟩ (field.2 ++ fieldLines fields)
      = ⟨(field :: fields).map fieldItem, none, []⟩ := by
  induction fields generalizing field with
  | nil =>
    obtain ⟨htake, hdrop⟩ := cut_fieldLines (h field List.mem_cons_self) []
    rw [readList_of_nil hdrop, htake]
    rfl
  | cons next fields ih =>
    obtain ⟨hfield, hfields⟩ := List.forall_mem_cons.1 h
    have hnext := hfields next List.mem_cons_self
    obtain ⟨htake, hdrop⟩ := cut_fieldLines hfield (next :: fields)
    have hmark : Marker.next? (.field field.1 []) (fieldHead next.1) = some (.field next.1 []) := by
      rw [Marker.next?, field?_fieldHead hnext.name hnext.noColon]
      rfl
    rw [readList_of_next hdrop hmark, htake, ih hfields]
    rfl

theorem blocks_blank_cons (lines : List Line) :
    (readDocument (⟨0, []⟩ :: lines)).blocks = (readDocument lines).blocks := by
  have hblank : Line.isBlank ⟨0, []⟩ = true := rfl
  rw [blocks_readDocument, segments_of_blank hblank, ← blocks_readDocument]

/-- The lines of fields are one field list, with the blocks of the lines below each name. -/
theorem blocks_fieldLines {fields : List (Text × List Line)} (hne : fields ≠ [])
    (h : ∀ f ∈ fields, IsField f) : (readDocument (fieldLines fields)).blocks
      = [.fields (fields.map fun f => (f.1, (readDocument (flushed f.2)).blocks))] := by
  cases fields with
  | nil => exact absurd rfl hne
  | cons field fields =>
    have hfield := h field List.mem_cons_self
    obtain ⟨hb, hi⟩ := isFlush_fieldHead 0 field.1
    have hmark (below : List Line) :
        Marker.first? (fieldHead field.1) below = some (.field field.1 []) := by
      rw [Marker.first?, field?_fieldHead hfield.name hfield.noColon]
    have hnames : (((field :: fields).map fieldItem).map (·.1)).map Marker.name
        = (field :: fields).map (·.1) := by
      rw [List.map_map, List.map_map]
      rfl
    have hbodies : (((field :: fields).map fieldItem).map (·.2)).map (fun body =>
          (readDocument body).blocks)
        = (field :: fields).map fun f => (readDocument (flushed f.2)).blocks := by
      rw [List.map_map, List.map_map]
      exact List.map_congr_left fun f _ => blocks_blank_cons _
    rw [blocks_readDocument, fieldLines, segments_of_marker hb hi (hmark _),
      readList_fieldLines h, segments_nil, ListRun.segment, List.flatMap_singleton,
      Construct.ofMarkers, Construct.blocks, hnames, hbodies, List.zip_map']

end Testbook.Markup
