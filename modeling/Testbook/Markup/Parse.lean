import Testbook.Markup.Segment

/-!
Reading a structured text. The dialect has paragraphs, bullet lists, enumerated lists, field
lists, block quotes and literal blocks. A text is cut into segments, and the nested bodies of
each segment are read the same way; the recursion ends because bodies are lighter than what they
are cut from. Only a control character makes a text unreadable.
-/

namespace Testbook.Markup

open Testbook.Text

/-- The document of one segment over the documents of its bodies: the messages of the bodies
come before the segment's own. -/
def Segment.document (segment : Segment) (bodies : List Document) : Document :=
  ⟨segment.construct.blocks (bodies.map (·.blocks)),
    bodies.flatMap (·.messages) ++ segment.message.toList⟩

/-- The document that a sequence of lines makes up. -/
def readDocument (lines : List Line) : Document :=
  Document.concat ((segments false lines).attach.map fun segment =>
    segment.val.document (segment.val.bodies.attach.map fun body => readDocument body.val))
termination_by weight lines
decreasing_by exact weight_body_lt false lines segment.val segment.property body.val body.property

/-- A document is the documents of its segments, one after the other. -/
theorem readDocument_eq (lines : List Line) :
    readDocument lines = Document.concat ((segments false lines).map fun segment =>
      segment.document (segment.bodies.map readDocument)) := by
  rw [readDocument]
  simp

/-- Reads a structured text. -/
def parse (text : Text) : Except BadCharacter Document :=
  match findBadCharacter 1 (splitOn '\n' text) with
  | some bad => .error bad
  | none => .ok (readDocument (readLines text))

end Testbook.Markup
