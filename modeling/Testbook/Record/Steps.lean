import Testbook.Html.Fragment

/-!
Test steps paired with the results they are expected to have. Two ordered lists of as many items
pair up item by item; any other two values are one pair as they are.
-/

namespace Testbook

open Testbook.Html

/-- Whether the items of two lists pair up: there are as many, and there are some. -/
def pairUp (items results : List Text) : Bool :=
  !items.isEmpty && items.length = results.length

/-- The steps and their expected results in pairs. -/
def pairSteps (steps expected : Text) : List (Text × Text) :=
  match orderedItems? steps, orderedItems? expected with
  | some items, some results =>
    if pairUp items results then items.zip results else [(steps, expected)]
  | _, _ => [(steps, expected)]

/-- The steps and their expected results in pairs, the items of both lists cut out of them. -/
def cutSteps (steps expected : Text) : Except BadCut (List (Text × Text)) :=
  match parseFragment steps, parseFragment expected with
  | some list, some results =>
    if list.name = "ol".toList ∧ results.name = "ol".toList then do
      let items ← list.cutItems steps
      let outcomes ← results.cutItems expected
      return if pairUp items outcomes then items.zip outcomes else [(steps, expected)]
    else .ok [(steps, expected)]
  | _, _ => .ok [(steps, expected)]

end Testbook
