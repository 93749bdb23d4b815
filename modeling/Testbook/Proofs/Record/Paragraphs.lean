import Testbook.Proofs.Html.WellFormed
import Testbook.Proofs.Record.StepItems
import Testbook.Record.Basic
import Testbook.Record.Documented

/-!
Steps in paragraphs. A field stands for the body that was written last under its name
(`get?_documented`), and a single paragraph is kept as the plain text it says. Nothing marks such a
value as plain text, so it is read as markup like any other: paragraphs stay one pair unless both of
them say an ordered list of tags (`cutSteps_paragraphs`), which takes a bracket at the front of
each.
-/

namespace Testbook

open Testbook.Text Testbook.Markup Testbook.Html

/-! ### Fields and their bodies -/

mutual

/-- The fields that a block declares, in order, with their bodies. -/
def bodiesIn : Block → List (Text × List Block)
  | .fields entries => entries.map fun e => (lower e.1, e.2)
  | .quote blocks => bodies blocks
  | .bullets items => itemBodies items
  | .numbered _ _ items => itemBodies items
  | .paragraph _ => []
  | .literal _ => []

/-- The fields that blocks declare, in order, with their bodies. -/
def bodies : List Block → List (Text × List Block)
  | [] => []
  | block :: blocks => bodiesIn block ++ bodies blocks

/-- The fields that the items of a list declare, in order, with their bodies. -/
def itemBodies : List (List Block) → List (Text × List Block)
  | [] => []
  | item :: items => bodies item ++ itemBodies items

end

/-- The values of fields. -/
def fieldValues (fields : List (Text × List Block)) : List (Text × Text) :=
  fields.map fun f => (f.1, fieldValue f.2)

theorem fieldValues_append (a b : List (Text × List Block)) :
    fieldValues (a ++ b) = fieldValues a ++ fieldValues b := List.map_append

mutual

theorem declaredIn_eq : ∀ block : Block, declaredIn block = fieldValues (bodiesIn block)
  | .fields entries => by
    rw [declaredIn, bodiesIn, declaredEntries, fieldValues, List.map_map]
    rfl
  | .quote blocks => by rw [declaredIn, bodiesIn, declarations_eq]
  | .bullets items => by rw [declaredIn, bodiesIn, itemDeclarations_eq]
  | .numbered _ _ items => by rw [declaredIn, bodiesIn, itemDeclarations_eq]
  | .paragraph _ => by
    rw [declaredIn, bodiesIn]
    rfl
  | .literal _ => by
    rw [declaredIn, bodiesIn]
    rfl

theorem declarations_eq : ∀ blocks : List Block, declarations blocks = fieldValues (bodies blocks)
  | [] => by
    rw [declarations, bodies]
    rfl
  | block :: blocks => by
    rw [declarations, bodies, declaredIn_eq block, declarations_eq blocks, fieldValues_append]

theorem itemDeclarations_eq : ∀ items : List (List Block),
    itemDeclarations items = fieldValues (itemBodies items)
  | [] => by
    rw [itemDeclarations, itemBodies]
    rfl
  | item :: items => by
    rw [itemDeclarations, itemBodies, declarations_eq item, itemDeclarations_eq items,
      fieldValues_append]

end

/-- The body of the last field of a name. -/
def lastBody? (name : Text) (blocks : List Block) : Option (List Block) :=
  (bodies blocks).reverse.lookup name

/-- The text of the last field of a name, when its body is a single paragraph. -/
def lastParagraph? (name : Text) (blocks : List Block) : Option Text :=
  match lastBody? name blocks with
  | some [.paragraph text] => some text
  | _ => none

/-- The texts of the steps and the expected results of a documentation, when the last field of
either name is a single paragraph. -/
def stepParagraphs? (doc : Text) : Option (Text × Text) := do
  let document ← (parse doc).toOption
  return (← lastParagraph? Record.stepsField document.blocks,
    ← lastParagraph? Record.expectedField document.blocks)

variable {doc : Text} {document : Document} {steps expected v w : Text}

theorem Fields.get?_ofList (entries : List (Text × Text)) (name : Text) :
    (Fields.ofList entries).get? name = entries.reverse.lookup name := by
  have hfold (fields : Fields) :
      (entries.foldl (fun fields e => fields.insert e.1 e.2) fields).get? name
        = (entries.reverse.lookup name).or (fields.get? name) := by
    induction entries generalizing fields with
    | nil => rfl
    | cons e entries ih =>
      rw [List.foldl_cons, ih, Fields.get?_insert, List.reverse_cons, List.lookup_append,
        List.lookup_singleton]
      by_cases hname : e.1 = name
      · simp [hname]
      · simp [hname, Ne.symm hname]
  rw [Fields.ofList, hfold, Fields.get?_empty, Option.or_none]

theorem lookup_fieldValues (fields : List (Text × List Block)) (name : Text) :
    (fieldValues fields).lookup name = (fields.lookup name).map fieldValue := by
  induction fields with
  | nil => rfl
  | cons f fields ih =>
    rw [fieldValues, List.map_cons, List.lookup_cons, List.lookup_cons]
    split
    · rfl
    · exact ih

/-- A name stands for the body of the last field of this name. -/
theorem get?_documented (h : parse doc = .ok document) (name : Text) :
    (documented doc).get? name = (lastBody? name document.blocks).map fieldValue := by
  rw [documented, h]
  simp only
  rw [Fields.get?_ofList, declarations_eq, lastBody?, ← lookup_fieldValues, fieldValues,
    fieldValues, List.map_reverse]

theorem lastParagraph?_eq_some {name text : Text} {blocks : List Block} :
    lastParagraph? name blocks = some text ↔ lastBody? name blocks = some [.paragraph text] := by
  rw [lastParagraph?]
  split
  · next other hbody => simp [hbody]
  · next hbody =>
    refine ⟨fun h => ?_, fun h => absurd h (hbody text)⟩
    cases h

theorem stepParagraphs?_eq_some : stepParagraphs? doc = some (steps, expected)
    ↔ ∃ document, parse doc = .ok document
      ∧ lastBody? Record.stepsField document.blocks = some [.paragraph steps]
      ∧ lastBody? Record.expectedField document.blocks = some [.paragraph expected] := by
  rw [stepParagraphs?]
  cases parse doc with
  | error bad => simp [Except.toOption]
  | ok document => simp [Except.toOption, Option.bind_eq_some_iff, lastParagraph?_eq_some]

/-! ### Pairs -/

/-- Whether two values are ordered lists of as many items, and of some. -/
def AreLists (v w : Text) : Prop :=
  ∃ items results, orderedItems? v = some items ∧ orderedItems? w = some results
    ∧ pairUp items results = true

/-- Two values stay as they are unless both are lists whose items pair up. -/
theorem pairSteps_eq_self_iff : pairSteps v w = [(v, w)] ↔ ¬ AreLists v w := by
  by_cases h : orderedItems? v = none ∨ orderedItems? w = none
  · refine iff_of_true (pairSteps_of_not_list h) ?_
    rintro ⟨items, results, hitems, hresults, -⟩
    rcases h with h | h
    · rw [hitems] at h
      cases h
    · rw [hresults] at h
      cases h
  · obtain ⟨hv, hw⟩ := not_or.1 h
    obtain ⟨items, hitems⟩ := Option.ne_none_iff_exists'.1 hv
    obtain ⟨results, hresults⟩ := Option.ne_none_iff_exists'.1 hw
    rw [pairSteps_eq_self_iff_of_lists hitems hresults, AreLists]
    simp [hitems, hresults]

/-- What a paragraph says has the brackets that stand in it. -/
theorem mem_textContent_iff : '<' ∈ textContent steps ↔ '<' ∈ steps := by
  have hspecial (text : Text) : '<' ∈ specials text ↔ '<' ∈ text := by
    rw [specials, List.mem_filter]
    exact and_iff_left rfl
  rw [← hspecial, ← hspecial steps, textContent, parseInline, specials_readInline]

/-- Values of which one does not open with a bracket are one pair. -/
theorem cutSteps_of_not_bracket (h : ¬ (opensWithBracket v = true ∧ opensWithBracket w = true)) :
    cutSteps v w = .ok (pairSteps v w) := by
  have hlists : orderedItems? v = none ∨ orderedItems? w = none := by
    rcases not_and_or.1 h with h | h
    · exact .inl (Option.eq_none_iff_forall_not_mem.2 fun _ hitems =>
        h (opensWithBracket_of_orderedItems? hitems))
    · exact .inr (Option.eq_none_iff_forall_not_mem.2 fun _ hitems =>
        h (opensWithBracket_of_orderedItems? hitems))
  rw [cutSteps_of_not_list hlists, pairSteps_of_not_list hlists]

/-- Steps and expected results in a single paragraph each have the texts of these paragraphs as
values, and are one pair of them, unless both are tagged as lists of as many items: then the items
pair up. Only a text that opens with a bracket can be such a list. There are pairs unless a byte order
mark stands in front of one of two texts that open with a bracket. -/
theorem cutSteps_paragraphs (h : stepParagraphs? doc = some (steps, expected)) :
    (documented doc).get? Record.stepsField = some (textContent steps)
      ∧ (documented doc).get? Record.expectedField = some (textContent expected)
      ∧ Gives (cutSteps (textContent steps) (textContent expected))
        (((textContent steps).head? ≠ some byteOrderMark
            ∧ (textContent expected).head? ≠ some byteOrderMark)
          ∨ ¬ (opensWithBracket (textContent steps) ∧ opensWithBracket (textContent expected)))
        (pairSteps (textContent steps) (textContent expected))
      ∧ (pairSteps (textContent steps) (textContent expected)
          = [(textContent steps, textContent expected)]
        ↔ ¬ AreLists (textContent steps) (textContent expected))
      ∧ (AreLists (textContent steps) (textContent expected) →
        (opensWithBracket (textContent steps) ∧ opensWithBracket (textContent expected))
          ∧ '<' ∈ steps ∧ '<' ∈ expected) := by
  obtain ⟨document, hparse, hsteps, hexpected⟩ := stepParagraphs?_eq_some.1 h
  have hgives := gives_cutSteps (textContent steps) (textContent expected)
  refine ⟨?_, ?_, ⟨hgives.eq_of_ok, ?_⟩, pairSteps_eq_self_iff, ?_⟩
  · rw [get?_documented hparse, hsteps]
    rfl
  · rw [get?_documented hparse, hexpected]
    rfl
  · rintro (hunmarked | hbrackets)
    · exact hgives.ok_of hunmarked
    · exact cutSteps_of_not_bracket hbrackets
  · rintro ⟨items, results, hitems, hresults, -⟩
    have hfirst := opensWithBracket_of_orderedItems? hitems
    have hsecond := opensWithBracket_of_orderedItems? hresults
    exact ⟨⟨hfirst, hsecond⟩, mem_textContent_iff.1 (mem_of_opensWithBracket hfirst),
      mem_textContent_iff.1 (mem_of_opensWithBracket hsecond)⟩

/-- A text with a bracket that is not in front is no list. -/
theorem cutSteps_paragraphs_bracket :
    stepParagraphs? ":steps: Press <Enter>\n:expectedresults: <b>It runs</b>"
        = some ("Press <Enter>".toList, "<b>It runs</b>".toList)
      ∧ cutSteps (textContent "Press <Enter>") (textContent "<b>It runs</b>")
        = .ok [(textContent "Press <Enter>", textContent "<b>It runs</b>")] := by
  have hread : stepParagraphs? ":steps: Press <Enter>\n:expectedresults: <b>It runs</b>"
      = some ("Press <Enter>".toList, "<b>It runs</b>".toList) := by
    decide +kernel
  have hfront : ¬ opensWithBracket (textContent "Press <Enter>") = true := by decide +kernel
  obtain ⟨-, -, hcut, hself, hlists⟩ := cutSteps_paragraphs hread
  have hpair := hself.2 fun h => hfront (hlists h).1.1
  exact ⟨hread, (hcut.ok_of (.inr fun h => hfront h.1)).trans (congrArg Except.ok hpair)⟩

/-- Two paragraphs that say lists of one item are taken apart. -/
theorem cutSteps_paragraphs_lists :
    stepParagraphs? ":steps: <ol><li>a</li></ol>\n:expectedresults: <ol><li>b</li></ol>"
        = some ("<ol><li>a</li></ol>".toList, "<ol><li>b</li></ol>".toList)
      ∧ (documented ":steps: <ol><li>a</li></ol>\n:expectedresults: <ol><li>b</li></ol>").get?
        Record.stepsField = some "<ol><li>a</li></ol>".toList
      ∧ (documented ":steps: <ol><li>a</li></ol>\n:expectedresults: <ol><li>b</li></ol>").get?
        Record.expectedField = some "<ol><li>b</li></ol>".toList
      ∧ cutSteps "<ol><li>a</li></ol>" "<ol><li>b</li></ol>" = .ok [("a".toList, "b".toList)]
      ∧ cutSteps "<ol><li>a</li></ol>" "<ol><li>b</li></ol>"
        ≠ .ok [("<ol><li>a</li></ol>".toList, "<ol><li>b</li></ol>".toList)] := by
  decide +kernel

end Testbook
