import Testbook.Proofs.Record.MarkerNames

/-!
Annotations of tests. The annotations in a program text are the expressions that are given to the
tests in it: decorators of functions, classes and methods, and the marks that the module assigns. What
a module keeps of them are their normal forms (`exists_of_annotations`). They are read sound, wherever
they stand, so each names the marker that its spine says (`markerName?_of_annotated`).
-/

namespace Testbook

open Testbook.Text Testbook.Python

/-! ### Annotations in statements -/

/-- The marks in a value: the items of a list or tuple, or the value itself. -/
def markItems : Expr → List Expr
  | .display .square items => items
  | .display .round items => items
  | value => [value]

/-- The marks that a statement assigns, if it assigns any. -/
def Python.Stmt.marks : Stmt → List Expr
  | .assignment (.name id) (some value) => if id = marksVariable then markItems value else []
  | _ => []

/-- The annotations in the statements of a module: the marks that it assigns and the decorators of its
definitions and of the methods in its classes. -/
def annotations (statements : List Stmt) : List Expr :=
  statements.flatMap fun s => s.marks ++ s.allDecorators

/-- The annotations in a program text; a text that is not a program has none. -/
def annotationsIn (source : Text) : List Expr :=
  match parseStatements source with
  | .ok statements => annotations statements
  | .error _ => []

/-- The decorators of a definition, and of the methods in it, as they are written. -/
def Python.Definition.annotations : Definition → List Text
  | .function f => f.decorators
  | .classDef c => c.decorators ++ c.methods.flatMap Function.decorators

/-- The annotations of a module as they are written. -/
def Python.Module.annotations (m : Module) : List Text :=
  m.marks ++ m.definitions.flatMap Definition.annotations

theorem areSound_markItems {value : Expr} (h : value.IsSound) : Expr.AreSound (markItems value) := by
  unfold markItems
  split
  · cases h with
    | display h => exact h
    | enclosed h => cases h
  · cases h with
    | display h => exact h
    | enclosed h => cases h
  · exact .singleton h

theorem areSound_marks {s : Stmt} (h : s.Keeps Expr.IsSound) : Expr.AreSound s.marks := by
  unfold Stmt.marks
  split
  · cases h with
    | assignment _ h =>
      split
      · exact areSound_markItems (h _ rfl)
      · exact .nil
  · exact .nil

theorem areSound_annotations {statements : List Stmt} (h : Stmt.KeepsEach Expr.IsSound statements) :
    Expr.AreSound (annotations statements) := by
  intro e he
  obtain ⟨s, hs, he⟩ := List.mem_flatMap.1 he
  rcases List.mem_append.1 he with he | he
  · exact areSound_marks (h s hs) e he
  · exact (h s hs).allDecorators e he

theorem areSound_annotationsIn (source : Text) : Expr.AreSound (annotationsIn source) := by
  unfold annotationsIn
  split
  · next statements hstatements => exact areSound_annotations (areSound_parseStatements hstatements)
  · exact .nil

/-! ### Annotations of modules -/

theorem marksOf_eq (value : Expr) : marksOf value = (markItems value).map Expr.render := by
  cases value with
  | display brackets items =>
    cases brackets with
    | square => rfl
    | round => rfl
    | curly => rfl
  | _ => rfl

theorem marks?_eq_some {s : Stmt} {marks : List Text} (h : marks? s = some marks) :
    marks = s.marks.map Expr.render := by
  unfold marks? at h
  split at h
  · next id value =>
    split at h
    · next hid =>
      cases h
      have hmarks : (Stmt.assignment (.name id) (some value)).marks = markItems value := if_pos hid
      rw [hmarks, marksOf_eq]
    · cases h
  · cases h

theorem decorators_of_function? {s : Stmt} {f : Function} (h : function? s = some f) :
    f.decorators = s.decorators.map Expr.render := by
  unfold function? at h
  split at h
  · cases h
    rfl
  · cases h
    rfl
  · cases h

theorem decorators_of_class? {s : Stmt} {c : Python.Class} (h : class? s = some c) :
    c.decorators = s.decorators.map Expr.render ∧ c.methods = s.members.filterMap function? := by
  unfold class? at h
  split at h
  · cases h
    exact ⟨rfl, rfl⟩
  · cases h
    exact ⟨rfl, rfl⟩
  · cases h

theorem exists_of_annotations_ofStatements {statements : List Stmt} {text : Text}
    (h : text ∈ (Module.ofStatements statements).annotations) :
    ∃ e ∈ annotations statements, text = e.render := by
  have hfound {s : Stmt} (hs : s ∈ statements) {es : List Expr}
      (hes : es ⊆ s.marks ++ s.allDecorators)
      (ht : text ∈ es.map Expr.render) : ∃ e ∈ annotations statements, text = e.render := by
    obtain ⟨e, he, rfl⟩ := List.mem_map.1 ht
    exact ⟨e, List.mem_flatMap.2 ⟨s, hs, hes he⟩, rfl⟩
  rcases List.mem_append.1 h with hmark | hdefinition
  · obtain ⟨marks, hlast, htext⟩ : ∃ marks, (statements.filterMap marks?).getLast? = some marks
        ∧ text ∈ marks := by
      change text ∈ ((statements.filterMap marks?).getLast?).getD [] at hmark
      cases hlast : (statements.filterMap marks?).getLast? with
      | none =>
        rw [hlast] at hmark
        cases hmark
      | some marks =>
        rw [hlast] at hmark
        exact ⟨marks, rfl, hmark⟩
    obtain ⟨s, hs, hmarks⟩ := List.mem_filterMap.1 (List.mem_of_getLast? hlast)
    rw [marks?_eq_some hmarks] at htext
    exact hfound hs (List.subset_append_left _ _) htext
  · obtain ⟨d, hd, htext⟩ := List.mem_flatMap.1 hdefinition
    obtain ⟨s, hs, hsd⟩ := List.mem_filterMap.1 hd
    rcases definition?_eq_some.1 hsd with ⟨f, hf, rfl⟩ | ⟨-, c, hc, rfl⟩
    · rw [Definition.annotations, decorators_of_function? hf] at htext
      exact hfound hs (fun e he => List.mem_append_right _ (List.mem_append_left _ he)) htext
    · obtain ⟨hdecorators, hmethods⟩ := decorators_of_class? hc
      rcases List.mem_append.1 htext with htext | htext
      · rw [hdecorators] at htext
        exact hfound hs (fun e he => List.mem_append_right _ (List.mem_append_left _ he)) htext
      · obtain ⟨f, hf, htext⟩ := List.mem_flatMap.1 htext
        rw [hmethods] at hf
        obtain ⟨member, hmember, hfunction⟩ := List.mem_filterMap.1 hf
        rw [decorators_of_function? hfunction] at htext
        refine hfound hs (fun e he => List.mem_append_right _ (List.mem_append_right _ ?_)) htext
        exact List.mem_flatMap.2 ⟨member, hmember, he⟩

/-- Each annotation of a module is the normal form of an annotation in its source text. -/
theorem exists_of_annotations [Recovery] {source text : Text} {m : Module} (h : readModule source = .ok m)
    (htext : text ∈ m.annotations) : ∃ e ∈ annotationsIn source, text = e.render := by
  unfold readModule at h
  split at h
  · next statements hstatements =>
    cases h
    rw [annotationsIn, hstatements]
    exact exists_of_annotations_ofStatements htext
  · cases h

/-! ### Markers -/

/-- The annotations that a module keeps are the normal forms of those in its text. An annotation in the
text whose spine has a name behind `mark` names the front of it that can be a marker, and the whole of it
if that can be one. Any other names no marker, unless its innermost object is kept as it was written. -/
theorem markerName?_of_annotated [Recovery] {source : Text} {m : Module} (h : readModule source = .ok m) :
    (∀ text ∈ m.annotations, ∃ e ∈ annotationsIn source, text = e.render)
      ∧ ∀ e ∈ annotationsIn source,
        (∀ name, e.marked? = some name → markerName? e.render = markerFront? name
          ∧ (isMarker name = true → markerName? e.render = some name))
        ∧ (e.marked? = none → e.root.isKept = false → markerName? e.render = none) := by
  refine ⟨fun text htext => exists_of_annotations h htext, fun e he => ?_⟩
  obtain ⟨hmarked, hother⟩ := markerName?_render (areSound_annotationsIn source e he)
  refine ⟨fun name hname => ⟨hmarked name hname, fun hmarker => ?_⟩, hother⟩
  rw [hmarked name hname, markerFront?_of_isMarker hmarker]

/-- Two decorators: one in whose parentheses the line ends behind a comment, with a call that holds the
name of another marker, and one that is a method of a string with such a name. -/
def slowProgram : Text :=
  ("@((pytest) # runner\n  .mark).slow('mark.quick', x if y else mark.z)[0].value\n"
    ++ "@'mark.quick'.join(mark.z)\ndef test(): pass\n").toList

theorem markerName?_of_annotated_slow : ∃ m, readModule slowProgram = .ok m
    ∧ m.annotations.length = 2
    ∧ (∃ e ∈ annotationsIn slowProgram,
        e.marked? = some "slow".toList ∧ markerName? e.render = some "slow".toList)
    ∧ ∃ e ∈ annotationsIn slowProgram,
        e.marked? = none ∧ e.root.isKept = false ∧ markerName? e.render = none := by
  obtain ⟨hread, hslow, hother⟩ :
      ((readModule slowProgram).toOption.map fun m => m.annotations.length) = some 2
        ∧ ((annotationsIn slowProgram).any fun e => e.marked? = some "slow".toList) = true
        ∧ ((annotationsIn slowProgram).any fun e => e.marked? = none && !e.root.isKept) = true := by
    decide +kernel
  obtain ⟨m, hmodule, hlength⟩ : ∃ m, readModule slowProgram = .ok m ∧ m.annotations.length = 2 := by
    cases hmodule : readModule slowProgram with
    | error fault => simp [hmodule, Except.toOption] at hread
    | ok m => exact ⟨m, rfl, by simpa [hmodule, Except.toOption] using hread⟩
  obtain ⟨-, hnames⟩ := markerName?_of_annotated hmodule
  obtain ⟨e, he, hmarked⟩ := List.any_eq_true.1 hslow
  obtain ⟨e', he', hunmarked⟩ := List.any_eq_true.1 hother
  obtain ⟨hnone, hkept⟩ := Bool.and_eq_true_iff.1 hunmarked
  have hname := of_decide_eq_true hmarked
  have hnone' := of_decide_eq_true hnone
  have hkept' : e'.root.isKept = false := by simpa using hkept
  exact ⟨m, hmodule, hlength, ⟨e, he, hname, ((hnames e he).1 _ hname).2 (by decide)⟩,
    e', he', hnone', hkept', (hnames e' he').2 hnone' hkept'⟩

/-- A name may begin with a letter with which no marker begins. A line continuation in parentheses is
written in front of what stands in them, and one between the parts of a conditional expression keeps the
whole as it was written, with what looks like a marker in front. -/
theorem markerName?_of_annotated_accent :
    (∃ e ∈ annotationsIn "@mark.é\ndef test(): pass\n",
        e.marked? = some "é".toList ∧ isIdentifier "é".toList = true ∧ markerName? e.render = none)
      ∧ (∃ gap e, .paren [gap, e] ∈ annotationsIn "@(\\\n mark.slow)\ndef test(): pass\n"
        ∧ e.marked? = some "slow".toList ∧ markerName? (Expr.paren [gap, e]).render = none)
      ∧ ∃ e ∈ annotationsIn "@mark.slow if x \\\n else y\ndef test(): pass\n",
        e.marked? = none ∧ markerName? e.render = some "slow".toList := by
  refine ⟨?_, ?_, ?_⟩
  · have hread : ((annotationsIn "@mark.é\ndef test(): pass\n").any fun e =>
        e.marked? = some "é".toList && isIdentifier "é".toList && markerName? e.render = none) = true := by
      decide +kernel
    obtain ⟨e, he, hall⟩ := List.any_eq_true.1 hread
    obtain ⟨hboth, hnone⟩ := Bool.and_eq_true_iff.1 hall
    obtain ⟨hmarked, hname⟩ := Bool.and_eq_true_iff.1 hboth
    exact ⟨e, he, of_decide_eq_true hmarked, hname, of_decide_eq_true hnone⟩
  · have hread : ((annotationsIn "@(\\\n mark.slow)\ndef test(): pass\n").any fun e =>
        e.keptParts.length = 2 && e.keptParts.getLast?.any (·.marked? = some "slow".toList)
          && markerName? e.render = none) = true := by
      decide +kernel
    obtain ⟨e, he, hall⟩ := List.any_eq_true.1 hread
    obtain ⟨hboth, hnone⟩ := Bool.and_eq_true_iff.1 hall
    obtain ⟨hlength, hmarked⟩ := Bool.and_eq_true_iff.1 hboth
    cases e with
    | paren parts =>
      obtain ⟨gap, inner, hparts⟩ := List.length_eq_two.1 (of_decide_eq_true hlength)
      have hparts' : parts = [gap, inner] := hparts
      rw [hparts'] at he hmarked hnone
      exact ⟨gap, inner, he, of_decide_eq_true hmarked, of_decide_eq_true hnone⟩
    | _ => exact absurd hlength (by simp [Expr.keptParts])
  · have hread : ((annotationsIn "@mark.slow if x \\\n else y\ndef test(): pass\n").any fun e =>
        e.marked? = none && markerName? e.render = some "slow".toList) = true := by
      decide +kernel
    obtain ⟨e, he, hboth⟩ := List.any_eq_true.1 hread
    obtain ⟨hmarked, hname⟩ := Bool.and_eq_true_iff.1 hboth
    exact ⟨e, he, of_decide_eq_true hmarked, of_decide_eq_true hname⟩

end Testbook
