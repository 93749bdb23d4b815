import Testbook.Proofs.Python.Names
import Testbook.Record.Markers

/-!
The markers that expressions name. A marker is looked for in the normal form of an expression, a text;
which marker the expression names is a matter of its spine: the attribute behind `mark`, or behind
`pytest.mark`. The two agree for every sound expression (`markerName?_render`), whatever stands in its
arguments: a word ends where a link begins (`dropStart?_word`), and no object but a name begins as
`mark` and `pytest` do (`beginsElsewhere_render`).
-/

namespace Testbook

open Testbook.Text Testbook.Python

/-! ### Names -/

/-- The longest front of a name that can be a marker. -/
def markerFront? : Text → Option Text
  | c :: cs => if isMarkerStart c then some (c :: cs.takeWhile isWordChar) else none
  | [] => none

/-- Whether a name can be a marker. -/
def isMarker (name : Text) : Bool := name.head?.any isMarkerStart && name.all isWordChar

theorem markerFront?_of_isMarker {name : Text} (h : isMarker name = true) :
    markerFront? name = some name := by
  obtain ⟨hhead, hall⟩ := Bool.and_eq_true_iff.1 h
  cases name with
  | nil => cases hhead
  | cons c cs =>
    have hcs : cs.takeWhile isWordChar = cs :=
      List.takeWhile_eq_self_iff.2 (List.all_eq_true.1 (Bool.and_eq_true_iff.1 hall).2)
    have hc : isMarkerStart c = true := hhead
    rw [markerFront?, if_pos hc, hcs]

/-- The attributes that stand first behind an object. -/
def attributeNames : List Link → List Text
  | .member name :: links => name :: attributeNames links
  | _ => []

/-- The name behind `mark`, when that is the first of several names. -/
def behindMark? : List Text → Option Text
  | first :: name :: _ => if first = "mark".toList then some name else none
  | _ => none

/-- The name behind `mark`, before which the name of the test runner may stand. -/
def markedName? (names : List Text) : Option Text :=
  behindMark? (if names.head? = some "pytest".toList then names.tail else names)

/-- The name that the spine of an expression has behind `mark`. -/
def Python.Expr.marked? (e : Expr) : Option Text :=
  match e.root with
  | .name id => markedName? (id :: attributeNames e.links)
  | _ => none

/-! ### Words in front of links -/

theorem head?_writeLinks (links : List Link) :
    ∀ c ∈ (writeLinks links).head?, c ∈ ['.', '(', '['] := by
  cases links with
  | nil => exact fun c hc => by cases hc
  | cons link links =>
    intro c hc
    cases link with
    | member name =>
      cases hc
      decide
    | call arguments =>
      cases hc
      decide
    | subscript indices =>
      cases hc
      decide

/-- What a link begins with is no part of a word. -/
theorem takeWhile_writeLinks {p : Char → Bool} (hp : ∀ c ∈ ['.', '(', '['], p c = false)
    (links : List Link) : (writeLinks links).takeWhile p = [] := by
  cases hlinks : writeLinks links with
  | nil => rfl
  | cons c cs =>
    have hc := hp c (head?_writeLinks links c (by rw [hlinks]; rfl))
    rw [List.takeWhile_cons, hc]
    rfl

theorem takeWhile_append_of_nil {p : Char → Bool} {a b : Text} (h : b.takeWhile p = []) :
    (a ++ b).takeWhile p = a.takeWhile p := by
  rw [List.takeWhile_append, h, List.append_nil]
  split
  · next hlength => exact ((List.takeWhile_prefix p).eq_of_length hlength).symm
  · rfl

theorem takeWhile_word {word : Text} (h : IsWord word) (links : List Link) :
    (word ++ writeLinks links).takeWhile isIdentifierContinue = word := by
  have hlinks := takeWhile_writeLinks (p := isIdentifierContinue) (forall_mem_of_all (by decide)) links
  rw [takeWhile_append_of_nil hlinks, List.takeWhile_eq_self_iff.2 h]

theorem markerFront?_writeLinks (name : Text) (links : List Link) :
    markerFront? (name ++ writeLinks links) = markerFront? name := by
  cases name with
  | nil =>
    cases hlinks : writeLinks links with
    | nil => rfl
    | cons c cs =>
      have hstart : ∀ d ∈ ['.', '(', '['], isMarkerStart d = false := forall_mem_of_all (by decide)
      have hc := hstart c (head?_writeLinks links c (by rw [hlinks]; rfl))
      rw [List.nil_append, markerFront?, hc]
      rfl
  | cons c cs =>
    rw [List.cons_append, markerFront?, markerFront?,
      takeWhile_append_of_nil (takeWhile_writeLinks (forall_mem_of_all (by decide)) links)]

theorem dropStart?_append_append (start a b : Text) :
    dropStart? (start ++ a) (start ++ b) = dropStart? a b := by
  induction start with
  | nil => rfl
  | cons c cs ih =>
    rw [List.cons_append, List.cons_append, dropStart?, if_pos rfl, ih]

/-- A word and a point are found in front if the word stands there and an attribute is next. -/
theorem dropStart?_word {word start : Text} (hword : IsWord word) (hstart : IsWord start)
    (links : List Link) : dropStart? (start ++ ['.']) (word ++ writeLinks links)
      = match links with
        | .member name :: links => if word = start then some (name ++ writeLinks links) else none
        | _ => none := by
  by_cases hsame : word = start
  · rw [hsame, dropStart?_append_append]
    cases links with
    | nil => rfl
    | cons link links =>
      cases link with
      | member name => exact (if_pos rfl).symm
      | call arguments => rfl
      | subscript indices => rfl
  · have hnone : dropStart? (start ++ ['.']) (word ++ writeLinks links) = none := by
      cases hdrop : dropStart? (start ++ ['.']) (word ++ writeLinks links) with
      | none => rfl
      | some rest =>
        have hpoint : (['.'] ++ rest).takeWhile isIdentifierContinue = [] := rfl
        have htext := congrArg (List.takeWhile isIdentifierContinue) (dropStart?_eq_some hdrop)
        rw [takeWhile_word hword, List.append_assoc, takeWhile_append_of_nil hpoint,
          List.takeWhile_eq_self_iff.2 hstart] at htext
        exact absurd htext hsame
    rw [hnone]
    split
    · rw [if_neg hsame]
    · rfl

theorem markerName?_eq (source : Text) : markerName? source
    = (dropStart? "mark.".toList ((dropStart? "pytest.".toList source).getD source)).bind
      markerFront? := by
  unfold markerName?
  dsimp only
  split
  · next c cs hdrop => rw [hdrop, Option.bind_some, markerFront?]
  · next hother =>
    cases hdrop : dropStart? "mark.".toList ((dropStart? "pytest.".toList source).getD source) with
    | none => rfl
    | some rest =>
      cases rest with
      | nil => rfl
      | cons c cs => exact absurd hdrop (hother c cs)

theorem bind_dropStart?_mark {word : Text} (hword : IsWord word) (links : List Link) :
    (dropStart? "mark.".toList (word ++ writeLinks links)).bind markerFront?
      = (behindMark? (word :: attributeNames links)).bind markerFront? := by
  have hmark : IsWord "mark".toList := forall_mem_of_all (by decide)
  have hdrop := dropStart?_word hword hmark links
  change dropStart? "mark.".toList _ = _ at hdrop
  rw [hdrop]
  cases links with
  | nil => rfl
  | cons link links =>
    cases link with
    | member name =>
      rw [attributeNames, behindMark?]
      dsimp only
      split
      · rw [Option.bind_some, markerFront?_writeLinks, Option.bind_some]
      · rfl
    | call arguments => rfl
    | subscript indices => rfl

/-- The marker that is found in words and links is the front of the name that stands behind `mark`. -/
theorem markerName?_word {word : Text} (hword : IsWord word) {links : List Link}
    (hlinks : ∀ link ∈ links, link.IsSound) : markerName? (word ++ writeLinks links)
      = (markedName? (word :: attributeNames links)).bind markerFront? := by
  have hrunner : IsWord "pytest".toList := forall_mem_of_all (by decide)
  have hdrop := dropStart?_word hword hrunner links
  change dropStart? "pytest.".toList _ = _ at hdrop
  have hself := bind_dropStart?_mark hword links
  -- a word without an attribute behind it names nothing, the name of the runner included
  have halone (hnames : attributeNames links = [])
      (hnone : dropStart? "pytest.".toList (word ++ writeLinks links) = none) :
      markerName? (word ++ writeLinks links)
        = (markedName? (word :: attributeNames links)).bind markerFront? := by
    rw [markerName?_eq, hnone, Option.getD_none, hself, hnames, markedName?]
    split
    · rfl
    · rfl
  cases links with
  | nil => exact halone rfl hdrop
  | cons link links =>
    cases link with
    | call arguments => exact halone rfl hdrop
    | subscript indices => exact halone rfl hdrop
    | member name =>
      have hhead : (word :: attributeNames (.member name :: links)).head? = some word := rfl
      rw [markerName?_eq, hdrop, markedName?, hhead]
      by_cases hsame : word = "pytest".toList
      · have hname : IsWord name := hlinks _ List.mem_cons_self
        dsimp only
        rw [if_pos hsame, if_pos (congrArg some hsame), Option.getD_some]
        exact bind_dropStart?_mark hname links
      · dsimp only
        rw [if_neg hsame, if_neg fun h => hsame (Option.some.inj h), Option.getD_none]
        exact hself

/-! ### Other objects -/

/-- A text begins with a letter other than those with which `mark` and `pytest` begin. -/
def BeginsElsewhere (text : Text) : Prop := ∀ c ∈ text.head?, c ≠ 'm' ∧ c ≠ 'p'

theorem markerName?_of_beginsElsewhere {text : Text} (h : BeginsElsewhere text) :
    markerName? text = none := by
  cases text with
  | nil => rfl
  | cons c cs =>
    obtain ⟨hm, hp⟩ := h c rfl
    have hrunner : dropStart? "pytest.".toList (c :: cs) = none := if_neg (Ne.symm hp)
    have hmark : dropStart? "mark.".toList (c :: cs) = none := if_neg (Ne.symm hm)
    rw [markerName?_eq, hrunner, Option.getD_none, hmark]
    rfl

theorem BeginsElsewhere.cons {c : Char} (h : c ≠ 'm' ∧ c ≠ 'p') (cs : Text) :
    BeginsElsewhere (c :: cs) := by
  intro d hd
  cases hd
  exact h

theorem BeginsElsewhere.append {a b : Text} (ha : BeginsElsewhere a) (hb : BeginsElsewhere b) :
    BeginsElsewhere (a ++ b) := by
  cases a with
  | nil => exact hb
  | cons c cs => exact .cons (ha c rfl) (cs ++ b)

/-- A numeral begins with a digit or a point. -/
theorem beginsElsewhere_of_isNumeral {text : Text} {token : Token} (h : IsNumeral text token) :
    BeginsElsewhere text := by
  obtain ⟨d, ds, rfl, -, -, -, -, -, hd⟩ := exists_cons_of_beginsNumber h.begins
  refine .cons ?_ ds
  rcases hd with hdigit | rfl
  · exact ⟨ne_of_isDigit hdigit (by decide), ne_of_isDigit hdigit (by decide)⟩
  · decide

theorem beginsElsewhere_writeStrings (pieces : List Piece) : BeginsElsewhere (writeStrings pieces) := by
  have htext (text : Text) : BeginsElsewhere (writeText text) := by
    refine .cons ?_ _
    unfold quoteFor
    split
    · decide
    · decide
  unfold writeStrings
  dsimp only
  split
  · exact .cons (by decide) _
  · split
    · exact .cons (by decide) _
    · split
      · split
        · exact .cons (by decide) _
        · exact htext _
      · exact htext _

theorem beginsElsewhere_constant {word : Text} (h : isConstant word = true ∨ word = "...".toList) :
    BeginsElsewhere word := by
  have hwords : word ∈ ["True".toList, "False".toList, "None".toList, "...".toList] := by
    rcases h with h | rfl
    · exact List.mem_append_left ["...".toList] (List.contains_iff_mem.1 h)
    · decide
  rw [List.mem_cons, List.mem_cons, List.mem_cons, List.mem_singleton] at hwords
  rcases hwords with rfl | rfl | rfl | rfl
  · exact .cons (by decide) _
  · exact .cons (by decide) _
  · exact .cons (by decide) _
  · exact .cons (by decide) _

/-- Whether an expression is kept as it was written, as a conditional is that holds line continuations,
or stands in parentheses with line continuations beside it. -/
def Python.Expr.isKept : Expr → Bool
  | .verbatim _ | .paren _ => true
  | .conditional _ parts => parts.length != 3
  | _ => false

/-- What is kept side by side: the parts in parentheses, or all as it was written. -/
def Python.Expr.keptParts : Expr → List Expr
  | .paren parts => parts
  | .verbatim source | .conditional source _ => [.verbatim source]
  | _ => []

theorem beginsElsewhere_of_isEnclosed {e : Expr} (h : e.isEnclosed = true) :
    BeginsElsewhere e.render := by
  cases e with
  | strings parts => exact beginsElsewhere_writeStrings _
  | display brackets items =>
    cases brackets with
    | curly => exact .cons (by decide) _
    | round => cases h
    | square => cases h
  | comprehension brackets body clauses => exact .cons (by cases brackets <;> decide) _
  | unary operator operand => exact .cons (by decide) _
  | negation operand => exact .cons (by decide) _
  | binary operator left right => exact .cons (by decide) _
  | boolean operator left right => exact .cons (by decide) _
  | comparison parts => exact .cons (by decide) _
  | lambda parameters body => exact .cons (by decide) _
  | _ => cases h

/-- An object other than a name does not begin as `mark` and `pytest` do. -/
theorem beginsElsewhere_render {e : Expr} (h : e.IsSound) (hname : ∀ id, e.root ≠ .name id)
    (hkept : e.root.isKept = false) : BeginsElsewhere e.render := by
  induction e using Expr.root.induct with
  | case1 object word ih =>
    cases h with
    | qualified h hword => exact (ih h hname hkept).append (.cons (by decide) _)
    | enclosed h => cases h
  | case2 function arguments ih =>
    cases h with
    | call _ h => exact (ih h hname hkept).append (.cons (by decide) _)
    | enclosed h => cases h
  | case3 value indices hasComma ih =>
    cases h with
    | subscript _ _ h =>
      exact ((ih h hname hkept).append (.cons (by decide) _)).append (.cons (by decide) _)
    | enclosed h => cases h
  | case4 e ih =>
    cases h with
    | paren h =>
      have hpart := ih (h e (List.mem_singleton_self e)) hname hkept
      change BeginsElsewhere [e.render].flatten
      rwa [List.flatten_singleton]
    | enclosed h => cases h
  | case5 e hattribute hcall hsubscript hparen =>
    rw [(links_of_root e hattribute hcall hsubscript hparen).1] at hname hkept
    cases h with
    | name h => exact absurd rfl (hname _)
    | integer h => exact beginsElsewhere_of_isNumeral (isNumeral_writeInteger h)
    | float h => exact beginsElsewhere_of_isNumeral (isNumeral_writeFloatLiteral h)
    | @constant word h => exact beginsElsewhere_constant h
    | qualified h hword => exact absurd rfl (hattribute _ _)
    | call arguments h => exact absurd rfl (hcall _ _)
    | subscript indices hasComma h => exact absurd rfl (hsubscript _ _ _)
    | @starred stars parts h =>
      cases stars with
      | nil => cases h
      | cons c cs =>
        cases h
        exact .cons (by decide) _
    | paren h => cases hkept
    | @display brackets items h => exact .cons (by cases brackets <;> decide) _
    | enclosed h => exact beginsElsewhere_of_isEnclosed h
    | conditional source parts =>
      have hlength : parts.length = 3 := by simpa [Python.Expr.isKept] using hkept
      obtain ⟨body, test, orelse, rfl⟩ := List.length_eq_three.1 hlength
      exact .cons (by decide) _
    | verbatim source => cases hkept

/-! ### What an expression names -/

/-- The marker of a sound expression is the front of the name that its spine has behind `mark`. -/
theorem markerName?_render {e : Expr} (h : e.IsSound) :
    (∀ name, e.marked? = some name → markerName? e.render = markerFront? name)
      ∧ (e.marked? = none → e.root.isKept = false → markerName? e.render = none) := by
  by_cases hroot : ∃ id, e.root = .name id
  · obtain ⟨id, hid⟩ := hroot
    obtain ⟨hobject, hlinks⟩ := h.spine
    have hword : IsWord id := by
      rw [hid] at hobject
      cases hobject with
      | name h => exact h
      | enclosed h => cases h
    have hrender : e.render = id ++ writeLinks e.links := by
      rw [render_spine, hid]
      rfl
    have hmarked : e.marked? = markedName? (id :: attributeNames e.links) := by
      rw [Expr.marked?, hid]
    rw [hrender, markerName?_word hword hlinks, ← hmarked]
    exact ⟨fun name hname => by rw [hname, Option.bind_some], fun hnone _ => by rw [hnone]; rfl⟩
  · have hname (id : Text) : e.root ≠ .name id := fun hid => hroot ⟨id, hid⟩
    have hnone : e.marked? = none := by
      unfold Expr.marked?
      split
      · next id hid => exact absurd hid (hname id)
      · rfl
    refine ⟨fun name hmarked => ?_, fun _ hkept =>
      markerName?_of_beginsElsewhere (beginsElsewhere_render h hname hkept)⟩
    rw [hnone] at hmarked
    cases hmarked

end Testbook
