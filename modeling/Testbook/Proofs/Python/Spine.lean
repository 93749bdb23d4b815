import Testbook.Proofs.Python.Yields

/-!
The spine of an expression: its innermost object, and what stands behind the object on the way
outwards, attributes, calls and subscripts. Parentheses around a single expression are passed over. The
normal form of an expression is that of the object with its links behind it, one after the other
(`render_spine`). `Expr.IsSound` says of an expression what its spine shows when it was read from a
text: names on it are words, and any other object begins as its kind does.
-/

namespace Testbook.Python

open Testbook.Text

/-- What stands behind an object: an attribute, a call or a subscript. -/
inductive Link where
  | member (name : Text)
  | call (arguments : List Expr)
  | subscript (indices : List Expr)

/-- A link as it is written. -/
def Link.render : Link → Text
  | .member name => '.' :: name
  | .call arguments => parenthesized (commas (renderEach arguments))
  | .subscript indices => '[' :: grouped (renderEach indices) ++ [']']

/-- Links as they are written, one after the other. -/
def writeLinks (links : List Link) : Text := links.flatMap Link.render

/-- The innermost object of an expression. -/
def Expr.root : Expr → Expr
  | .attribute object _ => object.root
  | .call function _ => function.root
  | .subscript value _ _ => value.root
  | .paren [e] => e.root
  | e => e
termination_by structural e => e

/-- What stands behind the innermost object, from the inside out. -/
def Expr.links : Expr → List Link
  | .attribute object word => object.links ++ [.member word]
  | .call function arguments => function.links ++ [.call arguments]
  | .subscript value indices _ => value.links ++ [.subscript indices]
  | .paren [e] => e.links
  | _ => []
termination_by structural e => e

/-- An expression that is its own innermost object has nothing behind it. -/
theorem links_of_root (e : Expr) (hattribute : ∀ object word, e ≠ .attribute object word)
    (hcall : ∀ function arguments, e ≠ .call function arguments)
    (hsubscript : ∀ value indices hasComma, e ≠ .subscript value indices hasComma)
    (hparen : ∀ inner, e ≠ .paren [inner]) : e.root = e ∧ e.links = [] := by
  unfold Expr.root Expr.links
  split <;> simp_all

theorem render_spine (e : Expr) : e.render = e.root.render ++ writeLinks e.links := by
  unfold writeLinks
  induction e using Expr.root.induct with
  | case1 object word ih =>
    change object.render ++ '.' :: word = object.root.render ++ (object.links ++ [_]).flatMap _
    rw [ih, List.flatMap_append, List.append_assoc, List.flatMap_singleton]
    rfl
  | case2 function arguments ih =>
    change function.render ++ parenthesized _
      = function.root.render ++ (function.links ++ [_]).flatMap _
    rw [ih, List.flatMap_append, List.append_assoc, List.flatMap_singleton]
    rfl
  | case3 value indices hasComma ih =>
    change value.render ++ '[' :: _ ++ _ = value.root.render ++ (value.links ++ [_]).flatMap _
    rw [ih, List.flatMap_append, List.append_assoc, List.append_assoc, List.flatMap_singleton]
    rfl
  | case4 e ih =>
    change [e.render].flatten = e.root.render ++ e.links.flatMap _
    rw [List.flatten_singleton, ih]
  | case5 e hattribute hcall hsubscript hparen =>
    obtain ⟨hroot, hlinks⟩ := links_of_root e hattribute hcall hsubscript hparen
    rw [hroot, hlinks, List.flatMap_nil, List.append_nil]

/-! ### What is read -/

/-- Whether an expression has brackets or quotes of its own in normal form. -/
def Expr.isEnclosed : Expr → Bool
  | .strings _ | .display .curly _ | .comprehension .. | .unary .. | .negation _ | .binary ..
  | .boolean .. | .comparison _ | .lambda .. => true
  | _ => false

/-- Expressions as they are read: names are words, numbers begin as numbers do, and what stands in
brackets is read likewise. What enclosed expressions, calls and subscripts hold is left open. -/
inductive Expr.IsSound : Expr → Prop where
  | name {id : Text} (h : IsWord id) : IsSound (.name id)
  | integer {literal : Text} (h : isInteger literal = true) : IsSound (.integer literal)
  | float {literal : Text} (h : isFloat literal = true) : IsSound (.float literal)
  | constant {word : Text} (h : isConstant word = true ∨ word = "...".toList) :
    IsSound (.constant word)
  | qualified {object : Expr} {word : Text} (h : IsSound object) (hword : IsWord word) :
    IsSound (.attribute object word)
  | call {function : Expr} (arguments : List Expr) (h : IsSound function) :
    IsSound (.call function arguments)
  | subscript {value : Expr} (indices : List Expr) (hasComma : Bool) (h : IsSound value) :
    IsSound (.subscript value indices hasComma)
  | starred {stars : Text} (parts : List Expr) (h : stars.head? = some '*') :
    IsSound (.starred stars parts)
  | paren {parts : List Expr} (h : ∀ e ∈ parts, IsSound e) : IsSound (.paren parts)
  | display {brackets : Brackets} {items : List Expr} (h : ∀ e ∈ items, IsSound e) :
    IsSound (.display brackets items)
  | enclosed {e : Expr} (h : e.isEnclosed = true) : IsSound e
  | conditional (source : Text) (parts : List Expr) : IsSound (.conditional source parts)
  | verbatim (source : Text) : IsSound (.verbatim source)

/-- A link as it is read: the name of an attribute is a word. -/
def Link.IsSound : Link → Prop
  | .member name => IsWord name
  | _ => True

/-- The innermost object of an expression that was read, and what stands behind it, are as they are
read. -/
theorem Expr.IsSound.spine {e : Expr} (h : e.IsSound) :
    e.root.IsSound ∧ ∀ link ∈ e.links, link.IsSound := by
  induction e using Expr.root.induct with
  | case1 object word ih =>
    cases h with
    | qualified h hword =>
      exact ⟨(ih h).1, List.forall_mem_append.2 ⟨(ih h).2, List.forall_mem_singleton.2 hword⟩⟩
    | enclosed h => cases h
  | case2 function arguments ih =>
    cases h with
    | call _ h =>
      exact ⟨(ih h).1, List.forall_mem_append.2 ⟨(ih h).2, List.forall_mem_singleton.2 trivial⟩⟩
    | enclosed h => cases h
  | case3 value indices hasComma ih =>
    cases h with
    | subscript _ _ h =>
      exact ⟨(ih h).1, List.forall_mem_append.2 ⟨(ih h).2, List.forall_mem_singleton.2 trivial⟩⟩
    | enclosed h => cases h
  | case4 e ih =>
    cases h with
    | paren h => exact ih (h e (List.mem_singleton_self e))
    | enclosed h => cases h
  | case5 e hattribute hcall hsubscript hparen =>
    obtain ⟨hroot, hlinks⟩ := links_of_root e hattribute hcall hsubscript hparen
    rw [hroot, hlinks]
    exact ⟨h, fun _ hlink => absurd hlink List.not_mem_nil⟩

end Testbook.Python
