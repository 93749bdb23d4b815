import Testbook.Proofs.Python.Sound

/-!
The names that definitions have, and the expressions that statements keep. A name is read as a word, and
a point is no character of a word, so the functions and classes of a module, however deep in it they
were read, have names without points (`hasNames_readModule`). The expressions are decorators and
assigned values; what holds of all expressions that are read, and of what is kept as it was written, holds
of them. Both are passed on from the readers of statements to those of suites and definitions, along the
nesting of the grammar (`keepsEach_parseStatements`).
-/

namespace Testbook.Python

open Testbook.Text

/-! ### Statements -/

variable {P : Expr → Prop} {g : Grammar}

/-- The functions and classes in a statement have words as names, those within classes as well, and `P`
holds of the decorators and assigned values in it. -/
inductive Stmt.Keeps (P : Expr → Prop) : Stmt → Prop where
  | expression (first : Expr) : Keeps P (.expression first)
  | assignment (target : Expr) {value : Option Expr} (h : ∀ e ∈ value, P e) :
    Keeps P (.assignment target value)
  | function {isAsync : Bool} {line : Nat} {name : Text} {body : List Stmt} (h : IsWord name) :
    Keeps P (.function isAsync line name body)
  | classDef {line : Nat} {name : Text} {body : List Stmt} (h : IsWord name)
    (hbody : ∀ s ∈ body, Keeps P s) : Keeps P (.classDef line name body)
  | decorated {decorators : List Expr} {definition : Stmt} (hdecorators : ∀ e ∈ decorators, P e)
    (h : Keeps P definition) : Keeps P (.decorated decorators definition)
  | other : Keeps P .other

/-- Each of several statements keeps what `P` holds of. -/
def Stmt.KeepsEach (P : Expr → Prop) (statements : List Stmt) : Prop := ∀ s ∈ statements, s.Keeps P

theorem Stmt.KeepsEach.nil : Stmt.KeepsEach P [] := fun _ h => absurd h List.not_mem_nil

theorem Stmt.KeepsEach.append {a b : List Stmt} (ha : Stmt.KeepsEach P a) (hb : Stmt.KeepsEach P b) :
    Stmt.KeepsEach P (a ++ b) :=
  List.forall_mem_append.2 ⟨ha, hb⟩

theorem Stmt.KeepsEach.singleton {s : Stmt} (h : s.Keeps P) : Stmt.KeepsEach P [s] :=
  List.forall_mem_singleton.2 h

/-- That `P` holds of what is kept as it was written, and of tuples without brackets. -/
structure HoldsOfKept (P : Expr → Prop) : Prop where
  verbatim : ∀ source, P (.verbatim source)
  tuple : ∀ items, (∀ e ∈ items, P e) → P (.display .round items)

theorem HoldsOfKept.gap (h : HoldsOfKept P) (l : Lexeme) : ∀ e ∈ l.gap, P e := by
  intro e he
  obtain ⟨source, -, rfl⟩ := List.mem_map.1 he
  exact h.verbatim source

/-- What a grammar reads within other constructs keeps what `P` holds of. -/
structure Grammar.GivesStatements (g : Grammar) (P : Expr → Prop) : Prop where
  kept : HoldsOfKept P
  expressions : g.Gives P
  statement : ∀ inBlock, Yields (g.statement inBlock) (Stmt.KeepsEach P)

theorem yields_readWhole {α : Type} {r : Reader α} {P : α → Prop} (h : Yields r P) :
    Yields (readWhole r) P := by
  refine h.bind fun a ha => .after fun l => ?_
  exact .ite (fun _ => .pure ha) fun _ => .refuse

/-- The expressions that a statement lists. -/
theorem yields_readListed (h : g.GivesStatements P) (opening : Expect) :
    Yields (readListed g opening) fun read => P read.1 ∧ ∀ e ∈ read.2.1, P e := by
  unfold readListed
  refine (h.expressions.expression _ _ _).bind fun first hfirst => ?_
  refine .iterate (I := fun state => ∀ e ∈ state.1, P e) (fun (items, isTuple) hitems => ?_) g.steps
    (List.forall_mem_singleton.2 hfirst)
  refine .after fun comma => .ite (fun _ => .pure ⟨hfirst, hitems⟩) fun _ => ?_
  have hcomma := List.forall_mem_append.2 ⟨hitems, h.kept.gap comma⟩
  refine .after fun _ => .after fun l => .ite (fun _ => ?_) fun _ => .pure hcomma
  have hgap := List.forall_mem_append.2 ⟨hcomma, h.kept.gap l⟩
  exact (h.expressions.expression _ _ _).bind fun item hitem => .pure
    (List.forall_mem_append.2 ⟨hgap, List.forall_mem_singleton.2 hitem⟩)

theorem yields_readAssigned (h : g.GivesStatements P) (depth : Nat) :
    Yields (readAssigned g depth) P := by
  cases depth with
  | zero => exact .refuse
  | succ depth =>
    rw [readAssigned]
    refine .after fun l => .ite (fun _ => yields_readYield h.kept.verbatim g l _) fun _ => ?_
    refine (yields_readListed h _).bind fun ⟨first, items, isTuple⟩ hread => .after fun operator => ?_
    have hvalue : P (if isTuple then Expr.display .round items else first) := by
      cases isTuple
      · exact hread.1
      · exact h.kept.tuple items hread.2
    have hkept : Yields (verbatimSince l.start) P := yields_verbatimSince h.kept.verbatim _
    split
    · refine .ite (fun _ => .guarded fun _ => .after fun _ => .after fun _ => hkept) fun _ => ?_
      refine .ite (fun _ => .guarded fun _ => .after fun _ => .after fun _ => .after fun _ => ?_)
        fun _ => .pure hvalue
      exact .ite (fun _ => .after fun _ => hkept) fun _ => hkept
    · exact .pure hvalue

theorem yields_readExpressionStatement (h : g.GivesStatements P) (opening : Expect) :
    Yields (readExpressionStatement g opening) (Stmt.Keeps P) := by
  have hassigned (target : Expr) :
      Yields (do return .assignment target (some (← readAssigned g g.steps))) (Stmt.Keeps P) :=
    (yields_readAssigned h _).bind fun value hvalue => .pure (.assignment target fun e he => by
      cases he
      exact hvalue)
  unfold readExpressionStatement
  refine .after fun l => .ite (fun _ => .after fun _ => .pure (.expression _)) fun _ => ?_
  refine .after fun ⟨first, items, isTuple⟩ => .after fun operator => ?_
  split
  · refine .ite (fun _ => .guarded fun _ => .after fun _ => hassigned _)
      fun _ => .ite (fun _ => .guarded fun _ => .after fun _ => .after fun _ => .pure .other)
      fun _ => .ite (fun _ => .guarded fun _ => .after fun _ => .after fun _ => .after fun _ =>
        .ite (fun _ => hassigned _) fun _ => .pure (.assignment _ fun e he => by cases he))
      fun _ => .pure (.expression _)
  · exact .pure (.expression _)

theorem yields_readSimple (h : g.GivesStatements P) (opening : Expect) :
    Yields (readSimple g opening) (Stmt.Keeps P) := by
  unfold readSimple
  refine .after fun l => ?_
  have hplain := yields_readWhole (yields_readExpressionStatement h opening)
  have hkeyword (rest : Reader Unit) : Yields (do take l; readWhole rest; return Stmt.other)
      (Stmt.Keeps P) := .after fun _ => .after fun _ => .pure .other
  split
  · split
    all_goals first
      | exact hkeyword _
      | exact .either hplain (hkeyword _)
      | exact hplain
  · exact hplain

theorem yields_readSimpleLine (h : g.GivesStatements P) (opening : Expect) :
    Yields (readSimpleLine g opening) (Stmt.KeepsEach P) := by
  refine .iterate (I := fun state => Stmt.KeepsEach P state.2)
    (fun (opening, statements) hstatements => ?_) g.steps .nil
  refine (yields_readSimple h opening).bind fun s hs => ?_
  have hnext : Stmt.KeepsEach P (statements ++ [s]) := hstatements.append (.singleton hs)
  exact .after fun _ => .after fun _ => .ite
    (fun _ => .after fun _ => .ite (fun _ => .after fun _ => .pure hnext) fun _ => .pure hnext)
    fun _ => .pure hnext

/-! ### Suites and definitions -/

theorem yields_readBlock (h : g.GivesStatements P) : Yields (readBlock g) (Stmt.KeepsEach P) := by
  refine .iterate (I := Stmt.KeepsEach P) (fun statements hstatements => .after fun l => ?_) g.steps .nil
  exact .ite (fun _ => .after fun _ => .pure hstatements)
    fun _ => (h.statement true).bind fun next hnext => .pure (hstatements.append hnext)

theorem yields_readSuite (h : g.GivesStatements P) : Yields (readSuite g) (Stmt.KeepsEach P) := by
  unfold readSuite
  refine .after fun _ => .after fun l => ?_
  split
  · exact .after fun _ => yields_readBlock h
  · exact .after fun _ => .pure .nil
  · exact yields_readSimpleLine h _

theorem yields_readFunction (isAsync : Bool) (line : Nat) :
    Yields (readFunction g isAsync line) (Stmt.Keeps P) := by
  unfold readFunction
  refine yields_readName.bind fun name hname => .after fun _ => .after fun _ => .after fun _ => ?_
  have hword := isWord_of_isIdentifier hname
  exact .ite (fun _ => .after fun _ => .after fun _ => .pure (.function hword))
    fun _ => .after fun _ => .pure (.function hword)

theorem yields_readClass (h : g.GivesStatements P) (line : Nat) : Yields (readClass g line) (Stmt.Keeps P) := by
  unfold readClass
  refine yields_readName.bind fun name hname => .after fun _ => .after fun _ => ?_
  have hsuite : Yields (do return Stmt.classDef line name (← readSuite g)) (Stmt.Keeps P) :=
    (yields_readSuite h).bind fun body hbody => .pure (.classDef (isWord_of_isIdentifier hname) hbody)
  exact .ite (fun _ => .after fun _ => hsuite) fun _ => hsuite

theorem yields_readDefinition (h : g.GivesStatements P) (l : Lexeme) :
    Yields (readDefinition g l) (Stmt.Keeps P) := by
  unfold readDefinition
  exact .after fun _ => .ite (fun _ => yields_readFunction _ _) fun _ =>
    .ite (fun _ => yields_readClass h _) fun _ =>
    .ite (fun _ => .after fun _ => yields_readFunction _ _) fun _ => .refuse

theorem yields_readDecorated (h : g.GivesStatements P) (opening : Expect) :
    Yields (readDecorated g opening) (Stmt.Keeps P) := by
  unfold readDecorated
  refine (Yields.iterate (I := fun state => ∀ e ∈ state.2, P e)
    (fun (opening, decorators) hdecorators => ?_) g.steps
    fun e he => absurd he List.not_mem_nil).bind fun decorators hdecorators =>
      .after fun l => (yields_readDefinition h l).bind
        fun definition hdefinition => .pure (.decorated hdecorators hdefinition)
  refine .after fun isDecorator => .ite (fun _ => ?_) fun _ => .pure hdecorators
  refine .after fun l => (h.expressions.expression _ _ _).bind fun expression hexpression => ?_
  refine .after fun l' => .guarded fun _ => .after fun _ => .pure ?_
  refine List.forall_mem_append.2 ⟨hdecorators, List.forall_mem_singleton.2 ?_⟩
  cases hgap : l.gap with
  | nil => exact hexpression
  | cons mark rest => exact h.kept.gap l mark (hgap ▸ List.mem_cons_self)

theorem yields_readAsync (h : g.GivesStatements P) (inBlock : Bool) (l : Lexeme) :
    Yields (readAsync g inBlock l) (Stmt.KeepsEach P) := by
  unfold readAsync
  refine .after fun c => .after fun _ => .after fun second => .after fun _ => ?_
  refine .ite (fun _ => (yields_readFunction _ _).bind fun f hf => .pure (.singleton hf)) fun _ => ?_
  refine .ite (fun _ => .after fun _ => .pure (.singleton .other)) fun _ => ?_
  exact .ite (fun _ => .after fun _ => .pure (.singleton .other)) fun _ =>
    .after fun _ => yields_readSimpleLine h _

/-- A statement keeps what `P` holds of if what is read within it does. -/
theorem yields_readStatement (h : g.GivesStatements P) (inBlock : Bool) :
    Yields (readStatement g inBlock) (Stmt.KeepsEach P) := by
  unfold readStatement
  refine .after fun l => ?_
  have hcompound (rest : Reader Unit) : Yields (do take l; rest; return [Stmt.other]) (Stmt.KeepsEach P) :=
    .after fun _ => .after fun _ => .pure (.singleton .other)
  have hdefinition : Yields (do return [← readDefinition g l]) (Stmt.KeepsEach P) :=
    (yields_readDefinition h l).bind fun s hs => .pure (.singleton hs)
  have hline := yields_readSimpleLine h (clauseNext inBlock)
  split
  · exact (yields_readDecorated h _).bind fun s hs => .pure (.singleton hs)
  · split
    all_goals first
      | exact hcompound _
      | exact hdefinition
      | exact yields_readAsync h inBlock l
      | exact .either hline (hcompound _)
      | exact hline
  · exact hline

/-- However deep constructs nest, statements keep what `P` holds of, if all expressions are such. -/
theorem givesStatements_grammar (hkept : HoldsOfKept P) (source : Text)
    (hexpressions : ∀ depth, (grammar source depth).Gives P) (depth : Nat) :
    (grammar source depth).GivesStatements P := by
  induction depth with
  | zero => exact ⟨hkept, hexpressions 0, fun inBlock => .refuse⟩
  | succ depth ih => exact ⟨hkept, hexpressions (depth + 1), fun inBlock => yields_readStatement ih inBlock⟩

theorem keepsEach_parseStatements (hkept : HoldsOfKept P) {source : Text}
    (hexpressions : ∀ depth, (grammar source depth).Gives P) {statements : List Stmt}
    (h : parseStatements source = .ok statements) : Stmt.KeepsEach P statements := by
  have hread : Yields (readStatements (grammar source (depthFor source))) (Stmt.KeepsEach P) := by
    refine .iterate (I := Stmt.KeepsEach P) (fun statements hstatements => .after fun l => ?_) _ .nil
    have hstatement := (givesStatements_grammar hkept source hexpressions (depthFor source)).statement false
    exact .ite (fun _ => .pure hstatements) fun _ =>
      hstatement.bind fun next hnext => .pure (hstatements.append hnext)
  rw [parseStatements] at h
  change ((readStatements _) _).map _ = _ at h
  cases hrun : readStatements (grammar source (depthFor source)) { rest := source } with
  | error fault =>
    rw [hrun] at h
    cases h
  | ok found =>
    rw [hrun] at h
    cases h
    exact hread _ _ _ hrun

/-- What statements keep is sound. -/
theorem areSound_parseStatements {source : Text} {statements : List Stmt}
    (h : parseStatements source = .ok statements) : Stmt.KeepsEach Expr.IsSound statements :=
  keepsEach_parseStatements ⟨.verbatim, fun _ => .display⟩ (givesSound_grammar source) h

/-! ### Decorators -/

/-- The decorators that a statement gives to a definition. -/
def Stmt.decorators : Stmt → List Expr
  | .decorated decorators _ => decorators
  | _ => []

/-- What stands in a class, decorated or not. -/
def Stmt.members : Stmt → List Stmt
  | .classDef _ _ body => body
  | .decorated _ definition => definition.members
  | _ => []

/-- The decorators in a statement: those of a definition, and of what stands in it if it is a class. -/
def Stmt.allDecorators (s : Stmt) : List Expr := s.decorators ++ s.members.flatMap Stmt.decorators

theorem Stmt.Keeps.decorators {s : Stmt} (h : s.Keeps P) : ∀ e ∈ s.decorators, P e := by
  cases h with
  | decorated hdecorators h => exact hdecorators
  | _ => exact fun e he => absurd he List.not_mem_nil

theorem Stmt.Keeps.members {s : Stmt} (h : s.Keeps P) : Stmt.KeepsEach P s.members := by
  induction h with
  | classDef h hbody => exact hbody
  | decorated hdecorators h ih => exact ih
  | _ => exact .nil

theorem Stmt.Keeps.allDecorators {s : Stmt} (h : s.Keeps P) : ∀ e ∈ s.allDecorators, P e := by
  refine List.forall_mem_append.2 ⟨h.decorators, fun e he => ?_⟩
  obtain ⟨member, hmember, he⟩ := List.mem_flatMap.1 he
  exact (h.members member hmember).decorators e he

/-- The functions and classes of a module, and the methods of its classes, have words as names. -/
structure Module.HasNames (m : Module) : Prop where
  function : ∀ f, Definition.function f ∈ m.definitions → IsWord f.name
  classDef : ∀ c, Definition.classDef c ∈ m.definitions → IsWord c.name
  method : ∀ c, Definition.classDef c ∈ m.definitions → ∀ f ∈ c.methods, IsWord f.name

theorem isWord_of_function? {s : Stmt} {f : Function} (h : s.Keeps P) (hf : function? s = some f) :
    IsWord f.name := by
  unfold function? at hf
  split at hf
  · cases hf
    cases h with
    | function hname => exact hname
  · cases hf
    cases h with
    | decorated _ hdefinition =>
      cases hdefinition with
      | function hname => exact hname
  · cases hf

theorem isWord_of_methods {body : List Stmt} {f : Function} (h : Stmt.KeepsEach P body)
    (hf : f ∈ body.filterMap function?) : IsWord f.name := by
  obtain ⟨s, hs, hfunction⟩ := List.mem_filterMap.1 hf
  exact isWord_of_function? (h s hs) hfunction

theorem isWord_of_class? {s : Stmt} {c : Class} (h : s.Keeps P) (hc : class? s = some c) :
    IsWord c.name ∧ ∀ f ∈ c.methods, IsWord f.name := by
  unfold class? at hc
  split at hc
  · cases hc
    cases h with
    | classDef hname hbody => exact ⟨hname, fun f => isWord_of_methods hbody⟩
  · cases hc
    cases h with
    | decorated _ hdefinition =>
      cases hdefinition with
      | classDef hname hbody => exact ⟨hname, fun f => isWord_of_methods hbody⟩
  · cases hc

theorem definition?_eq_some {s : Stmt} {d : Definition} : definition? s = some d
    ↔ (∃ f, function? s = some f ∧ d = .function f)
      ∨ function? s = none ∧ ∃ c, class? s = some c ∧ d = .classDef c := by
  rw [definition?]
  cases function? s <;> simp [eq_comm]

/-- Whatever a text defines has words as names. -/
theorem hasNames_readModule [Recovery] {source : Text} {m : Module} (h : readModule source = .ok m) :
    m.HasNames := by
  rw [readModule] at h
  split at h
  · next statements hstatements =>
    cases h
    have hsound := areSound_parseStatements hstatements
    have hfunction (f : Function)
        (hf : Definition.function f ∈ (Module.ofStatements statements).definitions) :
        IsWord f.name := by
      obtain ⟨s, hs, hd⟩ := List.mem_filterMap.1 hf
      rcases definition?_eq_some.1 hd with ⟨f', hf', he⟩ | ⟨-, c, -, he⟩
      · cases he
        exact isWord_of_function? (hsound s hs) hf'
      · cases he
    have hclass (c : Class)
        (hc : Definition.classDef c ∈ (Module.ofStatements statements).definitions) :
        IsWord c.name ∧ ∀ f ∈ c.methods, IsWord f.name := by
      obtain ⟨s, hs, hd⟩ := List.mem_filterMap.1 hc
      rcases definition?_eq_some.1 hd with ⟨f, -, he⟩ | ⟨-, c', hc', he⟩
      · cases he
      · cases he
        exact isWord_of_class? (hsound s hs) hc'
    exact ⟨hfunction, fun c hc => (hclass c hc).1, fun c hc => (hclass c hc).2⟩
  · cases h

end Testbook.Python
