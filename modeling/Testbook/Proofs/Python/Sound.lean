import Testbook.Proofs.Python.Spine

/-!
Expressions are read sound: whatever a text holds, an expression that is read from it is as
`Expr.IsSound` says. What readers of parts yield is passed on through the readers of operands,
operators and whole expressions; parts that are nested are read one level of the grammar below
(`givesSound_grammar`).
-/

namespace Testbook.Python

open Testbook.Text

/-- Each of several expressions is sound. -/
def Expr.AreSound (es : List Expr) : Prop := ∀ e ∈ es, e.IsSound

theorem Expr.AreSound.nil : Expr.AreSound [] := fun _ h => absurd h List.not_mem_nil

theorem Expr.AreSound.append {a b : List Expr} (ha : Expr.AreSound a) (hb : Expr.AreSound b) :
    Expr.AreSound (a ++ b) :=
  List.forall_mem_append.2 ⟨ha, hb⟩

theorem Expr.AreSound.singleton {e : Expr} (h : e.IsSound) : Expr.AreSound [e] :=
  List.forall_mem_singleton.2 h

theorem areSound_gap (l : Lexeme) : Expr.AreSound l.gap := by
  intro e he
  obtain ⟨source, -, rfl⟩ := List.mem_map.1 he
  exact .verbatim source

variable {g : Grammar}

theorem yields_verbatimSince {P : Expr → Prop} (h : ∀ source, P (.verbatim source)) (start : Text) :
    Yields (verbatimSince start) P :=
  .after fun _ => .pure (h _)

theorem yields_readYield {P : Expr → Prop} (h : ∀ source, P (.verbatim source)) (g : Grammar) (l : Lexeme)
    (after : Expect) : Yields (readYield g l after) P := by
  unfold readYield
  have hkept := yields_verbatimSince h
  refine .after fun _ => .after fun _ => ?_
  exact .ite (fun _ => .after fun _ => hkept _) fun _ => .after fun _ =>
    .ite (fun _ => .after fun _ => hkept _) fun _ => hkept _

/-! ### Operands -/

theorem yields_readItem {closing : String} {emptyComma : Bool} {item : Reader Expr}
    {clauses : Reader (List Expr)} (h : Yields item Expr.IsSound) (state : ItemsState)
    (hstate : Expr.AreSound state.1) :
    Yields (readItem closing emptyComma item clauses state)
      (Sum.elim (fun state => Expr.AreSound state.1) fun read => Expr.AreSound read.1) := by
  obtain ⟨items, count, comma⟩ := state
  unfold readItem
  refine .after fun l => ?_
  refine .ite (fun _ => .after fun _ => .pure (hstate.append (areSound_gap l))) fun _ => ?_
  refine .ite (fun _ => .after fun _ => .after fun l' => .after fun _ =>
    .pure (hstate.append (areSound_gap l'))) fun _ => ?_
  refine h.bind fun read hread => .after fun l' => ?_
  have hitems := (hstate.append (areSound_gap l)).append (.singleton hread)
  refine .ite (fun _ => .after fun _ => .pure (hitems.append (areSound_gap l'))) fun _ => ?_
  refine .ite (fun _ => .after fun _ => .pure (hitems.append (areSound_gap l'))) fun _ => ?_
  exact .ite (fun _ => .after fun _ => .after fun _ => .pure (.singleton hread)) fun _ => .refuse

theorem yields_readItems (g : Grammar) {closing : String} {emptyComma : Bool} {item : Reader Expr}
    {clauses : Reader (List Expr)} (h : Yields item Expr.IsSound) :
    Yields (readItems g closing emptyComma item clauses) fun read => Expr.AreSound read.1 :=
  .iterate (I := fun state => Expr.AreSound state.1) (yields_readItem h) g.steps .nil

theorem yields_readElement (h : g.Gives Expr.IsSound) : Yields (readElement g) Expr.IsSound := by
  unfold readElement
  refine .after fun l => .ite (fun _ => ?_) fun _ => .ite (fun _ => ?_) fun _ => h.expression _ _ _
  · exact .after fun _ => .after fun _ => .after fun _ => .pure (.starred _ rfl)
  · refine (yields_readYield Expr.IsSound.verbatim g l _).bind fun value hvalue => .after fun next => ?_
    exact .ite (fun _ => .refuse) fun _ => .pure hvalue

theorem yields_readSquare (h : g.Gives Expr.IsSound) (clauses : Reader (List Expr)) :
    Yields (readSquare g clauses) Expr.IsSound := by
  unfold readSquare
  refine (yields_readItems g (yields_readElement h)).bind fun ⟨items, comma, clauses⟩ hitems => ?_
  dsimp only
  split
  · exact .pure (.enclosed rfl)
  · exact .pure (.display hitems)

theorem yields_readRound (h : g.Gives Expr.IsSound) (clauses : Reader (List Expr)) :
    Yields (readRound g clauses) Expr.IsSound := by
  unfold readRound
  refine (yields_readItems g (yields_readElement h)).bind fun ⟨items, comma, clauses⟩ hitems => ?_
  dsimp only
  split
  · exact .pure (.enclosed rfl)
  · exact .ite (fun _ => .pure (.display hitems)) fun _ => .pure (.paren hitems)

theorem yields_readCurly (g : Grammar) (clauses : Reader (List Expr)) :
    Yields (readCurly g clauses) Expr.IsSound := by
  unfold readCurly
  refine .after fun ⟨items, comma, clauses⟩ => .ite (fun _ => .refuse) fun _ => ?_
  split
  · exact .pure (.enclosed rfl)
  · exact .pure (.enclosed rfl)

theorem yields_readStrings (g : Grammar) (l : Lexeme) (o : Opening) (after : Expect) :
    Yields (readStrings g l o after) Expr.IsSound := by
  unfold readStrings
  refine .after fun first => .iterate (I := fun _ => True) (fun parts _ => .after fun l => ?_) _ trivial
  split
  · exact .after fun _ => .pure trivial
  · exact .pure (.enclosed rfl)

theorem isSound_wordExpr {word : Text} (h : IsWord word) : (wordExpr word).IsSound := by
  unfold wordExpr
  split
  · next hconstant => exact .constant (.inl hconstant)
  · exact .name h

theorem yields_readAtom (h : g.Gives Expr.IsSound) (clauses : Reader (List Expr))
    (opening after : Expect) : Yields (readAtom g clauses opening after) Expr.IsSound := by
  unfold readAtom
  refine (yields_peek _).bind fun l hl => ?_
  split
  · next w hw => exact .after fun _ => .pure (isSound_wordExpr (isWord_of_isIdentifier (hl.word w hw)))
  · next w hw => exact .after fun _ => .pure (.integer (hl.integer w hw))
  · next w hw => exact .after fun _ => .pure (.float (hl.float w hw))
  · exact yields_readStrings g _ _ _
  · exact .after fun _ => .pure (.constant (.inr rfl))
  · exact .after fun _ => yields_readRound h _
  · exact .after fun _ => yields_readSquare h _
  · exact .after fun _ => yields_readCurly g _
  · exact .refuse

theorem yields_readTrailer (g : Grammar) (clauses : Reader (List Expr)) (after : Expect) (value : Expr)
    (hvalue : value.IsSound) :
    Yields (readTrailer g clauses after value) (Sum.elim Expr.IsSound Expr.IsSound) := by
  unfold readTrailer
  refine .after fun l => ?_
  split
  · exact .after fun _ => yields_readName.bind fun word hword =>
      .pure (.qualified hvalue (isWord_of_isIdentifier hword))
  · exact .after fun _ => .after fun arguments => .pure (.call arguments hvalue)
  · exact .after fun _ => .after fun ⟨indices, hasComma⟩ => .pure (.subscript indices hasComma hvalue)
  · exact .pure hvalue

theorem yields_readPrimary (h : g.Gives Expr.IsSound) (clauses : Reader (List Expr))
    (opening after : Expect) : Yields (readPrimary g clauses opening after) Expr.IsSound := by
  unfold readPrimary
  refine .after fun l => .ite (fun _ => ?_) fun _ => ?_
  · refine .after fun _ => .after fun inner => .after fun atom => .after fun value => ?_
    exact .ite (fun _ => .pure (.starred _ rfl)) fun _ => .refuse
  · exact (yields_readAtom h _ _ _).bind fun atom hatom =>
      .iterate (yields_readTrailer g clauses after) g.steps hatom

/-! ### Operators -/

theorem yields_readSigned (h : g.Gives Expr.IsSound) (opening after : Expect) :
    Yields (readSigned g opening after) Expr.IsSound := by
  unfold readSigned
  have hprimary := yields_readPrimary h (readClauses g g.steps) opening after
  refine .after fun l => ?_
  split
  · exact .ite (fun _ => .after fun _ => .after fun _ => .pure (.enclosed rfl)) fun _ => hprimary
  · refine .ite (fun _ => ?_) fun _ => hprimary
    refine .after fun c => .after fun _ => .after fun next => ?_
    exact .ite (fun _ => .after fun _ => yields_verbatimSince Expr.IsSound.verbatim _)
      fun _ => .after fun _ => hprimary
  · exact hprimary

theorem yields_readArithmetic (g : Grammar) (least : Nat) (after : Expect) (left : Expr)
    (hleft : left.IsSound) :
    Yields (readArithmetic g least after left) (Sum.elim Expr.IsSound Expr.IsSound) := by
  unfold readArithmetic
  refine .after fun l => ?_
  split
  · split
    · exact .ite (fun _ => .after fun _ => .after fun _ => .pure (.enclosed rfl)) fun _ => .pure hleft
    · exact .pure hleft
  · exact .pure hleft

theorem yields_readBinary (h : g.Gives Expr.IsSound) (least : Nat) (opening after : Expect) :
    Yields (readBinary g least opening after) Expr.IsSound :=
  (yields_readSigned h opening after).bind fun _ hfirst =>
    .iterate (yields_readArithmetic g least after) g.steps hfirst

/-- What stands alone in a list of operands and operators. -/
def IsSoundAlone (parts : List Expr) : Prop := ∀ e, parts = [e] → e.IsSound

theorem isSoundAlone_concat (parts : List Expr) {right : Expr} (h : right.IsSound) :
    IsSoundAlone (parts ++ [right]) := by
  intro e he
  obtain ⟨-, heq⟩ := List.append_inj' (he.trans (List.nil_append [e]).symm) rfl
  cases heq
  exact h

theorem yields_readComparand (h : g.Gives Expr.IsSound) (after : Expect) (parts : List Expr)
    (hparts : IsSoundAlone parts) :
    Yields (readComparand g after parts) (Sum.elim IsSoundAlone Expr.IsSound) := by
  unfold readComparand
  refine .after fun operator => ?_
  split
  · split
    · exact .pure (hparts _ rfl)
    · exact .pure (.enclosed rfl)
  · refine .after fun l => (h.binary _ _ _).bind fun right hright => .pure ?_
    exact isSoundAlone_concat _ hright

theorem yields_readComparisons (h : g.Gives Expr.IsSound) (opening after : Expect) :
    Yields (readComparisons g opening after) Expr.IsSound :=
  (h.binary _ _ _).bind fun _ hfirst =>
    .iterate (yields_readComparand h after) g.steps (isSoundAlone_concat [] hfirst)

/-! ### Expressions -/

theorem yields_readOperand (h : g.Gives Expr.IsSound) (level : Nat) (opening after : Expect) :
    Yields (readOperand g level opening after) Expr.IsSound := by
  have hnamed (l : Lexeme) : Yields (readNamed? g l after) fun named => ∀ e ∈ named, e.IsSound := by
    unfold readNamed?
    split
    · refine .after fun c => .after fun _ => .after fun isNamed => .ite (fun _ => ?_) fun _ => ?_
      · refine .after fun _ => (yields_verbatimSince Expr.IsSound.verbatim _).bind fun named hnamed =>
          .pure fun e he => ?_
        cases he
        exact hnamed
      · exact .after fun _ => .pure fun e he => by cases he
    · exact .pure fun e he => by cases he
  unfold readOperand
  refine .after fun l => .ite (fun _ => ?_) fun _ => .ite (fun _ => ?_) fun _ => ?_
  · exact .after fun _ => .after fun _ => .after fun _ => .after fun _ => .pure (.enclosed rfl)
  · exact .after fun _ => .after fun _ => .pure (.enclosed rfl)
  · refine (hnamed l).bind fun named hnamed => ?_
    split
    · exact .pure (hnamed _ rfl)
    · exact yields_readComparisons h _ _

theorem yields_readWordOperator (g : Grammar) (level : Nat) (after : Expect) (start : Text) (left : Expr)
    (hleft : left.IsSound) :
    Yields (readWordOperator g level after start left) (Sum.elim Expr.IsSound Expr.IsSound) := by
  unfold readWordOperator
  refine .after fun l => ?_
  refine .ite (fun _ => .after fun _ => .after fun _ => .pure (.enclosed rfl)) fun _ => ?_
  refine .ite (fun _ => .after fun _ => .after fun _ => .pure (.enclosed rfl)) fun _ => ?_
  refine .ite (fun _ => .after fun _ => .after fun _ => (yields_verbatimSince Expr.IsSound.verbatim start).bind
    fun e he => .pure he) fun _ => ?_
  exact .ite (fun _ => .after fun _ => .after fun _ => .after fun _ => .after fun _ => .after fun _ =>
    .after fun _ => .after fun _ => .after fun _ => .pure (.conditional _ _)) fun _ => .pure hleft

theorem yields_readExpression (h : g.Gives Expr.IsSound) (level : Nat) (opening after : Expect) :
    Yields (readExpression g level opening after) Expr.IsSound := by
  unfold readExpression
  exact .after fun l => (yields_readOperand h level opening after).bind fun _ hfirst =>
    .iterate (yields_readWordOperator g level after _) g.steps hfirst

/-- However deep expressions nest, they are read sound. -/
theorem givesSound_grammar (source : Text) (depth : Nat) :
    (grammar source depth).Gives Expr.IsSound := by
  induction depth with
  | zero => exact ⟨fun _ _ _ => .refuse, fun _ _ _ => .refuse⟩
  | succ depth ih => exact ⟨yields_readExpression ih, yields_readBinary ih⟩

end Testbook.Python
