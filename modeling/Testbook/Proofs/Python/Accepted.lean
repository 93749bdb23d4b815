import Testbook.Proofs.Python.Ordinary
import Testbook.Proofs.Python.Sound

/-!
What is accepted as an expression. Whatever a text holds, an expression that is read from it is regular
unless it is odd: each reader yields expressions as they are read at its place (`Expr.IsReadAt`), given
that the grammar below does (`givesRead_grammar`).
-/

namespace Testbook.Python.Accepted

open Testbook.Text

variable {g : Grammar} {role : Role}

theorem readAs_append {a b : List Expr} (ha : ∀ e ∈ a, e.IsReadAt role) (hb : ∀ e ∈ b, e.IsReadAt role) :
    ∀ e ∈ a ++ b, e.IsReadAt role :=
  List.forall_mem_append.2 ⟨ha, hb⟩

theorem yields_verbatim (start : Text) : Yields (verbatimSince start) (Expr.IsReadAt role) :=
  yields_verbatimSince (isReadAt_verbatim role) start

/-! ### Items in brackets -/

/-- What is known of items that were read: when there was no comma there is one of them, or none, or
there are line continuations among them; and clauses stand behind a single one. -/
structure AreItems (role : Role) (read : List Expr × Bool × List Expr) : Prop where
  isReadAt : ∀ e ∈ read.1, e.IsReadAt role
  alone : read.2.1 = false → (∃ e, read.1 = [e]) ∨ read.1 = [] ∨ ∃ source, .verbatim source ∈ read.1
  clauses : read.2.2 = [] ∨ AreClauses read.2.2 ∧ ∀ body, read.1 = [body] → isBody body = true

/-- What is known of items while they are read: without a comma there are none yet. -/
structure AreItemsSoFar (role : Role) (state : ItemsState) : Prop where
  isReadAt : ∀ e ∈ state.1, e.IsReadAt role
  empty : state.2.2 = false → state.1 = []

/-- Where a clause is next, a reader of clauses yields clauses. -/
def GivesClauses (clauses : Reader (List Expr)) : Prop :=
  ∀ c, (next closerNext c).opensClause = true → YieldsAt c clauses AreClauses

/-- Between lexemes there is a line continuation, or nothing is kept. -/
theorem gap_cases (l : Lexeme) : l.gap = [] ∨ ∃ source, .verbatim source ∈ l.gap := by
  cases hgap : l.gap with
  | nil => exact .inl rfl
  | cons mark rest =>
    obtain ⟨source, -, hsource⟩ := List.mem_map.1 (hgap ▸ List.mem_cons_self : mark ∈ l.gap)
    exact .inr ⟨source, hsource ▸ List.mem_cons_self⟩

theorem yields_readItem {closing : String} {emptyComma : Bool} {item : Reader Expr}
    {clauses : Reader (List Expr)} (h : Yields item (Expr.IsReadAt role)) (hclauses : GivesClauses clauses)
    (state : ItemsState) (hstate : AreItemsSoFar role state) :
    Yields (readItem closing emptyComma item clauses state)
      (Sum.elim (AreItemsSoFar role) (AreItems role)) := by
  obtain ⟨items, count, comma⟩ := state
  obtain ⟨hitems, hempty⟩ := hstate
  dsimp only at hitems hempty
  -- at the end of the items, where line continuations may stand in front of the bracket
  have hend (l : Lexeme) {items : List Expr} {comma : Bool} (hitems : ∀ e ∈ items, e.IsReadAt role)
      (halone : comma = false → (∃ e, items = [e]) ∨ items = [] ∨ ∃ source, .verbatim source ∈ items) :
      AreItems role (items ++ l.gap, comma, []) := by
    refine ⟨readAs_append hitems (isReadAt_gap role l), fun hcomma => ?_, .inl rfl⟩
    rcases gap_cases l with hgap | ⟨source, hsource⟩
    · simpa [hgap] using halone hcomma
    · exact .inr (.inr ⟨source, List.mem_append_right _ hsource⟩)
  unfold readItem
  refine .after fun l => .ite (fun _ => ?_) fun _ => .ite (fun _ => ?_) fun _ => ?_
  · exact .after fun _ => .pure (hend l hitems fun hcomma => .inr (.inl (hempty hcomma)))
  · exact .after fun _ => .after fun l' => .after fun _ => .pure (hend l' hitems fun hcomma => by cases hcomma)
  · refine h.bind fun read hread => ?_
    have hnext : ∀ e ∈ items ++ l.gap ++ [read], e.IsReadAt role :=
      readAs_append (readAs_append hitems (isReadAt_gap role l)) (List.forall_mem_singleton.2 hread)
    have halone (hcomma : comma = false) : (∃ e, items ++ l.gap ++ [read] = [e])
        ∨ items ++ l.gap ++ [read] = [] ∨ ∃ source, .verbatim source ∈ items ++ l.gap ++ [read] := by
      rcases gap_cases l with hgap | ⟨source, hsource⟩
      · exact .inl ⟨read, by rw [hempty hcomma, hgap]; rfl⟩
      · exact .inr (.inr ⟨source, List.mem_append_left _ (List.mem_append_right _ hsource)⟩)
    intro c
    refine YieldsAt.peek ?_
    by_cases hclosing : (next closerNext c).isOp closing
    · rw [if_pos hclosing]
      refine Yields.after (fun _ => ?_) c
      exact .pure (hend (next closerNext c) hnext halone)
    · rw [if_neg hclosing]
      by_cases hcomma : (next closerNext c).isOp ","
      · rw [if_pos hcomma]
        exact Yields.after (fun _ => .pure ⟨readAs_append hnext (isReadAt_gap role _), fun h => by cases h⟩) c
      · rw [if_neg hcomma]
        by_cases hloop : ((next closerNext c).opensClause && count = 0 && isBody read) = true
        · rw [if_pos hloop]
          simp only [Bool.and_eq_true] at hloop
          refine (hclauses c hloop.1.1).bind fun clauses hread' => .after fun _ => .pure ?_
          refine ⟨List.forall_mem_singleton.2 hread, fun _ => .inl ⟨read, rfl⟩,
            .inr ⟨hread', fun body hbody => ?_⟩⟩
          cases hbody
          exact hloop.2
        · rw [if_neg hloop]
          exact Yields.refuse c

theorem yields_readItems {closing : String} {emptyComma : Bool} {item : Reader Expr}
    {clauses : Reader (List Expr)} (h : Yields item (Expr.IsReadAt role)) (hclauses : GivesClauses clauses) :
    Yields (readItems g closing emptyComma item clauses) (AreItems role) :=
  .iterate (I := AreItemsSoFar role) (yields_readItem h hclauses) g.steps
    ⟨fun _ h => absurd h List.not_mem_nil, fun _ => rfl⟩

theorem yields_readStarred (h : g.Gives (Expr.IsReadAt .element)) (l : Lexeme) {stars : Text} (after : Expect)
    (hparameter : role ≠ .parameter) (hstars : (role.stars.map String.toList).contains stars = true) :
    Yields (readStarred g l stars after) (Expr.IsReadAt role) :=
  .after fun _ => .after fun _ => (h.expression _ _ _).bind fun _ hvalue =>
    .pure (isReadAt_starred hparameter hstars hvalue)

theorem yields_readElement (h : g.Gives (Expr.IsReadAt .element)) :
    Yields (readElement g) (Expr.IsReadAt .element) := by
  unfold readElement
  refine .after fun l => .ite (fun _ => ?_) fun _ => .ite (fun _ => ?_) fun _ => h.expression _ _ _
  · exact yields_readStarred h l _ (by decide) (by decide)
  · refine (yields_readYield (isReadAt_verbatim .element) g l _).bind fun value hvalue => .after fun next => ?_
    exact .ite (fun _ => .refuse) fun _ => .pure hvalue

theorem yields_readArgument (h : g.Gives (Expr.IsReadAt .element)) :
    Yields (readArgument g) (Expr.IsReadAt .argument) := by
  have hplain (opening after : Expect) :
      Yields (g.expression anyLevel opening after) (Expr.IsReadAt .argument) := by
    intro c e c' he
    exact (h.expression _ _ _ c e c' he).of_element rfl (by decide)
  unfold readArgument
  refine (yields_peek _).bind fun l hl => ?_
  split
  · exact yields_readStarred h l _ (by decide) (by decide)
  · exact yields_readStarred h l _ (by decide) (by decide)
  · next w hw =>
    refine .after fun c => .after fun _ => .after fun isKeyword => .ite (fun hkeyword => ?_) fun _ => ?_
    · simp only [Bool.and_eq_true, Bool.not_eq_true'] at hkeyword
      exact (h.expression _ _ _).bind fun value hvalue =>
        .pure (isReadAt_keyword (hl.word w hw) hkeyword.1 hvalue)
    · exact .after fun _ => hplain _ _
  · exact hplain _ _

/-- An entry of a dictionary, or an element of a set. -/
theorem yields_readEntry (h : g.Gives (Expr.IsReadAt .element)) :
    Yields (readEntry g) (Expr.IsReadAt .entry) := by
  unfold readEntry
  refine .after fun l => .ite (fun _ => yields_readStarred h l _ (by decide) (by decide)) fun _ => ?_
  refine (yields_readElement h).bind fun key hkey => .after fun isPair => .ite (fun _ => ?_) fun _ => ?_
  · exact (h.expression _ _ _).bind fun value hvalue => .pure (isReadAt_pair hkey hvalue)
  · exact .pure (hkey.of_element rfl (by decide))

theorem yields_readSquare (h : g.Gives (Expr.IsReadAt .element)) {clauses : Reader (List Expr)}
    (hclauses : GivesClauses clauses) : Yields (readSquare g clauses) (Expr.IsReadAt .element) := by
  unfold readSquare
  refine (yields_readItems (yields_readElement h) hclauses).bind fun ⟨items, comma, clauses⟩ hitems => ?_
  dsimp only
  split
  · next body clause rest =>
    obtain ⟨hread, hbody⟩ := hitems.clauses.resolve_left (List.cons_ne_nil _ _)
    exact .pure (isReadAt_comprehension (hitems.isReadAt body List.mem_cons_self) (hbody body rfl) hread)
  · exact .pure (isReadAt_display (by decide) hitems.isReadAt)

theorem yields_readRound (h : g.Gives (Expr.IsReadAt .element)) {clauses : Reader (List Expr)}
    (hclauses : GivesClauses clauses) : Yields (readRound g clauses) (Expr.IsReadAt .element) := by
  unfold readRound
  refine (yields_readItems (yields_readElement h) hclauses).bind fun ⟨items, comma, clauses⟩ hitems => ?_
  dsimp only
  split
  · next body clause rest =>
    obtain ⟨hread, hbody⟩ := hitems.clauses.resolve_left (List.cons_ne_nil _ _)
    exact .pure (isReadAt_comprehension (hitems.isReadAt body List.mem_cons_self) (hbody body rfl) hread)
  · refine .ite (fun _ => .pure (isReadAt_display (by decide) hitems.isReadAt)) fun hsingle => ?_
    simp only [Bool.or_eq_true, not_or, Bool.not_eq_true, List.isEmpty_eq_false_iff] at hsingle
    refine .pure (isReadAt_paren hitems.isReadAt ?_)
    rcases hitems.alone hsingle.1 with halone | hnone | hgap
    · exact .inl halone
    · have hnone' : items = [] := hnone
      exact absurd (by rw [hnone']; rfl) hsingle.2
    · exact .inr hgap

theorem yields_readCurly (h : g.Gives (Expr.IsReadAt .element)) {clauses : Reader (List Expr)}
    (hclauses : GivesClauses clauses) : Yields (readCurly g clauses) (Expr.IsReadAt .element) := by
  unfold readCurly
  refine (yields_readItems (yields_readEntry h) hclauses).bind fun ⟨items, comma, clauses⟩ hitems => ?_
  refine .ite (fun _ => .refuse) fun hentries => ?_
  split
  · next body clause rest =>
    obtain ⟨hread, hbody⟩ := hitems.clauses.resolve_left (List.cons_ne_nil _ _)
    exact .pure (isReadAt_comprehension (hitems.isReadAt body List.mem_cons_self) (hbody body rfl) hread)
  · refine .pure (isReadAt_braces hitems.isReadAt ?_)
    by_cases hall : (items.filter (!isGap ·)).all isEntry = true
    · exact .inl hall
    · refine .inr (Bool.eq_false_iff.2 fun hany => hentries ?_)
      rw [Bool.eq_false_iff.2 hall, hany]
      rfl

theorem yields_readArguments (h : g.Gives (Expr.IsReadAt .element)) {clauses : Reader (List Expr)}
    (hclauses : GivesClauses clauses) :
    Yields (readArguments g clauses) fun arguments => ∀ e ∈ arguments, e.IsReadAt .argument := by
  unfold readArguments
  refine (yields_readItems (yields_readArgument h) hclauses).bind fun ⟨items, comma, clauses⟩ hitems => ?_
  dsimp only
  split
  · next body clause rest =>
    obtain ⟨hread, hbody⟩ := hitems.clauses.resolve_left (List.cons_ne_nil _ _)
    have hargument := hitems.isReadAt body List.mem_cons_self
    have hcomprehension : (Expr.comprehension .round body (clause :: rest)).IsReadAt .element :=
      isReadAt_comprehension (hargument.of_argument (hbody body rfl)) (hbody body rfl) hread
    exact .pure (List.forall_mem_singleton.2 (hcomprehension.of_element rfl (by decide)))
  · exact .pure hitems.isReadAt

/-! ### Operands -/

/-- What counts as an operand is the line continuation behind it, if there is one. -/
theorem isReadAt_gap_getD (l : Lexeme) {value : Expr} (hvalue : value.IsReadAt .element) :
    ∀ e ∈ some (l.gap.getLast?.getD value), e.IsReadAt .element := by
  rintro e ⟨⟩
  cases hlast : l.gap.getLast? with
  | none => exact hvalue
  | some mark => exact isReadAt_gap .element l mark (List.mem_of_getLast? hlast)

/-- What stands in a part of a slice. -/
theorem yields_readSlicePart (h : g.Gives (Expr.IsReadAt .element)) :
    Yields (readSlicePart g) fun bound => ∀ e ∈ bound, e.IsReadAt .element := by
  unfold readSlicePart
  refine .after fun l => .ite (fun _ => .pure ?_) fun _ =>
    .ite (fun _ => .pure fun e he => by cases he) fun _ => ?_
  · exact fun e he => isReadAt_gap .element l e (List.mem_of_getLast? he)
  · refine (h.expression _ _ _).bind fun value hvalue => .after fun l' =>
      .ite (fun _ => .pure ?_) fun _ => .pure ?_
    · exact isReadAt_gap_getD l' hvalue
    · exact fun e he => Option.some.inj he ▸ hvalue

theorem yields_readIndex (h : g.Gives (Expr.IsReadAt .element)) : Yields (readIndex g) IsIndexRead := by
  unfold readIndex
  refine .after fun c => .after fun l => ?_
  extract_lets behind
  have hbehind (lower : Option Expr) (hlower : ∀ e ∈ lower, e.IsReadAt .element) :
      Yields (behind lower) IsIndexRead := by
    refine .after fun isSlice => .ite (fun _ => ?_) fun _ => ?_
    · refine (yields_readSlicePart h).bind fun upper hupper => .after fun hasStep =>
        .ite (fun _ => ?_) fun _ => ?_
      · exact (yields_readSlicePart h).bind fun step hstep =>
          .pure (.inr ⟨rfl, isReadAt_slice hlower hupper hstep⟩)
      · exact .pure (.inr ⟨rfl, isReadAt_slice hlower hupper fun e he => by cases he⟩)
    · split
      · exact .pure (.inl (hlower _ rfl))
      · exact .after fun _ => .refuse
  refine .ite (fun _ => hbehind none fun e he => by cases he) fun _ => ?_
  refine (h.expression _ _ _).bind fun value hvalue => .after fun l' => .ite (fun _ => ?_) fun _ => ?_
  · exact hbehind _ (isReadAt_gap_getD l' hvalue)
  · exact hbehind (some value) fun e he => Option.some.inj he ▸ hvalue

theorem yields_readIndices (h : g.Gives (Expr.IsReadAt .element)) :
    Yields (readIndices g) fun read => read.1 ≠ [] ∧ ∀ e ∈ read.1, IsIndexRead e := by
  unfold readIndices
  refine (yields_readIndex h).bind fun first hfirst => .iterate
    (I := fun indices => indices ≠ [] ∧ ∀ e ∈ indices, IsIndexRead e) (fun indices hindices => ?_) g.steps
    ⟨List.cons_ne_nil _ _, List.forall_mem_singleton.2 hfirst⟩
  refine .after fun isMore => .ite (fun _ => .after fun isLast => .ite (fun _ => .pure hindices) fun _ => ?_)
    fun _ => .after fun _ => .pure hindices
  exact (yields_readIndex h).bind fun index hindex => .pure
    ⟨List.append_ne_nil_of_left_ne_nil hindices.1 _,
      List.forall_mem_append.2 ⟨hindices.2, List.forall_mem_singleton.2 hindex⟩⟩

theorem yields_readTrailer (h : g.Gives (Expr.IsReadAt .element)) {clauses : Reader (List Expr)}
    (hclauses : GivesClauses clauses) (after : Expect) (value : Expr) (hvalue : value.IsReadAt .element) :
    Yields (readTrailer g clauses after value)
      (Sum.elim (Expr.IsReadAt .element) (Expr.IsReadAt .element)) := by
  unfold readTrailer
  refine .after fun l => ?_
  split
  · exact .after fun _ => yields_readName.bind fun word hword => .pure (isReadAt_attribute hvalue hword)
  · exact .after fun _ => (yields_readArguments h hclauses).bind fun arguments harguments =>
      .pure (isReadAt_call hvalue harguments)
  · exact .after fun _ => (yields_readIndices h).bind fun read hread =>
      .pure (isReadAt_subscript hvalue hread.1 hread.2)
  · exact .pure hvalue

theorem isReadAt_wordExpr {word : Text} (h : isIdentifier word = true) : (wordExpr word).IsReadAt .element := by
  unfold wordExpr
  split
  · next hconstant => exact isReadAt_constant (.inl hconstant)
  · next hconstant => exact isReadAt_name h (Bool.eq_false_iff.2 hconstant)

/-- What stands without brackets: a single expression, or a tuple. -/
theorem yields_readExpressions (h : g.Gives (Expr.IsReadAt .element)) (opening after : Expect) :
    Yields (readExpressions g opening after) (Expr.IsReadAt .element) := by
  unfold readExpressions
  refine (h.expression _ _ _).bind fun first hfirst => .iterate
    (I := fun state => ∀ e ∈ state.1, e.IsReadAt .element) (fun ⟨items, isTuple⟩ hitems => ?_) g.steps
    (List.forall_mem_singleton.2 hfirst)
  refine .after fun comma => .ite (fun _ => .pure ?_) fun _ => ?_
  · cases isTuple with
    | false => exact hfirst
    | true => exact isReadAt_display (by decide) hitems
  · have hcomma := readAs_append hitems (isReadAt_gap .element comma)
    refine .after fun _ => .after fun l => .ite (fun _ => ?_) fun _ => .pure hcomma
    exact (h.expression _ _ _).bind fun item hitem => .pure
      (readAs_append (readAs_append hcomma (isReadAt_gap .element l)) (List.forall_mem_singleton.2 hitem))

theorem yields_readInterpolated (h : g.Gives (Expr.IsReadAt .element)) :
    Yields (readInterpolated g) (Expr.IsReadAt .element) := by
  unfold readInterpolated
  refine .after fun l => .ite (fun _ => ?_) fun _ => yields_readExpressions h _ _
  exact yields_readYield (isReadAt_verbatim .element) g l _

theorem yields_readInterpolation (h : g.Gives (Expr.IsReadAt .element)) (depth : Nat) :
    Yields (readInterpolation g depth) IsPieceRead := by
  cases depth with
  | zero => exact .refuse
  | succ depth =>
    unfold readInterpolation
    refine (yields_readInterpolated h).bind fun value hvalue => .after fun isShown => ?_
    extract_lets behind
    have hbehind (conversion : Text) (hconversion : isConversion conversion = true) :
        Yields (behind conversion) IsPieceRead := by
      have hpiece (spec : Option Text) : IsPieceRead (.interpolation value isShown conversion spec) :=
        .inr ⟨value, isShown, conversion, spec, rfl, hvalue, hconversion⟩
      refine .after fun hasSpec => .ite (fun _ => ?_) fun _ => ?_
      · exact .after fun _ => .after fun _ => .after fun _ => .after fun _ => .pure (hpiece _)
      · exact .after fun _ => .after fun _ => .pure (hpiece _)
    refine (yields_peek _).bind fun l hl => ?_
    split
    · next text htoken =>
      obtain ⟨c, rfl, hc⟩ := hl.conversion text htoken
      exact .after fun _ => hbehind _ hc
    · exact hbehind _ rfl

/-- What is known of the pieces of a literal that were read. -/
def ArePieces (p : Pieces) : Prop := ∀ e ∈ p.done, IsPieceRead e

theorem ArePieces.flush {p : Pieces} (h : ArePieces p) : ∀ e ∈ p.flush, IsPieceRead e := by
  unfold Pieces.flush
  split
  · exact h
  · exact List.forall_mem_cons.2 ⟨.inl ⟨p.content, rfl⟩, h⟩

theorem yields_readPiece (h : g.Gives (Expr.IsReadAt .element)) (o : Opening) (p : Pieces) (hp : ArePieces p) :
    Yields (readPiece g o p) (Sum.elim ArePieces fun pieces => ∀ e ∈ pieces, IsPieceRead e) := by
  unfold readPiece
  refine .after fun c => ?_
  have hkeep (content rest : Text) : Yields (do
      set { c with rest := rest }
      return .inl { p with content := content })
      (Sum.elim ArePieces fun pieces : List Expr => ∀ e ∈ pieces, IsPieceRead e) :=
    .after fun _ => .pure hp
  dsimp only
  split
  · exact .refuse
  · refine .ite (fun _ => hkeep _ _) fun _ => ?_
    split
    · exact hkeep _ _
    · exact .after fun _ => .pure fun e he => hp.flush e (List.mem_reverse.1 he)
    · refine .ite (fun _ => hkeep _ _) fun _ => ?_
      split
      · exact .after fun _ => (yields_readInterpolation h _).bind fun piece hpiece =>
          .pure (List.forall_mem_cons.2 ⟨hpiece, hp.flush⟩)
      · exact .after fun _ => .pure hp
      · split
        · exact .after fun _ => .pure hp
        · exact .refuse

theorem yields_readString (h : g.Gives (Expr.IsReadAt .element)) (l : Lexeme) (o : Opening) :
    Yields (readString g l o) IsLiteralRead := by
  unfold readString
  refine .after fun _ => (Yields.iterate (yields_readPiece h o) g.steps ?_).bind fun pieces hpieces =>
    .after fun source => .pure ?_
  · exact fun e he => absurd he List.not_mem_nil
  · split
    · exact .inr ⟨source, pieces, rfl, hpieces⟩
    · exact .inl ⟨source, rfl⟩

theorem yields_readStrings (h : g.Gives (Expr.IsReadAt .element)) (l : Lexeme) (o : Opening) (after : Expect) :
    Yields (readStrings g l o after) (Expr.IsReadAt .element) := by
  unfold readStrings
  refine (yields_readString h l o).bind fun first hfirst => .iterate
    (I := fun parts => ∀ part ∈ parts, IsLiteralRead part) (fun parts hparts => .after fun l' => ?_) g.steps
    (List.forall_mem_singleton.2 hfirst)
  split
  · exact (yields_readString h _ _).bind fun part hpart => .pure (List.forall_mem_cons.2 ⟨hpart, hparts⟩)
  · exact .pure (isReadAt_strings fun part hpart => hparts part (List.mem_reverse.1 hpart))

theorem yields_readAtom (h : g.Gives (Expr.IsReadAt .element)) {clauses : Reader (List Expr)}
    (hclauses : GivesClauses clauses) (opening after : Expect) :
    Yields (readAtom g clauses opening after) (Expr.IsReadAt .element) := by
  unfold readAtom
  refine (yields_peek _).bind fun l hl => ?_
  split
  · next w hw => exact .after fun _ => .pure (isReadAt_wordExpr (hl.word w hw))
  · next w hw => exact .after fun _ => .pure (isReadAt_integer (hl.integer w hw))
  · next w hw => exact .after fun _ => .pure (isReadAt_float (hl.float w hw))
  · exact yields_readStrings h _ _ _
  · exact .after fun _ => .pure (isReadAt_constant (.inr rfl))
  · exact .after fun _ => yields_readRound h hclauses
  · exact .after fun _ => yields_readSquare h hclauses
  · exact .after fun _ => yields_readCurly h hclauses
  · exact .refuse

theorem yields_readPrimary (h : g.Gives (Expr.IsReadAt .element)) {clauses : Reader (List Expr)}
    (hclauses : GivesClauses clauses) (opening after : Expect) :
    Yields (readPrimary g clauses opening after) (Expr.IsReadAt .element) := by
  have htrailers {atom : Expr} (hatom : atom.IsReadAt .element) :
      Yields (iterate (readTrailer g clauses after) g.steps atom) (Expr.IsReadAt .element) :=
    .iterate (yields_readTrailer h hclauses after) g.steps hatom
  unfold readPrimary
  refine .after fun l => .ite (fun _ => ?_) fun _ => ?_
  · refine .after fun _ => .after fun inner => (yields_readAtom h hclauses _ _).bind fun atom hatom => ?_
    exact (htrailers hatom).bind fun value hvalue => .ite
      (fun _ => .pure (isReadAt_starred (by decide) (by decide) hvalue)) fun _ => .refuse
  · exact (yields_readAtom h hclauses _ _).bind fun atom hatom => htrailers hatom

/-! ### Comprehensions -/

theorem yields_readPattern (h : g.Gives (Expr.IsReadAt .element)) {clauses : Reader (List Expr)}
    (hclauses : GivesClauses clauses) :
    Yields (readPattern g clauses) fun pattern => IsTargetRead pattern ∧ IsParameterRead pattern := by
  unfold readPattern
  refine (yields_readPrimary h hclauses _ _).bind fun value hvalue => ?_
  split
  · next pattern hpattern =>
    have htarget : IsTargetRead pattern := by
      intro htarget hordinary
      obtain rfl := hvalue.isPattern pattern hpattern htarget
      exact hvalue.isRegular hordinary
    exact .pure ⟨htarget, isParameterRead_pattern hpattern htarget⟩
  · exact .refuse

theorem isTargetRead_gap (l : Lexeme) : ∀ e ∈ l.gap, IsTargetRead e := by
  intro e he htarget
  obtain ⟨source, -, rfl⟩ := List.mem_map.1 he
  cases htarget

theorem isTargetRead_tuple {items : List Expr} (h : ∀ e ∈ items, IsTargetRead e) :
    IsTargetRead (.display .round items) := by
  intro htarget hordinary
  simp only [Expr.isTarget, Bool.and_eq_true] at htarget
  have hitems : areOrdinary items = true := (Bool.and_eq_true_iff.1 hordinary).2
  have hregular : areRegular .element items = true := areRegular_iff.2 fun e he =>
    h e he (areTargets_iff.1 htarget.2 e he) (areOrdinary_iff.1 hitems e he)
  simpa [Expr.isRegular, Role.isValue] using hregular

theorem yields_readTargets (h : g.Gives (Expr.IsReadAt .element)) {clauses : Reader (List Expr)}
    (hclauses : GivesClauses clauses) : Yields (readTargets g clauses) IsTargetRead := by
  unfold readTargets
  refine (yields_readPattern h hclauses).bind fun first hfirst => .iterate
    (I := fun state => ∀ e ∈ state.1, IsTargetRead e) (fun (items, isTuple) hitems => ?_) g.steps
    (List.forall_mem_singleton.2 hfirst.1)
  have hcomma (l : Lexeme) : ∀ e ∈ items ++ l.gap, IsTargetRead e :=
    List.forall_mem_append.2 ⟨hitems, isTargetRead_gap l⟩
  refine .after fun comma => .ite (fun _ => .pure ?_) fun _ => ?_
  · cases isTuple
    · exact hfirst.1
    · exact isTargetRead_tuple hitems
  · refine .after fun _ => .after fun l => .ite (fun _ => .pure (hcomma comma)) fun _ => ?_
    exact (yields_readPattern h hclauses).bind fun item hitem => .pure
      (List.forall_mem_append.2 ⟨List.forall_mem_append.2 ⟨hcomma comma, isTargetRead_gap l⟩,
        List.forall_mem_singleton.2 hitem.1⟩)

/-- What is known of what a clause iterates over: it is one expression, or there are commas. -/
structure AreIterables (items : List Expr) : Prop where
  isReadAt : ∀ e ∈ items, e.IsReadAt .element
  alone : (∃ e, items = [e]) ∨ ∃ text, .verbatim text ∈ items

theorem AreIterables.append {items : List Expr} {item : Expr} (h : AreIterables items)
    (hitem : item.IsReadAt .element) : AreIterables (items ++ [.verbatim [','], item]) where
  isReadAt := readAs_append h.isReadAt
    (List.forall_mem_cons.2 ⟨isReadAt_verbatim .element [','], List.forall_mem_singleton.2 hitem⟩)
  alone := .inr ⟨[','], List.mem_append_right _ List.mem_cons_self⟩

theorem yields_readIterables (h : g.Gives (Expr.IsReadAt .element)) :
    Yields (readIterables g) fun read => AreIterables read.1 := by
  unfold readIterables
  refine (h.expression _ _ _).bind fun first hfirst => .iterate (I := AreIterables) (fun items hitems => ?_)
    g.steps ⟨List.forall_mem_singleton.2 hfirst, .inl ⟨first, rfl⟩⟩
  refine .after fun isMore => .ite (fun _ => .pure hitems) fun _ => .after fun l => .ite (fun _ => ?_)
    fun _ => .pure hitems
  exact (h.expression _ _ _).bind fun item hitem => .pure (hitems.append hitem)

/-- A clause behind others, or a loop in front. -/
theorem areClauses_append {clauses : List Expr} {clause : Expr}
    (h : AreClauses clauses ∨ clauses = [] ∧ clause.isLoop = true) (hclause : clause.IsReadAt .clause) :
    AreClauses (clauses ++ [clause]) := by
  rcases h with h | ⟨rfl, hloop⟩
  · refine ⟨readAs_append h.isReadAt (List.forall_mem_singleton.2 hclause), ?_⟩
    cases clauses with
    | nil => cases h.isLoop
    | cons first rest => exact h.isLoop
  · exact ⟨List.forall_mem_singleton.2 hclause, hloop⟩

theorem yields_loop (h : g.Gives (Expr.IsReadAt .element)) {inner : Reader (List Expr)}
    (hinner : GivesClauses inner) {clauses : List Expr} (hread : AreClauses clauses ∨ clauses = []) :
    Yields (do
      let isAsync ← readWord? closerNext "async"
      readWord {} "for"
      let target ← readTargets g inner
      readWord {} "in"
      let (iterables, hasComma) ← readIterables g
      return .inl (clauses ++ [.forClause isAsync target iterables hasComma]))
      (Sum.elim AreClauses AreClauses) := by
  refine .after fun isAsync => .after fun _ => (yields_readTargets h hinner).bind fun target htarget => ?_
  refine .after fun _ => (yields_readIterables h).bind fun read hiterables => .pure ?_
  exact areClauses_append (hread.imp id fun hnil => ⟨hnil, rfl⟩)
    (isReadAt_forClause htarget hiterables.isReadAt hiterables.alone)

theorem yields_readClause (h : g.Gives (Expr.IsReadAt .element)) {inner : Reader (List Expr)}
    (hinner : GivesClauses inner) (clauses : List Expr) (hread : AreClauses clauses) :
    Yields (readClause g inner clauses) (Sum.elim AreClauses AreClauses) := by
  unfold readClause
  refine .after fun l => .ite (fun _ => yields_loop h hinner (.inl hread)) fun _ => .ite (fun _ => ?_)
    fun _ => .pure hread
  refine .after fun _ => .after fun l' => (h.expression _ _ _).bind fun condition hcondition => .pure ?_
  exact areClauses_append (.inl hread) (isReadAt_ifClause hcondition)

/-- The first clause is a loop, which is next where clauses are looked for. -/
theorem givesClauses_readClauses (h : g.Gives (Expr.IsReadAt .element)) (steps : Nat) :
    GivesClauses (readClauses g steps) := by
  induction steps with
  | zero => exact fun c _ => Yields.refuse c
  | succ steps ih =>
    intro c hc
    rw [readClauses]
    have hfirst : YieldsAt c (readClause g (readClauses g steps) []) (Sum.elim AreClauses AreClauses) := by
      refine YieldsAt.peek ?_
      rw [if_pos hc]
      exact yields_loop h ih (.inr rfl) c
    cases g.steps with
    | zero => exact Yields.refuse c
    | succ n =>
      refine hfirst.bind fun found hfound => ?_
      cases found with
      | inl clauses => exact .iterate (yields_readClause h ih) n hfound
      | inr clauses => exact .pure hfound

/-! ### Operators -/

theorem yields_readSigned (h : g.Gives (Expr.IsReadAt .element)) (opening after : Expect) :
    Yields (readSigned g opening after) (Expr.IsReadAt .element) := by
  unfold readSigned
  have hprimary := yields_readPrimary h (givesClauses_readClauses h g.steps) opening after
  refine .after fun l => ?_
  split
  · next symbol _ =>
    refine .ite (fun hsign => ?_) fun _ => hprimary
    refine .after fun _ => (h.binary _ _ _).bind fun operand hoperand => .pure (isReadAt_unary ?_ hoperand)
    exact List.contains_iff_mem.2 (List.mem_map_of_mem hsign)
  · refine .ite (fun _ => ?_) fun _ => hprimary
    refine .after fun c => .after fun _ => .after fun next => ?_
    exact .ite (fun _ => .after fun _ => yields_verbatim _) fun _ => .after fun _ => hprimary
  · exact hprimary

theorem mem_arithmetic {symbol : String} {strength : Nat} (h : strength? symbol = some strength) :
    symbol ∈ arithmetic := by
  by_contra hnot
  simp only [arithmetic, List.mem_cons, List.not_mem_nil, or_false, not_or] at hnot
  simp [strength?, hnot] at h

theorem yields_readArithmetic (h : g.Gives (Expr.IsReadAt .element)) (least : Nat) (after : Expect)
    (left : Expr)
    (hleft : left.IsReadAt .element) : Yields (readArithmetic g least after left)
      (Sum.elim (Expr.IsReadAt .element) (Expr.IsReadAt .element)) := by
  unfold readArithmetic
  refine .after fun l => ?_
  split
  · next symbol _ =>
    split
    · next strength hstrength =>
      refine .ite (fun _ => .after fun _ => ?_) fun _ => .pure hleft
      refine (h.binary _ _ _).bind fun right hright => .pure (isReadAt_binary ?_ hleft hright)
      exact List.contains_iff_mem.2 (List.mem_map_of_mem (mem_arithmetic hstrength))
    · exact .pure hleft
  · exact .pure hleft

theorem yields_readBinary (h : g.Gives (Expr.IsReadAt .element)) (least : Nat) (opening after : Expect) :
    Yields (readBinary g least opening after) (Expr.IsReadAt .element) :=
  (yields_readSigned h opening after).bind fun _ hfirst =>
    .iterate (yields_readArithmetic h least after) g.steps hfirst

/-- An operator of comparison stands behind line continuations or none. -/
theorem yields_readComparison? (after : Expect) : Yields (readComparison? after) fun operator =>
    ∀ es ∈ operator, ∃ l : Lexeme, ∃ symbol, es = l.gap ++ [.operator symbol]
      ∧ ((comparisonSymbols ++ comparisonWords).map String.toList).contains symbol = true := by
  have hfound (l : Lexeme) {symbol : String} (hsymbol : symbol ∈ comparisonSymbols ++ comparisonWords) :
      ∀ es ∈ some (l.gap ++ [.operator symbol.toList]), ∃ l : Lexeme, ∃ symbol, es = l.gap ++ [.operator symbol]
        ∧ ((comparisonSymbols ++ comparisonWords).map String.toList).contains symbol = true := by
    rintro es ⟨⟩
    exact ⟨l, _, rfl, List.contains_iff_mem.2 (List.mem_map_of_mem hsymbol)⟩
  have hnone : ∀ es ∈ (none : Option (List Expr)), ∃ l : Lexeme, ∃ symbol, es = l.gap ++ [.operator symbol]
      ∧ ((comparisonSymbols ++ comparisonWords).map String.toList).contains symbol = true :=
    fun es he => by cases he
  unfold readComparison?
  refine .after fun l => ?_
  dsimp only
  split
  · exact .ite (fun hsymbol => .after fun _ => .pure (hfound l (List.mem_append_left _ hsymbol)))
      fun _ => .pure hnone
  · refine .ite (fun _ => .after fun _ => .pure (hfound l (by decide))) fun _ => ?_
    refine .ite (fun _ => .after fun _ => .after fun isNot => ?_) fun _ => ?_
    · exact .ite (fun _ => .pure (hfound l (by decide))) fun _ => .pure (hfound l (by decide))
    · exact .ite (fun _ => .after fun _ => .after fun _ => .pure (hfound l (by decide))) fun _ => .pure hnone
  · exact .pure hnone

theorem yields_readComparand (h : g.Gives (Expr.IsReadAt .element)) (after : Expect) (parts : List Expr)
    (hparts : AreChained parts) :
    Yields (readComparand g after parts) (Sum.elim AreChained (Expr.IsReadAt .element)) := by
  unfold readComparand
  refine (yields_readComparison? after).bind fun operator hoperator => ?_
  split
  · split
    · exact .pure (hparts.alone _ rfl)
    · next hlong =>
      refine .pure (isReadAt_comparison hparts (hparts.length.resolve_left fun hone => ?_))
      obtain ⟨e, he⟩ := List.length_eq_one_iff.1 hone
      exact hlong e he
  · next operator =>
    obtain ⟨l, symbol, rfl, hsymbol⟩ := hoperator _ rfl
    refine .after fun l' => (h.binary _ _ _).bind fun right hright => .pure ?_
    exact hparts.append hsymbol hright

theorem yields_readComparisons (h : g.Gives (Expr.IsReadAt .element)) (opening after : Expect) :
    Yields (readComparisons g opening after) (Expr.IsReadAt .element) :=
  (h.binary _ _ _).bind fun _ hfirst => .iterate (yields_readComparand h after) g.steps (.single hfirst)

/-! ### Anonymous functions -/

theorem yields_readLambdaParameter (h : g.Gives (Expr.IsReadAt .element)) :
    Yields (readLambdaParameter g) IsParameterRead := by
  have hpattern := yields_readPattern h (givesClauses_readClauses h g.steps)
  unfold readLambdaParameter
  extract_lets pattern defaulted
  have hdefaulted {name : Expr} (hname : IsParameterRead name) : Yields (defaulted name) IsParameterRead := by
    refine .after fun hasDefault => .ite (fun _ => ?_) fun _ => .pure hname
    exact (h.expression _ _ _).bind fun value hvalue => .pure (isParameterRead_defaulted hname hvalue)
  refine (yields_peek _).bind fun l hl => ?_
  split
  · next w hw => exact .after fun _ => hdefaulted (isParameterRead_name (hl.word w hw))
  · exact .after fun _ => .pure (isParameterRead_mark (by decide))
  · exact hpattern.bind fun pattern hpattern => hdefaulted hpattern.2
  · next symbol _ _ =>
    refine .ite (fun hstars => .after fun _ => .after fun inner => ?_) fun _ => .refuse
    split
    · refine hpattern.bind fun value hvalue => .pure (isParameterRead_starred ?_ hvalue.1)
      exact List.contains_iff_mem.2 (List.mem_map_of_mem hstars)
    · exact .ite (fun _ => .pure (isParameterRead_mark (by decide))) fun _ => .refuse
  · exact .refuse

theorem yields_readLambda (h : g.Gives (Expr.IsReadAt .element)) (l : Lexeme) (level : Nat) (after : Expect) :
    Yields (readLambda g l level after) (Expr.IsReadAt .element) := by
  have hparameters (parameters : List Expr) (hread : ∀ e ∈ parameters, IsParameterRead e) :
      Yields (readLambdaParameters g parameters)
        (Sum.elim (fun parameters => ∀ e ∈ parameters, IsParameterRead e)
        fun parameters => ∀ e ∈ parameters, IsParameterRead e) := by
    unfold readLambdaParameters
    refine .after fun l => .ite (fun _ => .pure hread) fun _ => ?_
    refine (yields_readLambdaParameter h).bind fun parameter hparameter => .after fun comma => ?_
    have hnext : ∀ e ∈ (if parameters.isEmpty then [parameter] else parameters ++ l.gap ++ [parameter]),
        IsParameterRead e := by
      split
      · exact List.forall_mem_singleton.2 hparameter
      · exact List.forall_mem_append.2 ⟨List.forall_mem_append.2 ⟨hread, isParameterRead_gap l⟩,
          List.forall_mem_singleton.2 hparameter⟩
    exact .ite (fun _ => .after fun _ =>
      .pure (List.forall_mem_append.2 ⟨hnext, isParameterRead_gap comma⟩)) fun _ => .pure hnext
  unfold readLambda
  refine .after fun _ => (Yields.iterate hparameters g.steps fun e he => absurd he List.not_mem_nil).bind
    fun parameters hread => .after fun _ => ?_
  exact (h.expression _ _ _).bind fun body hbody => .pure (isReadAt_lambda hread hbody)

/-! ### Expressions -/

theorem yields_readOperand (h : g.Gives (Expr.IsReadAt .element)) (level : Nat) (opening after : Expect) :
    Yields (readOperand g level opening after) (Expr.IsReadAt .element) := by
  have hnamed (l : Lexeme) : Yields (readNamed? g l after) fun named => ∀ e ∈ named, e.IsReadAt .element := by
    unfold readNamed?
    split
    · refine .after fun c => .after fun _ => .after fun isNamed => .ite (fun _ => ?_) fun _ => ?_
      · exact .after fun _ => (yields_verbatim _).bind fun named hnamed => .pure fun e he => by
          cases he
          exact hnamed
      · exact .after fun _ => .pure fun e he => by cases he
    · exact .pure fun e he => by cases he
  unfold readOperand
  refine .after fun l => .ite (fun _ => yields_readLambda h l level after) fun _ =>
    .ite (fun _ => ?_) fun _ => ?_
  · exact .after fun _ => (h.expression _ _ _).bind fun operand hoperand => .pure (isReadAt_negation hoperand)
  · refine (hnamed l).bind fun named hnamed => ?_
    split
    · exact .pure (hnamed _ rfl)
    · exact yields_readComparisons h _ _

theorem yields_readWordOperator (h : g.Gives (Expr.IsReadAt .element)) (level : Nat) (after : Expect)
    (start : Text) (left : Expr) (hleft : left.IsReadAt .element) :
    Yields (readWordOperator g level after start left)
      (Sum.elim (Expr.IsReadAt .element) (Expr.IsReadAt .element)) := by
  unfold readWordOperator
  refine .after fun l => .ite (fun _ => ?_) fun _ => .ite (fun _ => ?_) fun _ => .ite (fun _ => ?_) fun _ =>
    .ite (fun _ => ?_) fun _ => .pure hleft
  · exact .after fun _ => (h.expression _ _ _).bind fun right hright =>
      .pure (isReadAt_boolean (by decide) hleft hright)
  · exact .after fun _ => (h.expression _ _ _).bind fun right hright =>
      .pure (isReadAt_boolean (by decide) hleft hright)
  · exact .after fun _ => .after fun _ => (yields_verbatim start).bind fun e he => .pure he
  · refine .after fun _ => .after fun behindIf => (h.expression _ _ _).bind fun test htest => ?_
    refine .after fun wordElse => .after fun _ => .after fun behindElse => ?_
    exact (h.expression _ _ _).bind fun orelse horelse => .after fun source =>
      .pure (isReadAt_conditional hleft htest horelse)

theorem yields_readExpression (h : g.Gives (Expr.IsReadAt .element)) (level : Nat) (opening after : Expect) :
    Yields (readExpression g level opening after) (Expr.IsReadAt .element) := by
  unfold readExpression
  exact .after fun l => (yields_readOperand h level opening after).bind fun _ hfirst =>
    .iterate (yields_readWordOperator h level after _) g.steps hfirst

end Testbook.Python.Accepted
