import Testbook.Proofs.Python.Regular
import Testbook.Proofs.Python.Yields

/-!
Ordinary expressions: those without a part of a form that their normal form does not keep, or that is
kept as it was written (`Expr.isOdd`). Of an expression that is read somewhere, nothing else has to be
known for it to be regular there (`Expr.IsReadAt`); that is shown for each kind of expression from its
parts.
-/

namespace Testbook.Python

open Testbook.Text

/-! ### Forms that are left out -/

/-- Whether an expression has stars in front. -/
def Expr.isStarred : Expr → Bool
  | .starred .. => true
  | _ => false

/-- Whether a subscript is a slice. -/
def Expr.isSlice : Expr → Bool
  | .slice .. => true
  | _ => false

/-- Whether a part of an anonymous function is a name, with a default or stars or without, or a mark
between such. -/
def Expr.isParameter : Expr → Bool
  | .name _ | .constant _ | .defaulted (.name _) _ | .starred _ [.name _] => true
  | _ => false

/-- Whether a piece of a literal is written with the braces that it stands for, if it is a text. -/
def Expr.isPlainPiece (raw : Bool) : Expr → Bool
  | .chunk source => isPlainChunk raw source
  | _ => true

/-- The parts of an expression where an operand is expected. -/
def Expr.operands : Expr → List Expr
  | .interpolation value _ _ _ => [value]
  | .attribute object _ => [object]
  | .call function _ => [function]
  | .keyword _ value | .defaulted _ value => [value]
  | .starred _ parts | .paren parts | .ifClause parts | .conditional _ parts | .comparison parts => parts
  | .pair key value => [key, value]
  | .forClause _ target source _ => target :: source
  | .unary _ operand | .negation operand => [operand]
  | .binary _ left right | .boolean _ left right => [left, right]
  | .subscript value [index] _ => [value, index]
  | .subscript value _ _ => [value]
  | .slice lower upper step => lower.toList ++ upper.toList ++ step.toList
  | .lambda _ body => [body]
  | _ => []

/-- Whether an expression has a form that is left out, apart from its operands: what is kept as it was
written, strings in backquotes, interpolated values that are shown with their text, that hold a quote or
another character that is escaped, or whose format holds braces or line breaks or begins with an equals
sign, escape sequences beside them that stand for braces side by side, a keyword as a name, an attribute
of a plain integer, a loop that is asynchronous, has a comma at its end or assigns to a single target in
parentheses, a comma behind a lone subscript, a slice beside other subscripts, and a parameter that is a
pattern. -/
def Expr.isOddForm : Expr → Bool
  | .verbatim _ => true
  | .plain source => (StringLiteral.split? source).all StringLiteral.isFormat
  | .format source pieces => (StringLiteral.split? source).all (!·.isFormat)
      || !pieces.all (Expr.isPlainPiece (isRawLiteral source))
  | .interpolation _ isShown _ spec => isShown || !spec.all isPlainSpec
  | .strings parts => !keepsValues parts
  | .name id => isKeyword id
  | .attribute object _ => object.render.all Char.isDigit
  | .forClause isAsync target _ hasComma => isAsync || hasComma || !target.isTarget
  | .subscript _ [_] hasComma => hasComma
  | .subscript _ indices _ => indices.any Expr.isSlice
  | .lambda parameters _ => !parameters.all Expr.isParameter
  | _ => false

/-- Whether an expression is left out: for its form, or for stars in front of an operand. -/
def Expr.isOdd (e : Expr) : Bool := e.isOddForm || e.operands.any Expr.isStarred

mutual

/-- Whether an expression and all its parts are of other forms. -/
def Expr.isOrdinary (e : Expr) : Bool :=
  !e.isOdd && match e with
    | .interpolation value _ _ _ => value.isOrdinary
    | .format _ pieces => areOrdinary pieces
    | .strings parts => areOrdinary parts
    | .attribute object _ => object.isOrdinary
    | .call function arguments => function.isOrdinary && areOrdinary arguments
    | .keyword _ value => value.isOrdinary
    | .starred _ parts => areOrdinary parts
    | .paren parts => areOrdinary parts
    | .display _ items => areOrdinary items
    | .pair key value => key.isOrdinary && value.isOrdinary
    | .comprehension _ body clauses => body.isOrdinary && areOrdinary clauses
    | .forClause _ target source _ => target.isOrdinary && areOrdinary source
    | .ifClause parts => areOrdinary parts
    | .conditional _ parts => areOrdinary parts
    | .unary _ operand => operand.isOrdinary
    | .negation operand => operand.isOrdinary
    | .binary _ left right => left.isOrdinary && right.isOrdinary
    | .boolean _ left right => left.isOrdinary && right.isOrdinary
    | .comparison parts => areOrdinary parts
    | .subscript value indices _ => value.isOrdinary && areOrdinary indices
    | .slice lower upper step => isOrdinaryBound lower && isOrdinaryBound upper && isOrdinaryBound step
    | .lambda parameters body => areOrdinary parameters && body.isOrdinary
    | .defaulted name value => name.isOrdinary && value.isOrdinary
    | _ => true
termination_by structural e

/-- Whether each of several expressions is ordinary. -/
def areOrdinary : List Expr → Bool
  | [] => true
  | e :: es => e.isOrdinary && areOrdinary es

/-- Whether a bound of a slice is ordinary, if there is one. -/
def isOrdinaryBound : Option Expr → Bool
  | none => true
  | some e => e.isOrdinary

end

variable {role : Role} {e part : Expr} {es : List Expr}

theorem areOrdinary_iff : areOrdinary es = true ↔ ∀ e ∈ es, e.isOrdinary = true := by
  induction es with
  | nil => simp [areOrdinary]
  | cons e es ih => simp [areOrdinary, ih]

theorem areRegular_iff : areRegular role es = true ↔ ∀ e ∈ es, e.isRegular role = true := by
  induction es with
  | nil => simp [areRegular]
  | cons e es ih => simp [areRegular, ih]

theorem areTargets_iff : areTargets es = true ↔ ∀ e ∈ es, e.isTarget = true := by
  induction es with
  | nil => simp [areTargets]
  | cons e es ih => simp [areTargets, ih]

theorem isOdd_of_isOrdinary (h : e.isOrdinary = true) : e.isOdd = false := by
  have hodd : (!e.isOdd) = true := by
    cases e <;> exact (Bool.and_eq_true_iff.1 h).1
  rwa [Bool.not_eq_true'] at hodd

theorem isOddForm_of_isOrdinary (h : e.isOrdinary = true) : e.isOddForm = false :=
  (Bool.or_eq_false_iff.1 (isOdd_of_isOrdinary h)).1

/-- No operand of an ordinary expression has stars in front. -/
theorem isStarred_of_isOrdinary (h : e.isOrdinary = true) (hpart : part ∈ e.operands) :
    part.isStarred = false :=
  Bool.eq_false_iff.2 (List.any_eq_false.1 (Bool.or_eq_false_iff.1 (isOdd_of_isOrdinary h)).2 part hpart)

/-- An element may stand wherever a value may, with a star in front where one may stand. -/
theorem isRegular_of_element (hrole : role.isValue = true) (h : e.isRegular .element = true)
    (hstar : e.isStarred = true → "*" ∈ role.stars) : e.isRegular role = true := by
  have hparameter : role ≠ .parameter := by
    rintro rfl
    cases hrole
  have hvalue : Role.element.isValue = true := rfl
  cases e with
  | starred stars parts =>
    simp only [Expr.isRegular, Bool.and_eq_true] at h ⊢
    have hstars : stars = ['*'] := by simpa [Role.stars] using h.1.1.1
    refine ⟨⟨⟨?_, h.1.1.2⟩, h.1.2⟩, by simp [hparameter]⟩
    rw [hstars, List.contains_iff_mem]
    exact List.mem_map_of_mem (hstar rfl)
  | display brackets items => cases brackets <;> simpa [Expr.isRegular, hrole, hvalue] using h
  | plain | format | chunk | interpolation | keyword | pair | forClause | ifClause | operator | slice
  | defaulted | verbatim => simp [Expr.isRegular] at h
  | _ => simpa [Expr.isRegular, hrole, hvalue, hparameter] using h

/-! ### Expressions that are read -/

/-- What is known of an expression that is read at a place: it is regular there if it is ordinary, and as
a pattern it stays what it is where a loop may assign to it. -/
structure Expr.IsReadAt (role : Role) (e : Expr) : Prop where
  isRegular : e.isOrdinary = true → e.isRegular role = true
  isPattern : ∀ p, asPattern? e = some p → p.isTarget = true → p = e

theorem Expr.IsReadAt.operand (h : e.IsReadAt .element) (hordinary : e.isOrdinary = true)
    (hstarred : e.isStarred = false) : e.isRegular .operand = true :=
  isRegular_of_element rfl (h.isRegular hordinary) fun hstar => by
    rw [hstarred] at hstar
    cases hstar

/-- What is read as an element may stand for an argument or an entry. -/
theorem Expr.IsReadAt.of_element (hrole : role.isValue = true) (hstar : "*" ∈ role.stars)
    (h : e.IsReadAt .element) : e.IsReadAt role :=
  ⟨fun hordinary => isRegular_of_element hrole (h.isRegular hordinary) fun _ => hstar, h.isPattern⟩

/-- An argument behind which clauses may stand is one that may stand for an element. -/
theorem Expr.IsReadAt.of_argument (h : e.IsReadAt .argument) (hbody : isBody e = true) :
    e.IsReadAt .element := by
  refine ⟨fun hordinary => ?_, h.isPattern⟩
  have hargument := h.isRegular hordinary
  cases e with
  | keyword => cases hbody
  | starred stars parts =>
    have hstars : stars = ['*'] := by
      simp only [isBody, Bool.and_eq_true, decide_eq_true_eq] at hbody
      exact hbody.1
    simp only [Expr.isRegular, Bool.and_eq_true] at hargument ⊢
    exact ⟨⟨⟨by rw [hstars]; decide, hargument.1.1.2⟩, hargument.1.2⟩, rfl⟩
  | display brackets items => cases brackets <;> simpa [Expr.isRegular, Role.isValue] using hargument
  | plain | format | chunk | interpolation | pair | forClause | ifClause | operator | slice | defaulted
  | verbatim => simp [Expr.isRegular] at hargument
  | _ => simpa [Expr.isRegular, Role.isValue] using hargument

theorem isReadAt_verbatim (role : Role) (source : Text) : (Expr.verbatim source).IsReadAt role where
  isRegular h := by cases h
  isPattern p hp _ := by
    rw [asPattern?] at hp
    split at hp
    · exact (Option.some.inj hp).symm
    · cases hp

theorem isReadAt_gap (role : Role) (l : Lexeme) : ∀ e ∈ l.gap, e.IsReadAt role := by
  intro e he
  obtain ⟨source, -, rfl⟩ := List.mem_map.1 he
  exact isReadAt_verbatim role source

/-! ### Names, literals and what stands behind them -/

theorem isReadAt_name {id : Text} (h : isIdentifier id = true) (hconstant : isConstant id = false) :
    (Expr.name id).IsReadAt .element where
  isRegular hordinary := by
    have hkey : isKeyword id = false := isOddForm_of_isOrdinary hordinary
    simp [Expr.isRegular, Role.isValue, isPlainName, h, hkey, hconstant]
  isPattern p hp _ := (Option.some.inj hp).symm

theorem isReadAt_constant {word : Text} (h : isConstant word = true ∨ word = "...".toList) :
    (Expr.constant word).IsReadAt .element where
  isRegular _ := by simpa [Expr.isRegular, Role.isValue] using h
  isPattern p hp _ := by cases hp

theorem isReadAt_integer {literal : Text} (h : isInteger literal = true) :
    (Expr.integer literal).IsReadAt .element where
  isRegular _ := by simpa [Expr.isRegular, Role.isValue] using h
  isPattern p hp _ := by cases hp

theorem isReadAt_float {literal : Text} (h : isFloat literal = true) :
    (Expr.float literal).IsReadAt .element where
  isRegular _ := by simpa [Expr.isRegular, Role.isValue] using h
  isPattern p hp _ := by cases hp

/-- What is known of a piece of a literal: it is a text or an interpolated value. -/
def IsPieceRead (e : Expr) : Prop :=
  (∃ source, e = .chunk source) ∨ ∃ value isShown conversion spec,
    e = .interpolation value isShown conversion spec ∧ value.IsReadAt .element ∧ isConversion conversion = true

/-- What is known of a literal in a row: it is one with interpolations or without. -/
def IsLiteralRead (e : Expr) : Prop :=
  (∃ source, e = .plain source)
    ∨ ∃ source pieces, e = .format source pieces ∧ ∀ piece ∈ pieces, IsPieceRead piece

theorem areRegularPieces_of_areOrdinary {raw : Bool} {pieces : List Expr} (h : ∀ e ∈ pieces, IsPieceRead e)
    (hordinary : areOrdinary pieces = true) (hplain : pieces.all (Expr.isPlainPiece raw) = true) :
    areRegularPieces raw pieces = true := by
  induction pieces with
  | nil => rfl
  | cons e es ih =>
    rw [areOrdinary, Bool.and_eq_true] at hordinary
    rw [List.all_cons, Bool.and_eq_true] at hplain
    have hes := ih (fun e he => h e (List.mem_cons_of_mem _ he)) hordinary.2 hplain.2
    rcases h e List.mem_cons_self with
      ⟨source, rfl⟩ | ⟨value, isShown, conversion, spec, rfl, hvalue, hconversion⟩
    · exact Bool.and_eq_true_iff.2 ⟨hplain.1, hes⟩
    · have hform : (isShown || !spec.all isPlainSpec) = false := isOddForm_of_isOrdinary hordinary.1
      simp only [Bool.or_eq_false_iff, Bool.not_eq_false'] at hform
      have hvalue := hvalue.operand (Bool.and_eq_true_iff.1 hordinary.1).2
        (isStarred_of_isOrdinary hordinary.1 List.mem_cons_self)
      refine Bool.and_eq_true_iff.2 ⟨?_, hes⟩
      simp [Expr.isRegular, hvalue, hform, hconversion]

theorem areRegularParts_of_areOrdinary {parts : List Expr} (h : ∀ e ∈ parts, IsLiteralRead e)
    (hordinary : areOrdinary parts = true) : areRegularParts parts = true := by
  induction parts with
  | nil => rfl
  | cons e es ih =>
    rw [areOrdinary, Bool.and_eq_true] at hordinary
    have hes := ih (fun e he => h e (List.mem_cons_of_mem _ he)) hordinary.2
    have hform := isOddForm_of_isOrdinary hordinary.1
    rcases h e List.mem_cons_self with ⟨source, rfl⟩ | ⟨source, pieces, rfl, hpieces⟩
    · rw [areRegularParts, hes, Bool.and_true]
      cases hliteral : StringLiteral.split? source <;> simp_all [Expr.isOddForm]
    · simp only [Expr.isOddForm, Bool.or_eq_false_iff, Bool.not_eq_false'] at hform
      have hregular := areRegularPieces_of_areOrdinary hpieces (Bool.and_eq_true_iff.1 hordinary.1).2 hform.2
      rw [areRegularParts, hregular, hes, Bool.and_true, Bool.and_true]
      cases hliteral : StringLiteral.split? source <;> simp_all

theorem isReadAt_strings {parts : List Expr} (h : ∀ e ∈ parts, IsLiteralRead e) :
    (Expr.strings parts).IsReadAt .element where
  isRegular hordinary := by
    have hparts := areRegularParts_of_areOrdinary h (Bool.and_eq_true_iff.1 hordinary).2
    have hkept : (!keepsValues parts) = false := isOddForm_of_isOrdinary hordinary
    rw [Bool.not_eq_false'] at hkept
    rw [Expr.isRegular, hparts, hkept]
    rfl
  isPattern p hp _ := by cases hp

theorem isReadAt_attribute {object : Expr} {word : Text} (h : object.IsReadAt .element)
    (hword : isIdentifier word = true) : (Expr.attribute object word).IsReadAt .element where
  isRegular hordinary := by
    have hdigits : object.render.all Char.isDigit = false := isOddForm_of_isOrdinary hordinary
    have hobject := h.operand (Bool.and_eq_true_iff.1 hordinary).2
      (isStarred_of_isOrdinary hordinary List.mem_cons_self)
    simp [Expr.isRegular, Role.isValue, hobject, hdigits, hword]
  isPattern p hp _ := (Option.some.inj hp).symm

theorem areRegular_of_areOrdinary (h : ∀ e ∈ es, e.IsReadAt role) (hordinary : areOrdinary es = true) :
    areRegular role es = true :=
  areRegular_iff.2 fun e he => (h e he).isRegular (areOrdinary_iff.1 hordinary e he)

theorem isReadAt_call {function : Expr} {arguments : List Expr} (h : function.IsReadAt .element)
    (harguments : ∀ e ∈ arguments, e.IsReadAt .argument) :
    (Expr.call function arguments).IsReadAt .element where
  isRegular hordinary := by
    have hparts := Bool.and_eq_true_iff.1 (Bool.and_eq_true_iff.1 hordinary).2
    have hfunction := h.operand hparts.1 (isStarred_of_isOrdinary hordinary List.mem_cons_self)
    have hregular := areRegular_of_areOrdinary harguments hparts.2
    simp [Expr.isRegular, Role.isValue, hfunction, hregular]
  isPattern p hp _ := by cases hp

theorem isReadAt_keyword {word : Text} {value : Expr} (hword : isIdentifier word = true)
    (hreserved : isReservedOperand word = false) (h : value.IsReadAt .element) :
    (Expr.keyword word value).IsReadAt .argument where
  isRegular hordinary := by
    have hvalue := h.operand (Bool.and_eq_true_iff.1 hordinary).2
      (isStarred_of_isOrdinary hordinary List.mem_cons_self)
    simp [Expr.isRegular, hword, hreserved, hvalue]
  isPattern p hp _ := by cases hp

/-! ### Parts with line continuations in front -/

theorem areOrdinary_append (es es' : List Expr) :
    areOrdinary (es ++ es') = (areOrdinary es && areOrdinary es') := by
  induction es with
  | nil => rfl
  | cons e es ih => rw [List.cons_append, areOrdinary, areOrdinary, ih, Bool.and_assoc]

/-- Where expressions with line continuations between them are ordinary, there are none. -/
theorem gap_eq_nil {l : Lexeme} (h : areOrdinary l.gap = true) : l.gap = [] := by
  cases hgap : l.gap with
  | nil => rfl
  | cons mark rest =>
    have hmark : mark ∈ l.gap := hgap ▸ List.mem_cons_self
    obtain ⟨source, -, hsource⟩ := List.mem_map.1 hmark
    have hordinary := areOrdinary_iff.1 h mark hmark
    rw [← hsource] at hordinary
    cases hordinary

theorem gap_eq_nil_of_append {l : Lexeme} (h : areOrdinary (l.gap ++ es) = true) : l.gap = [] := by
  rw [areOrdinary_append, Bool.and_eq_true] at h
  exact gap_eq_nil h.1

/-- Regular operands of a node, given that it is ordinary. -/
theorem areRegular_operands (h : ∀ e ∈ es, e.IsReadAt .element) (hordinary : areOrdinary es = true)
    (hnode : e.isOrdinary = true) (hsubset : es ⊆ e.operands) : areRegular .operand es = true :=
  areRegular_iff.2 fun part hpart => (h part hpart).operand (areOrdinary_iff.1 hordinary part hpart)
    (isStarred_of_isOrdinary hnode (hsubset hpart))

theorem isReadAt_starred {stars : Text} {value : Expr} {l : Lexeme} (hparameter : role ≠ .parameter)
    (hstars : (role.stars.map String.toList).contains stars = true) (h : value.IsReadAt .element) :
    (Expr.starred stars (l.gap ++ [value])).IsReadAt role where
  isRegular hordinary := by
    have hparts : areOrdinary (l.gap ++ [value]) = true := (Bool.and_eq_true_iff.1 hordinary).2
    have hgap : l.gap = [] := gap_eq_nil_of_append hparts
    rw [hgap, List.nil_append] at hordinary hparts ⊢
    have hregular := areRegular_operands (List.forall_mem_singleton.2 h) hparts hordinary (List.Subset.refl _)
    rw [Expr.isRegular, hstars, hregular]
    simp [hparameter]
  isPattern p hp _ := by
    rw [asPattern?] at hp
    split at hp
    · exact (Option.some.inj hp).symm
    · cases hp

/-! ### Brackets -/

/-- Patterns that a loop may assign to are the expressions that they were read as. -/
theorem asPatterns?_eq {ps : List Expr} (h : ∀ e ∈ es, e.IsReadAt role)
    (hps : asPattern?.asPatterns? es = some ps) (htargets : areTargets ps = true) : ps = es := by
  induction es generalizing ps with
  | nil =>
    cases hps
    rfl
  | cons e es ih =>
    simp only [asPattern?.asPatterns?, Option.bind_eq_bind, Option.bind_eq_some_iff] at hps
    obtain ⟨p, hp, qs, hqs, hcons⟩ := hps
    cases hcons
    rw [areTargets, Bool.and_eq_true] at htargets
    rw [(h e List.mem_cons_self).isPattern p hp htargets.1,
      ih (fun e he => h e (List.mem_cons_of_mem _ he)) hqs htargets.2]

theorem isReadAt_paren {parts : List Expr} (h : ∀ e ∈ parts, e.IsReadAt .element)
    (halone : (∃ e, parts = [e]) ∨ ∃ source, .verbatim source ∈ parts) :
    (Expr.paren parts).IsReadAt .element where
  isRegular hordinary := by
    have hparts : areOrdinary parts = true := (Bool.and_eq_true_iff.1 hordinary).2
    have hregular := areRegular_operands h hparts hordinary (List.Subset.refl _)
    have hlength : parts.length = 1 := by
      rcases halone with ⟨e, rfl⟩ | ⟨source, hsource⟩
      · rfl
      · have := areOrdinary_iff.1 hparts _ hsource
        cases this
    simp [Expr.isRegular, Role.isValue, hlength, hregular]
  isPattern p hp htarget := by
    simp only [asPattern?, Option.map_eq_some_iff] at hp
    obtain ⟨ps, hps, rfl⟩ := hp
    simp only [Expr.isTarget, Bool.and_eq_true, bne_iff_ne] at htarget
    obtain rfl := asPatterns?_eq h hps htarget.2
    rcases halone with ⟨e, rfl⟩ | ⟨source, hsource⟩
    · exact absurd rfl htarget.1
    · have := areTargets_iff.1 htarget.2 _ hsource
      cases this

theorem isReadAt_display {brackets : Brackets} {items : List Expr} (hbrackets : brackets ≠ .curly)
    (h : ∀ e ∈ items, e.IsReadAt .element) : (Expr.display brackets items).IsReadAt .element where
  isRegular hordinary := by
    have hregular := areRegular_of_areOrdinary h (Bool.and_eq_true_iff.1 hordinary).2
    cases brackets with
    | curly => exact absurd rfl hbrackets
    | _ => simpa [Expr.isRegular, Role.isValue] using hregular
  isPattern p hp htarget := by
    cases brackets with
    | curly => exact absurd rfl hbrackets
    | round =>
      simp only [asPattern?, Option.map_eq_some_iff] at hp
      obtain ⟨ps, hps, rfl⟩ := hp
      simp only [Expr.isTarget, Bool.and_eq_true] at htarget
      rw [asPatterns?_eq h hps htarget.2]
    | square =>
      simp only [asPattern?, Option.map_eq_some_iff] at hp
      obtain ⟨ps, hps, rfl⟩ := hp
      rw [asPatterns?_eq h hps htarget]

theorem isReadAt_braces {items : List Expr} (h : ∀ e ∈ items, e.IsReadAt .entry)
    (hentries : (items.filter (!isGap ·)).all isEntry = true ∨ (items.filter (!isGap ·)).any isEntry = false) :
    (Expr.display .curly items).IsReadAt .element where
  isRegular hordinary := by
    have hitems : areOrdinary items = true := (Bool.and_eq_true_iff.1 hordinary).2
    have hregular := areRegular_of_areOrdinary h hitems
    have hfilter : items.filter (!isGap ·) = items := by
      refine List.filter_eq_self.2 fun e he => ?_
      have hordinary := areOrdinary_iff.1 hitems e he
      cases e with
      | verbatim source => cases hordinary
      | _ => rfl
    rw [hfilter] at hentries
    have hentries' : (items.all isEntry || !items.any isEntry) = true := by
      rcases hentries with hall | hnone
      · rw [hall, Bool.true_or]
      · rw [hnone, Bool.not_false, Bool.or_true]
    rw [Expr.isRegular, hregular, hentries']
    rfl
  isPattern p hp _ := by cases hp

theorem isReadAt_pair {key value : Expr} (hkey : key.IsReadAt .element) (hvalue : value.IsReadAt .element) :
    (Expr.pair key value).IsReadAt .entry where
  isRegular hordinary := by
    have hparts := Bool.and_eq_true_iff.1 (Bool.and_eq_true_iff.1 hordinary).2
    have hkey' := hkey.operand hparts.1 (isStarred_of_isOrdinary hordinary List.mem_cons_self)
    have hvalue' := hvalue.operand hparts.2
      (isStarred_of_isOrdinary hordinary (List.mem_cons_of_mem _ List.mem_cons_self))
    simp [Expr.isRegular, hkey', hvalue']
  isPattern p hp _ := by cases hp

/-! ### Comprehensions -/

/-- What is known of the clauses of a comprehension. -/
structure AreClauses (clauses : List Expr) : Prop where
  isReadAt : ∀ e ∈ clauses, e.IsReadAt .clause
  isLoop : clauses.head?.any Expr.isLoop = true

theorem isReadAt_comprehension {brackets : Brackets} {body : Expr} {clauses : List Expr}
    (h : body.IsReadAt (if brackets = .curly then .entry else .element)) (hbody : isBody body = true)
    (hclauses : AreClauses clauses) : (Expr.comprehension brackets body clauses).IsReadAt .element where
  isRegular hordinary := by
    have hparts := Bool.and_eq_true_iff.1 (Bool.and_eq_true_iff.1 hordinary).2
    have hregular := areRegular_of_areOrdinary hclauses.isReadAt hparts.2
    rw [Expr.isRegular, h.isRegular hparts.1, hbody, hclauses.isLoop, hregular]
    rfl
  isPattern p hp _ := by cases hp

/-- What is known of a pattern: where a loop may assign to it, it is regular unless it is odd. -/
def IsTargetRead (e : Expr) : Prop :=
  e.isTarget = true → e.isOrdinary = true → e.isRegular .element = true

theorem isReadAt_forClause {isAsync hasComma : Bool} {target : Expr} {source : List Expr}
    (htarget : IsTargetRead target)
    (h : ∀ e ∈ source, e.IsReadAt .element) (halone : (∃ e, source = [e]) ∨ ∃ text, .verbatim text ∈ source) :
    (Expr.forClause isAsync target source hasComma).IsReadAt .clause where
  isRegular hordinary := by
    have hparts := Bool.and_eq_true_iff.1 (Bool.and_eq_true_iff.1 hordinary).2
    have hform : (isAsync || hasComma || !target.isTarget) = false := isOddForm_of_isOrdinary hordinary
    simp only [Bool.or_eq_false_iff, Bool.not_eq_false'] at hform
    obtain ⟨⟨hasync, hcomma⟩, hassigned⟩ := hform
    have hregular := areRegular_operands h hparts.2 hordinary (List.subset_cons_self _ _)
    have hoperand : target.isRegular .operand = true := by
      have hstarred := isStarred_of_isOrdinary hordinary (List.mem_cons_self (l := source))
      refine isRegular_of_element rfl (htarget hassigned hparts.1) fun hstar => ?_
      rw [hstarred] at hstar
      cases hstar
    have hlength : source.length = 1 := by
      rcases halone with ⟨e, rfl⟩ | ⟨text, htext⟩
      · rfl
      · have := areOrdinary_iff.1 hparts.2 _ htext
        cases this
    simp [Expr.isRegular, hasync, hcomma, hassigned, hoperand, hlength, hregular]
  isPattern p hp _ := by cases hp

theorem isReadAt_ifClause {l : Lexeme} {condition : Expr} (h : condition.IsReadAt .element) :
    (Expr.ifClause (l.gap ++ [condition])).IsReadAt .clause where
  isRegular hordinary := by
    have hparts : areOrdinary (l.gap ++ [condition]) = true := (Bool.and_eq_true_iff.1 hordinary).2
    have hgap : l.gap = [] := gap_eq_nil_of_append hparts
    rw [hgap, List.nil_append] at hordinary hparts ⊢
    have hregular := areRegular_operands (List.forall_mem_singleton.2 h) hparts hordinary (List.Subset.refl _)
    simp [Expr.isRegular, hregular]
  isPattern p hp _ := by cases hp

/-! ### Operators -/

theorem isReadAt_unary {operator : Text} {operand : Expr}
    (hoperator : (signs.map String.toList).contains operator = true) (h : operand.IsReadAt .element) :
    (Expr.unary operator operand).IsReadAt .element where
  isRegular hordinary := by
    have hoperand := h.operand (Bool.and_eq_true_iff.1 hordinary).2
      (isStarred_of_isOrdinary hordinary List.mem_cons_self)
    rw [Expr.isRegular, hoperator, hoperand]
    rfl
  isPattern p hp _ := by cases hp

theorem isReadAt_negation {operand : Expr} (h : operand.IsReadAt .element) :
    (Expr.negation operand).IsReadAt .element where
  isRegular hordinary := by
    have hoperand := h.operand (Bool.and_eq_true_iff.1 hordinary).2
      (isStarred_of_isOrdinary hordinary List.mem_cons_self)
    rw [Expr.isRegular, hoperand]
    rfl
  isPattern p hp _ := by cases hp

theorem isReadAt_binary {operator : Text} {left right : Expr}
    (hoperator : (arithmetic.map String.toList).contains operator = true) (hleft : left.IsReadAt .element)
    (hright : right.IsReadAt .element) : (Expr.binary operator left right).IsReadAt .element where
  isRegular hordinary := by
    have hparts := Bool.and_eq_true_iff.1 (Bool.and_eq_true_iff.1 hordinary).2
    have hleft' := hleft.operand hparts.1 (isStarred_of_isOrdinary hordinary List.mem_cons_self)
    have hright' := hright.operand hparts.2
      (isStarred_of_isOrdinary hordinary (List.mem_cons_of_mem _ List.mem_cons_self))
    rw [Expr.isRegular, hoperator, hleft', hright']
    rfl
  isPattern p hp _ := by cases hp

theorem isReadAt_boolean {operator : Text} {left right : Expr}
    (hoperator : (["or", "and"].map String.toList).contains operator = true) (hleft : left.IsReadAt .element)
    (hright : right.IsReadAt .element) : (Expr.boolean operator left right).IsReadAt .element where
  isRegular hordinary := by
    have hparts := Bool.and_eq_true_iff.1 (Bool.and_eq_true_iff.1 hordinary).2
    have hleft' := hleft.operand hparts.1 (isStarred_of_isOrdinary hordinary List.mem_cons_self)
    have hright' := hright.operand hparts.2
      (isStarred_of_isOrdinary hordinary (List.mem_cons_of_mem _ List.mem_cons_self))
    rw [Expr.isRegular, hoperator, hleft', hright']
    rfl
  isPattern p hp _ := by cases hp

/-- A conditional expression without line continuations has three parts. -/
theorem isReadAt_conditional {source : Text} {left test orelse : Expr} {a b c d : Lexeme}
    (hleft : left.IsReadAt .element) (htest : test.IsReadAt .element) (horelse : orelse.IsReadAt .element) :
    (Expr.conditional source
      (left :: a.gap ++ b.gap ++ [test] ++ c.gap ++ d.gap ++ [orelse])).IsReadAt .element where
  isRegular hordinary := by
    have hparts : areOrdinary (left :: a.gap ++ b.gap ++ [test] ++ c.gap ++ d.gap ++ [orelse]) = true :=
      (Bool.and_eq_true_iff.1 hordinary).2
    have hgaps := hparts
    simp only [List.cons_append, areOrdinary, areOrdinary_append, Bool.and_eq_true] at hgaps
    obtain ⟨-, ⟨⟨⟨⟨ha, hb⟩, -⟩, hc⟩, hd⟩, -⟩ := hgaps
    rw [gap_eq_nil ha, gap_eq_nil hb, gap_eq_nil hc, gap_eq_nil hd] at hordinary hparts ⊢
    have heach : ∀ e ∈ [left, test, orelse], e.IsReadAt .element := by
      simpa using ⟨hleft, htest, horelse⟩
    have hregular := areRegular_operands heach hparts hordinary (List.Subset.refl _)
    simpa [Expr.isRegular, Role.isValue] using hregular
  isPattern p hp _ := by cases hp

/-! ### Comparisons -/

theorem areComparands_append {isOperatorNext : Bool} {symbol : Text} {right : Expr}
    (hsymbol : ((comparisonSymbols ++ comparisonWords).map String.toList).contains symbol = true)
    (hright : right.isRegular .operand = true) (h : areComparands isOperatorNext es = true) :
    areComparands isOperatorNext (es ++ [.operator symbol, right]) = true := by
  have hcons {e : Expr} (he : e.isRegular .operand = true) (es : List Expr) :
      areComparands false (e :: es) = areComparands true es := by
    cases e with
    | operator => simp [Expr.isRegular] at he
    | _ => simp [areComparands, he]
  induction es generalizing isOperatorNext with
  | nil =>
    obtain rfl : isOperatorNext = true := h
    have hlast : areComparands true [] = true := rfl
    rw [List.nil_append, areComparands, hsymbol, hcons hright, hlast]
    rfl
  | cons e es ih =>
    rcases areComparands_cases h with ⟨s, hs, rfl, hnext, hes⟩ | ⟨hnext, he, hes⟩
    · rw [List.cons_append, areComparands, hnext, ih hes, List.contains_iff_mem.2 hs]
      rfl
    · rw [List.cons_append, hnext, hcons he]
      exact ih hes

/-- What is known of operands with comparison operators between them. -/
structure AreChained (parts : List Expr) : Prop where
  alone : ∀ e, parts = [e] → e.IsReadAt .element
  length : parts.length = 1 ∨ 3 ≤ parts.length
  comparands : areOrdinary parts = true → (∀ e ∈ parts, e.isStarred = false) → areComparands false parts = true

theorem AreChained.single (h : e.IsReadAt .element) : AreChained [e] where
  alone e' he := by
    cases he
    exact h
  length := .inl rfl
  comparands hordinary hstarred := by
    have hregular := h.operand (areOrdinary_iff.1 hordinary e List.mem_cons_self)
      (hstarred e List.mem_cons_self)
    cases e with
    | operator => simp [Expr.isRegular] at hregular
    | _ => simp [areComparands, hregular]

theorem AreChained.append {parts : List Expr} {symbol : Text} {right : Expr} {a b : Lexeme}
    (h : AreChained parts)
    (hsymbol : ((comparisonSymbols ++ comparisonWords).map String.toList).contains symbol = true)
    (hright : right.IsReadAt .element) :
    AreChained (parts ++ (a.gap ++ [.operator symbol]) ++ b.gap ++ [right]) where
  alone e he := by
    have hlength := congrArg List.length he
    have := h.length
    simp only [List.length_append, List.length_singleton] at hlength
    omega
  length := by
    have := h.length
    simp only [List.length_append, List.length_singleton]
    omega
  comparands hordinary hstarred := by
    have hgaps := hordinary
    simp only [areOrdinary_append, Bool.and_eq_true] at hgaps
    obtain ⟨⟨⟨hparts, ha, -⟩, hb⟩, hordinaryRight⟩ := hgaps
    rw [gap_eq_nil ha, gap_eq_nil hb, List.nil_append, List.append_nil, List.append_assoc,
      List.singleton_append] at hstarred ⊢
    refine areComparands_append hsymbol ?_ (h.comparands hparts fun e he =>
      hstarred e (List.mem_append_left _ he))
    exact hright.operand (areOrdinary_iff.1 hordinaryRight right List.mem_cons_self) (hstarred right (by simp))

theorem isReadAt_comparison {parts : List Expr} (h : AreChained parts) (hlength : 3 ≤ parts.length) :
    (Expr.comparison parts).IsReadAt .element where
  isRegular hordinary := by
    have hparts : areOrdinary parts = true := (Bool.and_eq_true_iff.1 hordinary).2
    have hcomparands := h.comparands hparts fun e he => isStarred_of_isOrdinary hordinary he
    rw [Expr.isRegular, hcomparands, decide_eq_true hlength]
    rfl
  isPattern p hp _ := by cases hp

/-! ### Subscripts -/

/-- What is known of a subscript: it is a value or a slice. -/
def IsIndexRead (e : Expr) : Prop := e.IsReadAt .element ∨ e.isSlice = true ∧ e.IsReadAt .index

theorem isReadAt_slice {lower upper step : Option Expr} (hlower : ∀ e ∈ lower, e.IsReadAt .element)
    (hupper : ∀ e ∈ upper, e.IsReadAt .element) (hstep : ∀ e ∈ step, e.IsReadAt .element) :
    (Expr.slice lower upper step).IsReadAt .index where
  isRegular hordinary := by
    have hbound {bound : Option Expr} (h : ∀ e ∈ bound, e.IsReadAt .element)
        (hbound : isOrdinaryBound bound = true)
        (hstarred : ∀ e ∈ bound, e.isStarred = false) : isRegularBound bound = true := by
      cases bound with
      | none => rfl
      | some e => exact (h e rfl).operand hbound (hstarred e rfl)
    have hparts := (Bool.and_eq_true_iff.1 hordinary).2
    simp only [Bool.and_eq_true] at hparts
    have hstarred {e : Expr} (he : e ∈ (Expr.slice lower upper step).operands) :=
      isStarred_of_isOrdinary hordinary he
    simp only [Expr.operands, List.mem_append, Option.mem_toList] at hstarred
    simp [Expr.isRegular, hbound hlower hparts.1.1 fun e he => hstarred (.inl (.inl he)),
      hbound hupper hparts.1.2 fun e he => hstarred (.inl (.inr he)),
      hbound hstep hparts.2 fun e he => hstarred (.inr he)]
  isPattern p hp _ := by cases hp

theorem isReadAt_subscript {value : Expr} {indices : List Expr} {hasComma : Bool} (h : value.IsReadAt .element)
    (hne : indices ≠ []) (hindices : ∀ e ∈ indices, IsIndexRead e) :
    (Expr.subscript value indices hasComma).IsReadAt .element where
  isRegular hordinary := by
    have hparts := Bool.and_eq_true_iff.1 (Bool.and_eq_true_iff.1 hordinary).2
    match indices with
    | [] => exact absurd rfl hne
    | [index] =>
      have hcomma : hasComma = false := isOddForm_of_isOrdinary hordinary
      have hvalue := h.operand hparts.1 (isStarred_of_isOrdinary hordinary List.mem_cons_self)
      have hordinaryIndex := areOrdinary_iff.1 hparts.2 index List.mem_cons_self
      have hindex : index.isRegular .index = true := by
        rcases hindices index List.mem_cons_self with hindex | ⟨-, hindex⟩
        · refine isRegular_of_element rfl (hindex.isRegular hordinaryIndex) fun hstar => ?_
          rw [isStarred_of_isOrdinary hordinary (List.mem_cons_of_mem _ List.mem_cons_self)] at hstar
          cases hstar
        · exact hindex.isRegular hordinaryIndex
      simp [Expr.isRegular, areRegular, Role.isValue, hvalue, hcomma, hindex]
    | first :: second :: rest =>
      have hslices : (first :: second :: rest).any Expr.isSlice = false := isOddForm_of_isOrdinary hordinary
      have hvalue := h.operand hparts.1 (isStarred_of_isOrdinary hordinary List.mem_cons_self)
      have hregular : areRegular .element (first :: second :: rest) = true := by
        refine areRegular_of_areOrdinary (fun e he => (hindices e he).resolve_right fun hslice => ?_) hparts.2
        exact List.any_eq_false.1 hslices e he hslice.1
      simp [Expr.isRegular, Role.isValue, hvalue, hregular]
  isPattern p hp _ := (Option.some.inj hp).symm

/-! ### Anonymous functions -/

/-- What is known of a parameter of an anonymous function. -/
def IsParameterRead (e : Expr) : Prop :=
  e.isOrdinary = true → e.isParameter = true → e.isRegular .parameter = true

theorem isParameterRead_gap (l : Lexeme) : ∀ e ∈ l.gap, IsParameterRead e := by
  intro e he hordinary
  obtain ⟨source, -, rfl⟩ := List.mem_map.1 he
  cases hordinary

theorem isParameterRead_name {id : Text} (h : isIdentifier id = true) : IsParameterRead (.name id) :=
  fun _ _ => by simp [Expr.isRegular, h]

theorem isParameterRead_mark {word : Text} (h : ["*".toList, "/".toList].contains word = true) :
    IsParameterRead (.constant word) :=
  fun _ _ => by rw [Expr.isRegular, if_pos rfl, h]

theorem isParameterRead_defaulted {name value : Expr} (hname : IsParameterRead name)
    (h : value.IsReadAt .element) : IsParameterRead (.defaulted name value) := by
  intro hordinary hparameter
  have hparts := Bool.and_eq_true_iff.1 (Bool.and_eq_true_iff.1 hordinary).2
  have hvalue := h.operand hparts.2 (isStarred_of_isOrdinary hordinary List.mem_cons_self)
  cases name with
  | name id =>
    have hregular := hname hparts.1 rfl
    simp only [Expr.isRegular, if_true] at hregular
    simp [Expr.isRegular, Expr.isParameterName, hregular, hvalue]
  | _ => cases hparameter

theorem isParameterRead_starred {stars : Text} {value : Expr} {l : Lexeme}
    (hstars : ["*".toList, "**".toList].contains stars = true) (h : IsTargetRead value) :
    IsParameterRead (.starred stars (l.gap ++ [value])) := by
  intro hordinary hparameter
  have hparts : areOrdinary (l.gap ++ [value]) = true := (Bool.and_eq_true_iff.1 hordinary).2
  have hgap : l.gap = [] := gap_eq_nil_of_append hparts
  rw [hgap, List.nil_append] at hordinary hparts hparameter ⊢
  cases value with
  | name id =>
    have hregular := h rfl (areOrdinary_iff.1 hparts _ List.mem_cons_self)
    have hplain : Python.isPlainName id = true := by simpa [Expr.isRegular, Role.isValue] using hregular
    have hstars' : (Role.parameter.stars.map String.toList).contains stars = true := hstars
    rw [Expr.isRegular, hstars']
    simp [Expr.isRegular, areRegular, Role.isValue, Expr.isPlainName, hplain]
  | _ => cases hparameter

/-- Of the patterns, those that are parameters are names, with a star or without. -/
theorem isParameterRead_pattern {value : Expr} (hpattern : asPattern? value = some e) (h : IsTargetRead e) :
    IsParameterRead e := by
  intro hordinary hparameter
  cases e with
  | name id =>
    have hregular := h rfl hordinary
    simp only [Expr.isRegular, reduceCtorEq, if_false, Role.isValue, Bool.true_and, isPlainName,
      Bool.and_eq_true] at hregular
    simp [Expr.isRegular, hregular.1.1]
  | starred stars parts =>
    obtain ⟨id, rfl⟩ : ∃ id, parts = [.name id] := by
      unfold Expr.isParameter at hparameter
      split at hparameter <;> simp_all
    have hregular := h rfl hordinary
    simp only [Expr.isRegular, areRegular, Bool.and_eq_true] at hregular
    have hplain : Python.isPlainName id = true := by simpa [Role.isValue] using hregular.1.2.1
    have hstars : stars = ['*'] := by simpa [Role.stars] using hregular.1.1.1
    simp [Expr.isRegular, areRegular, Role.isValue, Role.stars, Expr.isPlainName, hplain, hstars]
  | constant | defaulted => cases value with
    | display brackets items => cases brackets <;> simp [asPattern?] at hpattern
    | _ => simp [asPattern?] at hpattern
  | _ => cases hparameter

theorem isReadAt_lambda {parameters : List Expr} {body : Expr}
    (hparameters : ∀ e ∈ parameters, IsParameterRead e)
    (h : body.IsReadAt .element) : (Expr.lambda parameters body).IsReadAt .element where
  isRegular hordinary := by
    have hparts := Bool.and_eq_true_iff.1 (Bool.and_eq_true_iff.1 hordinary).2
    have hform : (!parameters.all Expr.isParameter) = false := isOddForm_of_isOrdinary hordinary
    have hbody := h.operand hparts.2 (isStarred_of_isOrdinary hordinary List.mem_cons_self)
    have hregular : areRegular .parameter parameters = true := areRegular_iff.2 fun e he =>
      hparameters e he (areOrdinary_iff.1 hparts.1 e he)
        (List.all_eq_true.1 (by simpa using hform) e he)
    rw [Expr.isRegular, hregular, hbody]
    rfl
  isPattern p hp _ := by cases hp

end Testbook.Python
