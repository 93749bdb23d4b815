import Testbook.Proofs.Python.Comprehension
import Testbook.Proofs.Python.Float
import Testbook.Proofs.Python.Interpolation
import Testbook.Proofs.Python.Lambda

/-!
Regular expressions of program text: those whose normal form is read again. What they leave out is
kept as it was written (`await`, `yield`, assignments within expressions), holds line continuations, or
loses something on the way: interpolated values that are shown with their text or hold something that is
escaped, asynchronous loops and loops over several values, a comma behind a lone subscript, slices beside
other subscripts, and attributes of plain integers. The expression that is read from the normal form is
`Expr.reread`; it is written in the same way and has the same tree (`same_reread`).
-/

namespace Testbook.Python

open Testbook.Text

/-- The places where an expression, or a part of one, may stand. -/
inductive Role where
  | operand | element | argument | entry | index | parameter | clause | interpolation
  deriving DecidableEq, Repr

/-- Whether an operand may stand at a place. -/
def Role.isValue : Role → Bool
  | .parameter | .clause | .interpolation => false
  | _ => true

/-- The stars that may stand in front of an operand at a place. -/
def Role.stars : Role → List String
  | .element => ["*"]
  | .argument | .entry | .parameter => ["*", "**"]
  | _ => []

/-- Whether a word is a name wherever an operand may begin. -/
def isPlainName (word : Text) : Bool := isIdentifier word && !isKeyword word && !isConstant word

/-- Whether a part is a plain name. -/
def Expr.isPlainName : Expr → Bool
  | .name id => Python.isPlainName id
  | _ => false

/-- Whether a part is the name of a parameter. -/
def Expr.isParameterName : Expr → Bool
  | .name id => isIdentifier id
  | _ => false

/-- Whether a part is a loop of a comprehension. -/
def Expr.isLoop : Expr → Bool
  | .forClause .. => true
  | _ => false

mutual

/-- Whether a loop may assign to an expression. A round display of a single target is left out, since
a target in parentheses is taken for one. -/
def Expr.isTarget : Expr → Bool
  | .name _ | .attribute .. | .subscript .. => true
  | .starred _ parts => parts.all isStarTarget
  | .display .round items => items.length != 1 && areTargets items
  | .display .square items => areTargets items
  | _ => false
termination_by structural e => e

/-- Whether a loop may assign to each of several expressions. -/
def areTargets : List Expr → Bool
  | [] => true
  | e :: es => e.isTarget && areTargets es

end

mutual

/-- Whether an expression that stands at a place is read again from its normal form. -/
def Expr.isRegular (role : Role) : Expr → Bool
  | .name id => if role = .parameter then isIdentifier id else role.isValue && isPlainName id
  | .integer literal => role.isValue && isInteger literal
  | .float literal => role.isValue && isFloat literal
  | .constant word =>
    if role = .parameter then ["*".toList, "/".toList].contains word
    else role.isValue && (isConstant word || word = "...".toList)
  | .strings parts => role.isValue && areRegularParts parts && keepsValues parts
  | .interpolation value isShown conversion spec => role = .interpolation && value.isRegular .operand
      && !isShown && isConversion conversion && spec.all isPlainSpec
  | .attribute object name => role.isValue && object.isRegular .operand
      && !object.render.all Char.isDigit && isIdentifier name
  | .call function arguments =>
    role.isValue && function.isRegular .operand && areRegular .argument arguments
  | .keyword name value =>
    role = .argument && isIdentifier name && !isReservedOperand name && value.isRegular .operand
  | .starred stars parts => (role.stars.map String.toList).contains stars && parts.length = 1
      && areRegular .operand parts && (role != .parameter || parts.all Expr.isPlainName)
  | .paren parts => role.isValue && parts.length = 1 && areRegular .operand parts
  | .display .curly items =>
    role.isValue && areRegular .entry items && (items.all isEntry || !items.any isEntry)
  | .display _ items => role.isValue && areRegular .element items
  | .pair key value => role = .entry && key.isRegular .operand && value.isRegular .operand
  | .comprehension brackets body clauses =>
    role.isValue && body.isRegular (if brackets = .curly then .entry else .element)
      && isBody body && (clauses.head?.any Expr.isLoop && areRegular .clause clauses)
  | .forClause isAsync target source hasComma => role = .clause && !isAsync && target.isTarget
      && target.isRegular .operand && source.length = 1 && areRegular .operand source && !hasComma
  | .ifClause parts => role = .clause && parts.length = 1 && areRegular .operand parts
  | .conditional _ parts => role.isValue && parts.length = 3 && areRegular .operand parts
  | .unary operator operand =>
    role.isValue && (signs.map String.toList).contains operator && operand.isRegular .operand
  | .negation operand => role.isValue && operand.isRegular .operand
  | .binary operator left right => role.isValue && (arithmetic.map String.toList).contains operator
      && left.isRegular .operand && right.isRegular .operand
  | .boolean operator left right => role.isValue && (["or", "and"].map String.toList).contains operator
      && left.isRegular .operand && right.isRegular .operand
  | .comparison parts => role.isValue && 3 ≤ parts.length && areComparands false parts
  | .subscript value indices hasComma => role.isValue && value.isRegular .operand
      && (if 2 ≤ indices.length then areRegular .element indices
        else indices.length = 1 && !hasComma && areRegular .index indices)
  | .slice lower upper step =>
    role = .index && isRegularBound lower && isRegularBound upper && isRegularBound step
  | .lambda parameters body =>
    role.isValue && areRegular .parameter parameters && body.isRegular .operand
  | .defaulted name value => role = .parameter && name.isParameterName && value.isRegular .operand
  | _ => false
termination_by structural e => e

/-- Whether each of several expressions at a place is regular. -/
def areRegular (role : Role) : List Expr → Bool
  | [] => true
  | e :: es => e.isRegular role && areRegular role es

/-- Whether operands and operators of comparison alternate, where an operator is next or not. -/
def areComparands (isOperatorNext : Bool) : List Expr → Bool
  | [] => isOperatorNext
  | .operator symbol :: es => isOperatorNext
      && ((comparisonSymbols ++ comparisonWords).map String.toList).contains symbol && areComparands false es
  | e :: es => !isOperatorNext && e.isRegular .operand && areComparands true es

/-- Whether a bound of a slice is regular, if there is one. -/
def isRegularBound : Option Expr → Bool
  | none => true
  | some e => e.isRegular .operand

/-- Whether the literals of a row are what their letters say, with regular values if there are any. -/
def areRegularParts : List Expr → Bool
  | [] => true
  | .plain source :: es => (StringLiteral.split? source).any (!·.isFormat) && areRegularParts es
  | .format source pieces :: es => (StringLiteral.split? source).any StringLiteral.isFormat
      && areRegularPieces (isRawLiteral source) pieces && areRegularParts es
  | _ :: _ => false

/-- Whether the texts and values in a literal are regular. -/
def areRegularPieces (raw : Bool) : List Expr → Bool
  | [] => true
  | .chunk source :: es => isPlainChunk raw source && areRegularPieces raw es
  | e :: es => e.isRegular .interpolation && areRegularPieces raw es

end

/-- What stands in parentheses, or the expression itself. -/
def Expr.unwrapped : Expr → Expr
  | .paren [e] => e
  | e => e

/-- What is read from the left side of a chain of `operator`, given what is read from its normal
form. -/
def leftReread (operator : Text) (left reread : Expr) : Expr :=
  if isChainOf operator left then reread.unwrapped else reread

/-- Several subscripts as one. -/
def joinedIndices : List Expr → List Expr
  | [index] => [index]
  | indices => [.display .round indices]

/-- The text of a conditional expression in its parentheses, given its three parts. -/
def conditionalInner : List Text → Text
  | [body, test, orelse] => conditionalText body test orelse
  | _ => []

/-- What is read from the normal form of a row of literals, given what is read of the values in it. -/
def rereadRow (parts : List Expr) (turns : List (Text ⊕ Expr)) : Expr :=
  match plainSources? parts with
  | some _ => .plain (writeStrings (renderParts parts))
  | none => .format (writeStrings (renderParts parts)) (literalPieces (rowQuote parts) turns)

mutual

/-- What is read from the normal form of a regular expression. -/
def Expr.reread : Expr → Expr
  | .integer literal => .integer (writeInteger literal)
  | .float literal => .float (writeFloatLiteral literal)
  | .interpolation value isShown conversion spec => .interpolation value.reread isShown conversion spec
  | .strings parts => .strings [rereadRow parts (rereadParts parts)]
  | .attribute object name => .attribute object.reread name
  | .call function arguments => .call function.reread (rereadEach arguments)
  | .keyword name value => .keyword name value.reread
  | .starred stars parts => .starred stars (rereadEach parts)
  | .paren parts => ((Expr.paren (rereadEach parts)).unwrapped)
  | .display brackets items => .display brackets (rereadEach items)
  | .pair key value => .pair key.reread value.reread
  | .comprehension brackets body clauses => .comprehension brackets body.reread (rereadEach clauses)
  | .forClause isAsync target source hasComma =>
    .forClause isAsync target.reread (rereadEach source) hasComma
  | .ifClause parts => .ifClause (rereadEach parts)
  | .conditional _ parts => .paren [.conditional (conditionalInner (renderEach parts)) (rereadEach parts)]
  | .unary operator operand => .paren [.unary operator operand.reread]
  | .negation operand => .paren [.negation operand.reread]
  | .binary operator left right => .paren [.binary operator left.reread right.reread]
  | .boolean operator left right =>
    .paren [.boolean operator (leftReread operator left left.reread) right.reread]
  | .comparison parts => .paren [.comparison (rereadEach parts)]
  | .subscript value indices _ => .subscript value.reread (joinedIndices (rereadEach indices)) false
  | .slice lower upper step => .slice (rereadBound lower) (rereadBound upper) (rereadBound step)
  | .lambda parameters body => .paren [.lambda (rereadEach parameters) body.reread]
  | .defaulted name value => .defaulted name.reread value.reread
  | e => e
termination_by structural e => e

/-- What is read from the normal forms of several expressions. -/
def rereadEach : List Expr → List Expr
  | [] => []
  | e :: es => e.reread :: rereadEach es

/-- What is read from a bound of a slice, if there is one. -/
def rereadBound : Option Expr → Option Expr
  | none => none
  | some e => some e.reread

/-- The turns of a row of literals with what is read of the values. -/
def rereadParts : List Expr → List (Text ⊕ Expr)
  | [] => []
  | .plain source :: es => .inl (plainText source) :: rereadParts es
  | .format source pieces :: es => rereadPieces (isRawLiteral source) pieces ++ rereadParts es
  | _ :: es => rereadParts es

/-- The turns of a literal with what is read of the values. -/
def rereadPieces (raw : Bool) : List Expr → List (Text ⊕ Expr)
  | [] => []
  | .chunk source :: es => .inl (chunkValue raw source) :: rereadPieces raw es
  | e :: es => .inr e.reread :: rereadPieces raw es

end

/-! ### The normal form and the tree of what is read again -/

/-- That two expressions have one normal form and one tree. -/
structure Expr.SameAs (e' e : Expr) : Prop where
  render : e'.render = e.render
  tree : e'.tree = e.tree

/-- That the expressions of two lists have the same normal forms and trees. -/
structure SameEach (es' es : List Expr) : Prop where
  render : renderEach es' = renderEach es
  tree : treeEach es' = treeEach es

variable {role : Role} {e e' : Expr} {es es' : List Expr} {operator : Text}

/-- Whether an expression is an operand by itself: a word, a literal, something in brackets, or one of
these with attributes, calls and subscripts behind it. -/
def Expr.isClosed : Expr → Bool
  | .name _ | .integer _ | .float _ | .constant _ | .strings _ | .attribute .. | .call .. | .paren _
  | .display .. | .comprehension .. | .subscript .. => true
  | _ => false

/-- What is read from the normal form of an operand is an operand by itself. -/
theorem isClosed_reread : ∀ e : Expr, e.isRegular .operand = true → e.reread.isClosed = true
  | .paren [e], h => by
    simp only [Expr.isRegular, areRegular, Bool.and_eq_true] at h
    exact isClosed_reread e h.2.1
  | .paren [], _ | .paren (_ :: _ :: _), _ => rfl
  | .name _, _ | .integer _, _ | .float _, _ | .constant _, _ | .strings _, _ | .attribute .., _
  | .call .., _ | .display .., _ | .comprehension .., _ | .conditional .., _ | .unary .., _
  | .negation _, _ | .binary .., _ | .boolean .., _ | .comparison _, _ | .subscript .., _
  | .lambda .., _ => rfl
  | .starred .., h => by simp [Expr.isRegular, Role.stars] at h
  | .keyword .., h | .pair .., h | .forClause .., h | .ifClause _, h | .slice .., h
  | .defaulted .., h => by simp [Expr.isRegular] at h

theorem isChainOf_of_isClosed (h : e.isClosed = true) (operator : Text) :
    isChainOf operator e = false := by
  cases e with
  | boolean _ _ _ => exact absurd h (by simp [Expr.isClosed])
  | _ => rfl

theorem isEntry_of_isClosed (h : e.isClosed = true) : isEntry e = false := by
  cases e with
  | pair _ _ => exact absurd h (by simp [Expr.isClosed])
  | starred _ _ => exact absurd h (by simp [Expr.isClosed])
  | _ => rfl

theorem isBody_of_isClosed (h : e.isClosed = true) : isBody e = true := by
  cases e with
  | keyword _ _ => exact absurd h (by simp [Expr.isClosed])
  | starred _ _ => exact absurd h (by simp [Expr.isClosed])
  | _ => rfl

theorem renderComparands_of_isClosed (h : e.isClosed = true) (es : List Expr) :
    renderComparands (e :: es) = e.render ++ renderComparands es := by
  cases e with
  | operator _ => exact absurd h (by simp [Expr.isClosed])
  | _ => rfl

theorem renderComparands_of_isRegular (h : e.isRegular .operand = true) (es : List Expr) :
    renderComparands (e :: es) = e.render ++ renderComparands es := by
  cases e with
  | operator _ => exact absurd h (by simp [Expr.isRegular])
  | _ => rfl

/-- The first of the operands and operators of a chain of comparisons. -/
theorem areComparands_cases {isOperatorNext : Bool} (h : areComparands isOperatorNext (e :: es) = true) :
    (∃ symbol ∈ (comparisonSymbols ++ comparisonWords).map String.toList, e = .operator symbol
        ∧ isOperatorNext = true ∧ areComparands false es = true)
      ∨ isOperatorNext = false ∧ e.isRegular .operand = true ∧ areComparands true es = true := by
  cases e with
  | operator symbol =>
    simp only [areComparands, Bool.and_eq_true, List.contains_iff_mem] at h
    exact .inl ⟨symbol, h.1.2, rfl, h.1.1, h.2⟩
  | _ =>
    simp only [areComparands, Bool.and_eq_true, Bool.not_eq_true'] at h
    exact .inr ⟨h.1.1, h.1.2, h.2⟩

theorem length_rereadEach (es : List Expr) : (rereadEach es).length = es.length := by
  induction es with
  | nil => rfl
  | cons e es ih => rw [rereadEach, List.length_cons, ih, List.length_cons]

/-! ### Parts of an expression -/

theorem render_paren (e : Expr) : (Expr.paren [e]).render = e.render := List.flatten_singleton

/-- Parentheses change neither the normal form nor the tree. -/
theorem Expr.SameAs.paren (h : e'.SameAs e) : (Expr.paren [e']).SameAs e where
  render := (render_paren e').trans h.render
  tree := h.tree

theorem SameEach.cons (h : e'.SameAs e) (hs : SameEach es' es) : SameEach (e' :: es') (e :: es) where
  render := congrArg₂ List.cons h.render hs.render
  tree := congrArg₂ List.cons h.tree hs.tree

/-- The left side of a chain is written as before, with parentheses of its own or without. -/
theorem leftOperand_leftReread (operator : Text) (left : Expr) (hregular : left.isRegular .operand = true)
    (h : left.reread.SameAs left) :
    leftOperand operator (leftReread operator left left.reread) (leftReread operator left left.reread).render
        = leftOperand operator left left.render
      ∧ (leftReread operator left left.reread).tree = left.tree := by
  cases hchain : isChainOf operator left with
  | false =>
    rw [leftReread, hchain, if_neg Bool.false_ne_true, leftOperand, leftOperand, hchain,
      isChainOf_of_isClosed (isClosed_reread left hregular)]
    exact ⟨h.render, h.tree⟩
  | true =>
    obtain ⟨inner, hinner, hinnerChain⟩ : ∃ inner, left.reread = .paren [inner]
        ∧ isChainOf operator inner = true := by
      cases left with
      | boolean symbol _ _ => exact ⟨_, rfl, hchain⟩
      | _ => exact absurd hchain (by simp [isChainOf])
    have hsame : inner.SameAs left := by
      rw [hinner] at h
      exact ⟨(render_paren inner).symm.trans h.render, h.tree⟩
    have hreread : leftReread operator left left.reread = inner := by
      rw [leftReread, hchain, if_pos rfl, hinner]
      rfl
    rw [hreread, leftOperand, leftOperand, hchain, hinnerChain, hsame.render]
    exact ⟨rfl, hsame.tree⟩

/-! ### Rows of literals -/

theorem rereadPieces_eq (raw : Bool) (pieces : List Expr) :
    rereadPieces raw pieces = (pieceTurns raw pieces).map (Sum.map id Expr.reread) := by
  fun_induction pieceTurns raw pieces with
  | case1 => rfl
  | case2 source es ih => exact congrArg (.inl (chunkValue raw source) :: ·) ih
  | case3 e es hchunk ih =>
    rw [rereadPieces, ih]
    · rfl
    · exact hchunk

theorem rereadParts_eq (parts : List Expr) :
    rereadParts parts = (rowTurns parts).map (Sum.map id Expr.reread) := by
  fun_induction rowTurns parts with
  | case1 => rfl
  | case2 source es ih => exact congrArg (.inl (plainText source) :: ·) ih
  | case3 source pieces es ih => rw [rereadParts, rereadPieces_eq, ih, List.map_append]
  | case4 e es hplain hformat ih =>
    rw [rereadParts, ih]
    · exact hplain
    · exact hformat

/-- What is read from the normal form of an interpolation is one. -/
theorem isInterpolation_reread (h : e.isRegular .interpolation = true) : e.reread.isInterpolation = true := by
  cases e with
  | interpolation => rfl
  | display brackets items => cases brackets <;> cases h
  | _ => simp [Expr.isRegular, Role.isValue, Role.stars] at h

/-- The first of the literals in a row. -/
theorem areRegularParts_cases (h : areRegularParts (e :: es) = true) : ∃ literal,
    areRegularParts es = true
      ∧ ((∃ source, e = .plain source ∧ StringLiteral.split? source = some literal ∧ literal.isFormat = false)
        ∨ ∃ source pieces, e = .format source pieces ∧ StringLiteral.split? source = some literal
          ∧ literal.isFormat = true ∧ areRegularPieces (isRawLiteral source) pieces = true) := by
  cases e with
  | plain source =>
    rw [areRegularParts, Bool.and_eq_true, Option.any_eq_true] at h
    obtain ⟨⟨literal, hliteral, hformat⟩, hes⟩ := h
    exact ⟨literal, hes, .inl ⟨source, rfl, hliteral, by simpa using hformat⟩⟩
  | format source pieces =>
    rw [areRegularParts, Bool.and_eq_true, Bool.and_eq_true, Option.any_eq_true] at h
    obtain ⟨⟨⟨literal, hliteral, hformat⟩, hpieces⟩, hes⟩ := h
    exact ⟨literal, hes, .inr ⟨source, pieces, rfl, hliteral, hformat, hpieces⟩⟩
  | _ => cases h

/-- The first of the texts and values in a literal. -/
theorem areRegularPieces_cases {raw : Bool} (h : areRegularPieces raw (e :: es) = true) :
    areRegularPieces raw es = true
      ∧ ((∃ source, e = .chunk source ∧ isPlainChunk raw source = true)
        ∨ e.isRegular .interpolation = true ∧ pieceTurns raw (e :: es) = .inr e :: pieceTurns raw es
          ∧ renderPieces raw (e :: es) = e.render ++ renderPieces raw es) := by
  cases e with
  | chunk source =>
    rw [areRegularPieces, Bool.and_eq_true] at h
    exact ⟨h.2, .inl ⟨source, rfl, h.1⟩⟩
  | _ =>
    obtain ⟨he, hes⟩ := Bool.and_eq_true_iff.1 h
    exact ⟨hes, .inr ⟨he, rfl, rfl⟩⟩

theorem renderPieces_eq {raw : Bool} {pieces : List Expr} (h : areRegularPieces raw pieces = true) :
    renderPieces raw pieces = turnsText (pieceTurns raw pieces) := by
  induction pieces with
  | nil => rfl
  | cons e es ih =>
    obtain ⟨hes, ⟨source, rfl, hsource⟩ | ⟨-, hturns, hrender⟩⟩ := areRegularPieces_cases h
    · rw [isPlainChunk, decide_eq_true_eq] at hsource
      rw [renderPieces, ih hes, hsource]
      rfl
    · rw [hrender, hturns, ih hes]
      rfl

/-- What a row of literals stands for between quotes, before it is written. -/
theorem flatMap_content_renderParts {parts : List Expr} (h : areRegularParts parts = true) :
    (renderParts parts).flatMap Piece.content = turnsText (rowTurns parts) := by
  induction parts with
  | nil => rfl
  | cons e es ih =>
    obtain ⟨literal, hes, ⟨source, rfl, hliteral, -⟩ | ⟨source, pieces, rfl, -, -, hpieces⟩⟩ :=
      areRegularParts_cases h
    · have hcontent : (plainPiece source).content = doubleBraces (plainText source) := by
        rw [plainPiece, plainText, hliteral]
        rfl
      rw [renderParts, List.flatMap_cons, ih hes, hcontent]
      rfl
    · rw [renderParts, List.flatMap_cons, ih hes, renderPieces_eq hpieces]
      exact List.flatMap_append.symm

/-- A row of literals has no interpolations, or some literal in it may have some. -/
theorem row_cases {parts : List Expr} (h : areRegularParts parts = true) :
    (∃ sources, plainSources? parts = some sources ∧ renderParts parts = sources.map plainPiece
        ∧ (sources.filterMap StringLiteral.split?).any StringLiteral.isFormat = false)
      ∨ plainSources? parts = none
        ∧ ((renderParts parts).filterMap fun p => StringLiteral.split? p.source).any
          StringLiteral.isFormat = true := by
  induction parts with
  | nil => exact .inl ⟨[], rfl, rfl, rfl⟩
  | cons e es ih =>
    obtain ⟨literal, hes, ⟨source, rfl, hliteral, hformat⟩ | ⟨source, pieces, rfl, hliteral, hformat, -⟩⟩ :=
      areRegularParts_cases h
    · rcases ih hes with ⟨sources, hsources, hparts, hnone⟩ | ⟨hsources, hsome⟩
      · refine .inl ⟨source :: sources, by simp [plainSources?, hsources], by simp [renderParts, hparts], ?_⟩
        rw [List.filterMap_cons_some hliteral, List.any_cons, hformat, hnone]
        rfl
      · refine .inr ⟨by simp [plainSources?, hsources], ?_⟩
        have hpiece : StringLiteral.split? (plainPiece source).source = some literal := hliteral
        rw [renderParts, List.filterMap_cons, hpiece, List.any_cons, hsome, Bool.or_true]
    · refine .inr ⟨rfl, ?_⟩
      rw [renderParts, List.filterMap_cons, hliteral, List.any_cons, hformat, Bool.true_or]

/-- A row of literals of which some may have interpolations is written as one that may have some. -/
theorem writeStrings_format {parts : List Expr} (h : areRegularParts parts = true)
    (hformat : ((renderParts parts).filterMap fun p => StringLiteral.split? p.source).any
      StringLiteral.isFormat = true) :
    writeStrings (renderParts parts) = 'f' :: writeText (turnsText (rowTurns parts)) := by
  rw [writeStrings]
  dsimp only
  rw [hformat, if_pos rfl]
  exact congrArg (fun text => 'f' :: writeText text) (flatMap_content_renderParts h)

theorem same_strings {parts : List Expr} (h : (Expr.strings parts).isRegular role = true)
    (hvalues : ∀ e, .inr e ∈ rowTurns parts → e.reread.isInterpolation = true ∧ e.reread.SameAs e) :
    (Expr.strings parts).reread.SameAs (.strings parts) := by
  simp only [Expr.isRegular, Bool.and_eq_true] at h
  rcases row_cases h.1.2 with ⟨sources, hsources, hparts, hformat⟩ | ⟨hsources, hformat⟩
  · obtain ⟨-, hvalue, hwritten⟩ := writeStrings_plain hformat
    rw [← hparts] at hvalue hwritten
    have hreread : (Expr.strings parts).reread = .strings [.plain (writeStrings (renderParts parts))] := by
      rw [Expr.reread, rereadRow, hsources]
    have htree : (Expr.strings parts).tree = .literal (stringsValue sources) := by
      simp only [Expr.tree, hsources]
    rw [hreread]
    refine ⟨hwritten, ?_⟩
    rw [htree, ← hvalue]
    rfl
  · have hwritten := writeStrings_format h.1.2 hformat
    have hquote : StringLiteral.isQuote (rowQuote parts) = true := isQuote_quoteFor ..
    have hturns : ∀ e, .inr e ∈ rowTurns parts → e.reread.isInterpolation = true
        ∧ e.reread.render = e.render ∧ e.reread.tree = e.tree := fun e he =>
      ⟨(hvalues e he).1, (hvalues e he).2.render, (hvalues e he).2.tree⟩
    obtain ⟨hrender, htree⟩ := same_turns hquote hturns
    rw [← rereadParts_eq] at hrender htree
    have hreread : (Expr.strings parts).reread = .strings [.format (writeStrings (renderParts parts))
        (literalPieces (rowQuote parts) (rereadParts parts))] := by
      rw [Expr.reread, rereadRow, hsources]
    have hletters : ['f'].all (!StringLiteral.isQuote ·) = true := by decide
    obtain ⟨body, hsplit, -⟩ := split?_writeText hletters (turnsText (rowTurns parts))
    rw [List.singleton_append] at hsplit
    have hformat' : StringLiteral.isFormat ⟨['f'], body⟩ = true := rfl
    have hraw : isRawLiteral (writeStrings (renderParts parts)) = false := by
      rw [isRawLiteral, hwritten, hsplit]
      rfl
    rw [hreread]
    constructor
    · change writeStrings [⟨writeStrings (renderParts parts), renderPieces _ _⟩]
        = writeStrings (renderParts parts)
      rw [hraw, hrender, hwritten]
      simp [writeStrings, hsplit, hformat']
    · have htrees : (Expr.strings parts).tree
          = .node "format" [] ((joinTexts [] (treeParts parts)).map .ofPart) := by
        simp only [Expr.tree, hsources]
      rw [htrees, treeParts_eq, ← htree, ← hraw]
      refine congrArg (fun turns => Tree.node "format" [] ((joinTexts [] turns).map .ofPart)) ?_
      exact List.append_nil _

/-- Several texts in round brackets have no comma behind the last. -/
theorem writeDisplay_round (first second : Text) (rest : List Text) :
    writeDisplay .round (first :: second :: rest) = parenthesized (commas (first :: second :: rest)) := by
  simp [writeDisplay, parenthesized, Brackets.opening, Brackets.closing]

theorem same_subscript {value : Expr} {indices : List Expr} {hasComma : Bool}
    (h : value.reread.SameAs value) (hs : SameEach (rereadEach indices) indices)
    (hindices : 2 ≤ indices.length ∨ indices.length = 1 ∧ hasComma = false) :
    (Expr.subscript value indices hasComma).reread.SameAs (.subscript value indices hasComma) := by
  have hindex : grouped (renderEach (joinedIndices (rereadEach indices))) = grouped (renderEach indices)
      ∧ Tree.joined false (treeEach (joinedIndices (rereadEach indices)))
        = Tree.joined hasComma (treeEach indices) := by
    match indices with
    | [] => simp at hindices
    | [index] =>
      have hcomma : hasComma = false := by simpa using hindices
      rw [hcomma]
      exact ⟨congrArg grouped hs.render, congrArg (Tree.joined false) hs.tree⟩
    | first :: second :: rest =>
      refine ⟨?_, congrArg (Tree.node "tuple" []) hs.tree⟩
      change writeDisplay .round (renderEach (rereadEach (first :: second :: rest))) = _
      rw [hs.render]
      exact writeDisplay_round _ _ _
  exact ⟨congrArg₂ (fun value index => value ++ '[' :: index ++ [']']) h.render hindex.1,
    congrArg₂ (fun value index => Tree.node "subscript" [] [value, index]) h.tree hindex.2⟩

/-! ### Whole expressions -/

mutual

/-- What is read from the normal form of a regular expression has this normal form, and the tree of
the expression. -/
theorem same_reread (role : Role) : ∀ e : Expr, e.isRegular role = true → e.reread.SameAs e
  | .name _, _ | .constant _, _ => ⟨rfl, rfl⟩
  | .integer literal, _ =>
    ⟨writeInteger_writeInteger literal, congrArg Tree.literal (integerValue_writeInteger literal)⟩
  | .float literal, _ =>
    ⟨writeFloatLiteral_writeFloatLiteral literal, congrArg Tree.literal (floatValue_writeFloatLiteral literal)⟩
  | .strings parts, h => same_strings h fun e he => by
    simp only [Expr.isRegular, Bool.and_eq_true] at h
    exact sameParts_reread parts h.1.2 e he
  | .interpolation value isShown conversion spec, h => by
    simp only [Expr.isRegular, Bool.and_eq_true] at h
    have hvalue := same_reread .operand value h.1.1.1.2
    exact ⟨congrArg (writeInterpolation · conversion spec) hvalue.render,
      congrArg (fun value => Tree.node (if isShown then "shown" else "interpolation")
        (conversion :: spec.toList) [value]) hvalue.tree⟩
  | .attribute object name, h => by
    simp only [Expr.isRegular, Bool.and_eq_true] at h
    have hobject := same_reread .operand object h.1.1.2
    exact ⟨congrArg (· ++ '.' :: name) hobject.render,
      congrArg (fun object => Tree.node "attribute" [name] [object]) hobject.tree⟩
  | .call function arguments, h => by
    simp only [Expr.isRegular, Bool.and_eq_true] at h
    have hfunction := same_reread .operand function h.1.2
    have harguments := sameEach_reread .argument arguments h.2
    exact ⟨congrArg₂ (fun function texts => function ++ parenthesized (commas texts)) hfunction.render
      harguments.render, congrArg (Tree.node "call" []) (SameEach.cons hfunction harguments).tree⟩
  | .keyword name value, h => by
    simp only [Expr.isRegular, Bool.and_eq_true] at h
    have hvalue := same_reread .operand value h.2
    exact ⟨congrArg (name ++ '=' :: ·) hvalue.render,
      congrArg (fun value => Tree.node "keyword" [name] [value]) hvalue.tree⟩
  | .starred stars parts, h => by
    simp only [Expr.isRegular, Bool.and_eq_true] at h
    have hparts := sameEach_reread .operand parts h.1.2
    exact ⟨congrArg (fun texts => stars ++ texts.flatten) hparts.render,
      congrArg (Tree.node "starred" [stars]) hparts.tree⟩
  | .paren [e], h => by
    simp only [Expr.isRegular, areRegular, Bool.and_eq_true] at h
    have he := same_reread .operand e h.2.1
    exact ⟨he.render.trans (render_paren e).symm, he.tree⟩
  | .paren [], h | .paren (_ :: _ :: _), h => by simp [Expr.isRegular] at h
  | .display brackets items, h => by
    obtain ⟨place, hplace⟩ : ∃ place, areRegular place items = true := by
      cases brackets with
      | curly =>
        simp only [Expr.isRegular, Bool.and_eq_true] at h
        exact ⟨.entry, h.1.2⟩
      | _ =>
        simp only [Expr.isRegular, Bool.and_eq_true] at h
        exact ⟨.element, h.2⟩
    have hitems := sameEach_reread place items hplace
    exact ⟨congrArg (writeDisplay brackets) hitems.render,
      congrArg (Tree.node brackets.kind []) hitems.tree⟩
  | .pair key value, h => by
    simp only [Expr.isRegular, Bool.and_eq_true] at h
    have hkey := same_reread .operand key h.1.2
    have hvalue := same_reread .operand value h.2
    exact ⟨congrArg₂ (fun key value => key ++ ": ".toList ++ value) hkey.render hvalue.render,
      congrArg₂ (fun key value => Tree.node "pair" [] [key, value]) hkey.tree hvalue.tree⟩
  | .comprehension brackets body clauses, h => by
    simp only [Expr.isRegular, Bool.and_eq_true] at h
    have hbody := same_reread _ body h.1.1.2
    have hclauses := sameEach_reread .clause clauses h.2.2
    exact ⟨congrArg₂ (fun body texts => brackets.opening :: body ++ texts.flatten ++ [brackets.closing])
      hbody.render hclauses.render, congrArg (Tree.node "comprehension" [brackets.kind.toList])
      (SameEach.cons hbody hclauses).tree⟩
  | .forClause isAsync target source hasComma, h => by
    simp only [Expr.isRegular, Bool.and_eq_true] at h
    have htarget := same_reread .operand target h.1.1.1.2
    have hsource := sameEach_reread .operand source h.1.2
    exact ⟨congrArg₂ (fun target texts => " for ".toList ++ target ++ " in ".toList ++ grouped texts)
      htarget.render hsource.render,
      congrArg₂ (fun target parts => Tree.node (if isAsync then "async for" else "for") []
        [target, .joined hasComma parts]) htarget.tree hsource.tree⟩
  | .ifClause parts, h => by
    simp only [Expr.isRegular, Bool.and_eq_true] at h
    have hparts := sameEach_reread .operand parts h.2
    exact ⟨congrArg (fun texts => " if ".toList ++ texts.flatten) hparts.render,
      congrArg (Tree.node "if" []) hparts.tree⟩
  | .conditional source parts, h => by
    simp only [Expr.isRegular, Bool.and_eq_true, decide_eq_true_eq] at h
    have hparts := sameEach_reread .operand parts h.2
    refine .paren ⟨?_, congrArg (Tree.node "conditional" []) hparts.tree⟩
    change writeConditional _ (renderEach (rereadEach parts)) = writeConditional source (renderEach parts)
    rw [hparts.render]
    obtain ⟨body, test, orelse, rfl⟩ := List.length_eq_three.1 h.1.2
    rfl
  | .unary operator operand, h => by
    simp only [Expr.isRegular, Bool.and_eq_true] at h
    have hoperand := same_reread .operand operand h.2
    exact .paren ⟨congrArg (fun text => parenthesized (operator ++ ' ' :: text)) hoperand.render,
      congrArg (fun operand => Tree.node "unary" [operator] [operand]) hoperand.tree⟩
  | .negation operand, h => by
    simp only [Expr.isRegular, Bool.and_eq_true] at h
    have hoperand := same_reread .operand operand h.2
    exact .paren ⟨congrArg (fun text => parenthesized ("not ".toList ++ text)) hoperand.render,
      congrArg (fun operand => Tree.node "not" [] [operand]) hoperand.tree⟩
  | .binary operator left right, h => by
    simp only [Expr.isRegular, Bool.and_eq_true] at h
    have hleft := same_reread .operand left h.1.2
    have hright := same_reread .operand right h.2
    exact .paren ⟨congrArg₂ (fun left right => parenthesized (left ++ ' ' :: operator ++ ' ' :: right))
      hleft.render hright.render,
      congrArg₂ (fun left right => Tree.node "binary" [operator] [left, right]) hleft.tree hright.tree⟩
  | .boolean operator left right, h => by
    simp only [Expr.isRegular, Bool.and_eq_true] at h
    have hleft := leftOperand_leftReread operator left h.1.2
      (same_reread .operand left h.1.2)
    have hright := same_reread .operand right h.2
    exact .paren ⟨congrArg₂ (fun left right => parenthesized (left ++ ' ' :: operator ++ ' ' :: right))
      hleft.1 hright.render,
      congrArg₂ (fun left right => Tree.node "boolean" [operator] [left, right]) hleft.2 hright.tree⟩
  | .comparison parts, h => by
    simp only [Expr.isRegular, Bool.and_eq_true] at h
    have hparts := sameComparands_reread _ parts h.2
    exact .paren ⟨congrArg parenthesized hparts.1, congrArg (Tree.node "comparison" []) hparts.2⟩
  | .subscript value indices hasComma, h => by
    simp only [Expr.isRegular, Bool.and_eq_true] at h
    have hvalue := same_reread .operand value h.1.2
    by_cases hlength : 2 ≤ indices.length
    · rw [if_pos hlength] at h
      exact same_subscript hvalue (sameEach_reread .element indices h.2) (.inl hlength)
    · rw [if_neg hlength] at h
      simp only [Bool.and_eq_true, decide_eq_true_eq, Bool.not_eq_true'] at h
      exact same_subscript hvalue (sameEach_reread .index indices h.2.2) (.inr h.2.1)
  | .slice lower upper step, h => by
    simp only [Expr.isRegular, Bool.and_eq_true] at h
    have hlower := sameBound_reread lower h.1.1.2
    have hupper := sameBound_reread upper h.1.2
    have hstep := sameBound_reread step h.2
    refine ⟨?_, ?_⟩
    · change renderBound _ ++ ':' :: renderBound _ ++ renderStep _
        = renderBound lower ++ ':' :: renderBound upper ++ renderStep step
      rw [hlower.1, hupper.1, hstep.2.1]
    · change Tree.node "slice" [] [treeBound _, treeBound _, treeBound _]
        = Tree.node "slice" [] [treeBound lower, treeBound upper, treeBound step]
      rw [hlower.2.2, hupper.2.2, hstep.2.2]
  | .lambda parameters body, h => by
    simp only [Expr.isRegular, Bool.and_eq_true] at h
    have hparameters := sameEach_reread .parameter parameters h.1.2
    have hbody := same_reread .operand body h.2
    exact .paren ⟨congrArg₂ (fun texts body => parenthesized ("lambda ".toList ++ commas texts ++ ": ".toList
      ++ body)) hparameters.render hbody.render,
      congrArg₂ (fun parameters body => Tree.node "lambda" [] (parameters ++ [body])) hparameters.tree
      hbody.tree⟩
  | .defaulted name value, h => by
    simp only [Expr.isRegular, Bool.and_eq_true] at h
    have hvalue := same_reread .operand value h.2
    cases name with
    | name id => exact ⟨congrArg (id ++ '=' :: ·) hvalue.render,
        congrArg (fun value => Tree.node "defaulted" [] [.node "name" [id] [], value]) hvalue.tree⟩
    | _ => exact absurd h.1.2 (by simp [Expr.isParameterName])
  | .plain _, h | .format .., h | .chunk _, h | .operator _, h | .verbatim _, h => by
    simp [Expr.isRegular] at h

/-- The same for several expressions. -/
theorem sameEach_reread (role : Role) : ∀ es : List Expr, areRegular role es = true →
    SameEach (rereadEach es) es
  | [], _ => ⟨rfl, rfl⟩
  | e :: es, h => by
    simp only [areRegular, Bool.and_eq_true] at h
    exact .cons (same_reread role e h.1) (sameEach_reread role es h.2)

/-- The same for the operands and operators of a chain of comparisons. -/
theorem sameComparands_reread (isOperatorNext : Bool) : ∀ es : List Expr,
    areComparands isOperatorNext es = true →
    renderComparands (rereadEach es) = renderComparands es ∧ treeEach (rereadEach es) = treeEach es
  | [], _ => ⟨rfl, rfl⟩
  | e :: es, h => by
    rcases areComparands_cases h with ⟨symbol, -, rfl, -, hes⟩ | ⟨-, he, hes⟩
    · obtain ⟨hrender, htree⟩ := sameComparands_reread false es hes
      exact ⟨congrArg (fun text => ' ' :: symbol ++ ' ' :: text) hrender,
        congrArg (Tree.node "operator" [symbol] [] :: ·) htree⟩
    · obtain ⟨hrender, htree⟩ := sameComparands_reread true es hes
      have hsame := same_reread .operand e he
      refine ⟨?_, congrArg₂ List.cons hsame.tree htree⟩
      rw [rereadEach, renderComparands_of_isClosed (isClosed_reread e he), hsame.render, hrender,
        renderComparands_of_isRegular he]

/-- The same for a bound of a slice. -/
theorem sameBound_reread : ∀ bound : Option Expr, isRegularBound bound = true →
    renderBound (rereadBound bound) = renderBound bound ∧ renderStep (rereadBound bound) = renderStep bound
      ∧ treeBound (rereadBound bound) = treeBound bound
  | none, _ => ⟨rfl, rfl, rfl⟩
  | some e, h =>
    have he := same_reread .operand e h
    ⟨he.render, congrArg (':' :: ·) he.render, he.tree⟩

/-- The same for the values in a row of literals. -/
theorem sameParts_reread : ∀ parts : List Expr, areRegularParts parts = true → ∀ e, .inr e ∈ rowTurns parts →
    e.reread.isInterpolation = true ∧ e.reread.SameAs e
  | [], _, _, he => absurd he List.not_mem_nil
  | part :: parts, h, e, he => by
    cases part with
    | plain source =>
      have hparts := (Bool.and_eq_true_iff.1 h).2
      rcases List.mem_cons.1 he with heq | he
      · cases heq
      · exact sameParts_reread parts hparts e he
    | format source pieces =>
      obtain ⟨hformat, hparts⟩ := Bool.and_eq_true_iff.1 h
      rcases List.mem_append.1 he with he | he
      · exact samePieces_reread _ pieces (Bool.and_eq_true_iff.1 hformat).2 e he
      · exact sameParts_reread parts hparts e he
    | _ => cases h

/-- The same for the values in a literal. -/
theorem samePieces_reread (raw : Bool) : ∀ pieces : List Expr, areRegularPieces raw pieces = true →
    ∀ e, .inr e ∈ pieceTurns raw pieces → e.reread.isInterpolation = true ∧ e.reread.SameAs e
  | [], _, _, he => absurd he List.not_mem_nil
  | piece :: pieces, h, e, he => by
    obtain ⟨hpieces, ⟨source, rfl, -⟩ | ⟨hpiece, hturns, -⟩⟩ := areRegularPieces_cases h
    · rcases List.mem_cons.1 he with heq | he
      · cases heq
      · exact samePieces_reread raw pieces hpieces e he
    · rw [hturns] at he
      rcases List.mem_cons.1 he with heq | he
      · cases heq
        exact ⟨isInterpolation_reread hpiece, same_reread .interpolation piece hpiece⟩
      · exact samePieces_reread raw pieces hpieces e he

end

end Testbook.Python
