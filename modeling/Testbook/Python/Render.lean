import Testbook.Python.Syntax
import Testbook.Python.Literal
import Testbook.Python.Number

/-!
Expressions written in one normal form: operators, conditional expressions and anonymous functions
stand in parentheses of their own, redundant parentheses are gone, and adjacent string literals
are one literal. What is kept as it was written is written so.
-/

namespace Testbook.Python

open Testbook.Text

/-- Braces doubled, so that they stand for themselves beside interpolations. -/
def doubleBraces (text : Text) : Text := replace ['}'] ['}', '}'] (replace ['{'] ['{', '{'] text)

/-- Doubled braces made single again. -/
def undoubleBraces (text : Text) : Text := replace ['}', '}'] ['}'] (replace ['{', '{'] ['{'] text)

/-- What a stretch of content between interpolations stands for, with its braces doubled. -/
def chunkText (raw : Bool) (source : Text) : Text :=
  doubleBraces (undoubleBraces (if raw then source else decodeText source))

/-- An interpolation, given its value in normal form; a brace is kept away from the opening one. -/
def writeInterpolation (value conversion : Text) (spec : Option Text) : Text :=
  let gap : Text := if value.head? = some '{' then [' '] else []
  let format : Text := match spec with
    | some spec => ':' :: spec
    | none => []
  '{' :: gap ++ value ++ conversion ++ format ++ ['}']

/-- A literal in a row of adjacent ones: the literal as it was written, and what it stands for as
part of one with interpolations. -/
structure Piece where
  source : Text
  content : Text

/-- Adjacent literals as one: with interpolations if one of them has any, and as bytes if all of
them stand for bytes. -/
def writeStrings (pieces : List Piece) : Text :=
  let literals := pieces.filterMap fun p => StringLiteral.split? p.source
  if literals.any StringLiteral.isFormat then
    'f' :: writeText (pieces.flatMap (·.content))
  else if literals.all StringLiteral.isBytes && !literals.isEmpty then
    writeBytes (literals.flatMap StringLiteral.bytes)
  else
    let text := writeText (literals.flatMap StringLiteral.text)
    match literals with
    | [literal] => if literal.isUnicode then 'u' :: text else text
    | _ => text

/-- A literal without interpolations as one of a row. -/
def plainPiece (source : Text) : Piece :=
  ⟨source, ((StringLiteral.split? source).map fun l => doubleBraces l.text).getD []⟩

/-- Whether a literal is raw. -/
def isRawLiteral (source : Text) : Bool :=
  ((StringLiteral.split? source).map StringLiteral.isRaw).getD false

/-- Texts with a comma and a blank between each two of them. -/
def commas (texts : List Text) : Text := join ", " texts

/-- A text in parentheses. -/
def parenthesized (text : Text) : Text := '(' :: text ++ [')']

/-- Several texts as one operand: in parentheses unless it is a single one. -/
def grouped (texts : List Text) : Text :=
  match texts with
  | _ :: _ :: _ => parenthesized (commas texts)
  | _ => commas texts

/-- A display, in which a lone item of a tuple has a comma behind it. -/
def writeDisplay (brackets : Brackets) (items : List Text) : Text :=
  let ending : Text := if brackets = .round && items.length = 1 then [','] else []
  brackets.opening :: commas items ++ ending ++ [brackets.closing]

/-- A conditional expression without parentheses. -/
def conditionalText (body test orelse : Text) : Text := body ++ " if " ++ test ++ " else " ++ orelse

/-- A conditional expression, which is kept as it was written when line continuations stand between
its parts. -/
def writeConditional (source : Text) : List Text → Text
  | [body, test, orelse] => parenthesized (conditionalText body test orelse)
  | _ => source

/-- Whether an expression is a chain of the given operator. -/
def isChainOf (operator : Text) : Expr → Bool
  | .boolean symbol _ _ => symbol = operator
  | _ => false

/-- The left side of a chain of `operator`, given its normal form: a chain of the same operator
goes on without parentheses of its own. -/
def leftOperand (operator : Text) (left : Expr) (text : Text) : Text :=
  if isChainOf operator left then (text.drop 1).dropLast else text

mutual

/-- An expression in normal form. -/
def Expr.render : Expr → Text
  | .name id => id
  | .integer literal => writeInteger literal
  | .float literal => writeFloatLiteral literal
  | .constant word => word
  | .plain source => writeStrings [plainPiece source]
  | .format source pieces => writeStrings [⟨source, renderPieces (isRawLiteral source) pieces⟩]
  | .chunk source => source
  | .interpolation value _ conversion spec => writeInterpolation value.render conversion spec
  | .strings parts => writeStrings (renderParts parts)
  | .attribute object name => object.render ++ '.' :: name
  | .call function arguments => function.render ++ parenthesized (commas (renderEach arguments))
  | .keyword name value => name ++ '=' :: value.render
  | .starred stars parts => stars ++ (renderEach parts).flatten
  | .paren parts => (renderEach parts).flatten
  | .display brackets items => writeDisplay brackets (renderEach items)
  | .pair key value => key.render ++ ": " ++ value.render
  | .comprehension brackets body clauses =>
    brackets.opening :: body.render ++ (renderEach clauses).flatten ++ [brackets.closing]
  | .forClause _ target source _ => " for " ++ target.render ++ " in " ++ grouped (renderEach source)
  | .ifClause parts => " if " ++ (renderEach parts).flatten
  | .conditional source parts => writeConditional source (renderEach parts)
  | .unary operator operand => parenthesized (operator ++ ' ' :: operand.render)
  | .negation operand => parenthesized ("not " ++ operand.render)
  | .binary operator left right =>
    parenthesized (left.render ++ ' ' :: operator ++ ' ' :: right.render)
  | .boolean operator left right =>
    parenthesized (leftOperand operator left left.render ++ ' ' :: operator ++ ' ' :: right.render)
  | .comparison parts => parenthesized (renderComparands parts)
  | .operator symbol => symbol
  | .subscript value indices _ => value.render ++ '[' :: grouped (renderEach indices) ++ [']']
  | .slice lower upper step =>
    renderBound lower ++ ':' :: renderBound upper ++ renderStep step
  | .lambda parameters body =>
    parenthesized ("lambda " ++ commas (renderEach parameters) ++ ": " ++ body.render)
  | .defaulted name value => name.render ++ '=' :: value.render
  | .verbatim source => source
termination_by structural e => e

/-- Each of several expressions in normal form. -/
def renderEach : List Expr → List Text
  | [] => []
  | e :: es => e.render :: renderEach es

/-- The operands and operators of a chain of comparisons. -/
def renderComparands : List Expr → Text
  | [] => []
  | .operator symbol :: es => ' ' :: symbol ++ ' ' :: renderComparands es
  | e :: es => e.render ++ renderComparands es

/-- A bound of a slice, empty if there is none. -/
def renderBound : Option Expr → Text
  | none => []
  | some e => e.render

/-- The step of a slice behind its colon, empty if there is none. -/
def renderStep : Option Expr → Text
  | none => []
  | some e => ':' :: e.render

/-- The pieces of a literal with interpolations. -/
def renderPieces (raw : Bool) : List Expr → Text
  | [] => []
  | .chunk source :: es => chunkText raw source ++ renderPieces raw es
  | e :: es => e.render ++ renderPieces raw es

/-- A row of adjacent literals, each with its pieces. -/
def renderParts : List Expr → List Piece
  | [] => []
  | .plain source :: es => plainPiece source :: renderParts es
  | .format source pieces :: es =>
    ⟨source, renderPieces (isRawLiteral source) pieces⟩ :: renderParts es
  | _ :: es => renderParts es

end

end Testbook.Python
