import Testbook.Python.Render

/-!
What an expression is, apart from how it is written: a tree of nodes with the values of the literals
at its leaves. Parentheses around an expression leave no trace in it, nor does the spelling of a
literal; several subscripts are one tuple, with its parentheses or without. A string with interpolations
is text and values by turns, however many literals it was written as.
-/

namespace Testbook.Python

open Testbook.Text Testbook.Number

/-- The value of a literal. Imaginary numbers and the long integers of old are numerals. -/
inductive Literal where
  | integer (value : Nat)
  | float (value : Binary64)
  | numeral (text : Text)
  | text (value : Text)
  | bytes (value : List UInt8)
  deriving DecidableEq, Repr

/-- The tree of an expression: a node has the words and symbols that stand in it, and its parts. -/
inductive Tree where
  | literal (value : Literal)
  | node (kind : String) (words : List Text) (parts : List Tree)

/-- The value of an integer literal. -/
def integerValue (literal : Text) : Literal :=
  let numeral := withoutUnderscores literal
  if isImaginary numeral then .numeral numeral
  else
    let (base, digits) := integerBase numeral
    match valueIn? base digits with
    | some value => .integer value
    | none => .numeral numeral

/-- The value of a float literal. -/
def floatValue (literal : Text) : Literal :=
  let numeral := withoutUnderscores literal
  if isImaginary numeral then .numeral numeral else .float (.ofNumeral numeral)

/-- The value of adjacent string literals without interpolations. -/
def stringsValue (sources : List Text) : Literal :=
  let literals := sources.filterMap StringLiteral.split?
  if literals.all StringLiteral.isBytes && !literals.isEmpty then
    .bytes (literals.flatMap StringLiteral.bytes)
  else .text (literals.flatMap StringLiteral.text)

/-- The literals of a row as they were written, when none of them has interpolations. -/
def plainSources? : List Expr → Option (List Text)
  | [] => some []
  | .plain source :: es => (plainSources? es).map (source :: ·)
  | _ => none

/-! ### Text and values by turns -/

/-- Parts of a string with the texts in a row joined and empty ones dropped; `text` stands in front. -/
def joinTexts {α : Type} (text : Text) : List (Text ⊕ α) → List (Text ⊕ α)
  | [] => if text.isEmpty then [] else [.inl text]
  | .inl behind :: parts => joinTexts (text ++ behind) parts
  | .inr value :: parts =>
    (if text.isEmpty then [] else [.inl text]) ++ .inr value :: joinTexts [] parts

/-- The text that a literal without interpolations adds to a string with some. -/
def plainText (source : Text) : Text := ((StringLiteral.split? source).map StringLiteral.text).getD []

/-- The text of a stretch between interpolations, in which braces are doubled. -/
def chunkValue (raw : Bool) (source : Text) : Text :=
  if raw then undoubleBraces source else decodeText (undoubleBraces source)

/-- A part of a string as a tree. -/
def Tree.ofPart : Text ⊕ Tree → Tree
  | .inl text => .literal (.text text)
  | .inr value => value

/-! ### Trees -/

/-- The kind of node that a display is. -/
def Brackets.kind : Brackets → String
  | .round => "tuple"
  | .square => "list"
  | .curly => "braces"

/-- Several parts with commas as one part, a tuple. -/
def Tree.joined (hasComma : Bool) (parts : List Tree) : Tree :=
  match parts, hasComma with
  | [part], false => part
  | _, _ => .node "tuple" [] parts

mutual

/-- The tree of an expression. -/
def Expr.tree : Expr → Tree
  | .name id => .node "name" [id] []
  | .integer literal => .literal (integerValue literal)
  | .float literal => .literal (floatValue literal)
  | .constant word => .node "constant" [word] []
  | .plain source => .literal (stringsValue [source])
  | .format source pieces =>
    .node "format" [] ((joinTexts [] (treePieces (isRawLiteral source) pieces)).map .ofPart)
  | .chunk source => .node "chunk" [source] []
  | .interpolation value isShown conversion spec =>
    .node (if isShown then "shown" else "interpolation") (conversion :: spec.toList) [value.tree]
  | .strings parts =>
    match plainSources? parts with
    | some sources => .literal (stringsValue sources)
    | none => .node "format" [] ((joinTexts [] (treeParts parts)).map .ofPart)
  | .attribute object name => .node "attribute" [name] [object.tree]
  | .call function arguments => .node "call" [] (function.tree :: treeEach arguments)
  | .keyword name value => .node "keyword" [name] [value.tree]
  | .starred stars parts => .node "starred" [stars] (treeEach parts)
  | .paren parts => .joined false (treeEach parts)
  | .display brackets items => .node brackets.kind [] (treeEach items)
  | .pair key value => .node "pair" [] [key.tree, value.tree]
  | .comprehension brackets body clauses =>
    .node "comprehension" [brackets.kind.toList] (body.tree :: treeEach clauses)
  | .forClause isAsync target source hasComma =>
    .node (if isAsync then "async for" else "for") [] [target.tree, .joined hasComma (treeEach source)]
  | .ifClause parts => .node "if" [] (treeEach parts)
  | .conditional _ parts => .node "conditional" [] (treeEach parts)
  | .unary operator operand => .node "unary" [operator] [operand.tree]
  | .negation operand => .node "not" [] [operand.tree]
  | .binary operator left right => .node "binary" [operator] [left.tree, right.tree]
  | .boolean operator left right => .node "boolean" [operator] [left.tree, right.tree]
  | .comparison parts => .node "comparison" [] (treeEach parts)
  | .operator symbol => .node "operator" [symbol] []
  | .subscript value indices hasComma =>
    .node "subscript" [] [value.tree, .joined hasComma (treeEach indices)]
  | .slice lower upper step =>
    .node "slice" [] [treeBound lower, treeBound upper, treeBound step]
  | .lambda parameters body => .node "lambda" [] (treeEach parameters ++ [body.tree])
  | .defaulted name value => .node "defaulted" [] [name.tree, value.tree]
  | .verbatim source => .node "verbatim" [source] []
termination_by structural e => e

/-- The trees of several expressions. -/
def treeEach : List Expr → List Tree
  | [] => []
  | e :: es => e.tree :: treeEach es

/-- The texts and the trees of the values in a string with interpolations. -/
def treePieces (raw : Bool) : List Expr → List (Text ⊕ Tree)
  | [] => []
  | .chunk source :: es => .inl (chunkValue raw source) :: treePieces raw es
  | e :: es => .inr e.tree :: treePieces raw es

/-- The texts and the trees of the values in a row of strings, some with interpolations. -/
def treeParts : List Expr → List (Text ⊕ Tree)
  | [] => []
  | .plain source :: es => .inl (plainText source) :: treeParts es
  | .format source pieces :: es => treePieces (isRawLiteral source) pieces ++ treeParts es
  | _ :: es => treeParts es

/-- The tree of a bound of a slice, which there need not be. -/
def treeBound : Option Expr → Tree
  | none => .node "absent" [] []
  | some e => e.tree

end

end Testbook.Python
