import Testbook.Text.Basic

/-!
The syntax trees of program text, as far as they are looked at: expressions in full, since
decorators and marks are written out again, and statements only where they define, document or
assign something. What is never looked into is kept as it was written.
-/

namespace Testbook.Python

/-- The brackets of a display. -/
inductive Brackets where
  | round | square | curly
  deriving DecidableEq, Repr

/-- The opening bracket. -/
def Brackets.opening : Brackets → Char
  | .round => '('
  | .square => '['
  | .curly => '{'

/-- The closing bracket. -/
def Brackets.closing : Brackets → Char
  | .round => ')'
  | .square => ']'
  | .curly => '}'

/-- An expression, or a part of one. Lists of parts hold, as `verbatim`, also the line
continuations that stand between the parts. -/
inductive Expr where
  | name (id : Text)
  | integer (literal : Text)
  | float (literal : Text)
  | constant (word : Text)
  /-- a string literal without interpolation, as written -/
  | plain (source : Text)
  /-- a string literal with interpolation: as written, and its pieces -/
  | format (source : Text) (pieces : List Expr)
  /-- what stands between the interpolations, as written -/
  | chunk (source : Text)
  /-- an interpolated value, whether an equals sign shows it beside its text, and its format -/
  | interpolation (value : Expr) (isShown : Bool) (conversion : Text) (spec : Option Text)
  /-- adjacent string literals, which form one string -/
  | strings (parts : List Expr)
  | attribute (object : Expr) (name : Text)
  | call (function : Expr) (arguments : List Expr)
  | keyword (name : Text) (value : Expr)
  | starred (stars : Text) (parts : List Expr)
  | paren (parts : List Expr)
  /-- a list, tuple, set or dictionary, or a tuple without its brackets -/
  | display (brackets : Brackets) (items : List Expr)
  | pair (key value : Expr)
  | comprehension (brackets : Brackets) (body : Expr) (clauses : List Expr)
  /-- what is iterated over, and whether a comma stands behind it -/
  | forClause (isAsync : Bool) (target : Expr) (source : List Expr) (hasComma : Bool)
  | ifClause (parts : List Expr)
  /-- as written, and what it yields, when, and otherwise -/
  | conditional (source : Text) (parts : List Expr)
  | unary (operator : Text) (operand : Expr)
  | negation (operand : Expr)
  | binary (operator : Text) (left right : Expr)
  | boolean (operator : Text) (left right : Expr)
  /-- a chain of comparisons: operands with operators between them -/
  | comparison (parts : List Expr)
  | operator (symbol : Text)
  /-- the subscripts, and whether a comma stands behind the last -/
  | subscript (value : Expr) (indices : List Expr) (hasComma : Bool)
  | slice (lower upper step : Option Expr)
  | lambda (parameters : List Expr) (body : Expr)
  | defaulted (name value : Expr)
  | verbatim (source : Text)

/-- A statement. -/
inductive Stmt where
  /-- an expression statement, by its first expression -/
  | expression (first : Expr)
  /-- an assignment: what is assigned to, and the value if there is one -/
  | assignment (target : Expr) (value : Option Expr)
  | function (isAsync : Bool) (line : Nat) (name : Text) (body : List Stmt)
  | classDef (line : Nat) (name : Text) (body : List Stmt)
  | decorated (decorators : List Expr) (definition : Stmt)
  | other

end Testbook.Python
