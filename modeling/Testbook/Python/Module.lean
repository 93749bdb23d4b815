import Testbook.Python.Docstring
import Testbook.Python.Render
import Testbook.Python.Statement

/-!
Modules: what a source file defines. `readModule` reads a whole source text; of its statements the
summary keeps the functions and classes at the top, their documentation and decorators, and the
marks that the file gives to all its tests. A text that is not a program has no summary at all.
-/

namespace Testbook.Python

open Testbook.Text

/-! ### Reading -/

/-- The grammar over a source text, in which constructs nest at most `depth` deep. -/
def grammar (source : Text) : Nat → Grammar
  | 0 => .nothing source
  | depth + 1 =>
    { source := source
      steps := depth
      expression := fun level opening after => readExpression (grammar source depth) level opening after
      binary := fun least opening after => readBinary (grammar source depth) least opening after
      typeHint := fun after => readTypeHint (grammar source depth) after
      casePattern := fun after => readCasePattern (grammar source depth) after
      statement := fun inBlock => readStatement (grammar source depth) inBlock }

/-- A depth that no program of the given length exceeds: a character opens at most four levels. -/
def depthFor (source : Text) : Nat := 4 * (source.length + 4)

/-- The statements of a source text. -/
def readStatements (g : Grammar) : Reader (List Stmt) :=
  iterate (fun statements => do
    let l ← peek (clauseNext false)
    if l.token = .finish then return .inr statements
    else return .inl (statements ++ (← g.statement false))) g.steps []

/-- The statements of a program, or why there are none. -/
def parseStatements (source : Text) : Except Fault (List Stmt) :=
  (readStatements (grammar source (depthFor source))).run' { rest := source }

/-! ### Summaries -/

/-- A function, or a method of a class. -/
structure Function where
  name : Text
  /-- the line of its first word, decorators not counted -/
  line : Nat
  docstring : Option Text
  decorators : List Text
  isAsync : Bool
  deriving DecidableEq, Repr

/-- A class with the methods that stand directly in it. -/
structure Class where
  name : Text
  line : Nat
  docstring : Option Text
  decorators : List Text
  methods : List Function
  deriving DecidableEq, Repr

/-- A definition at the top of a module. -/
inductive Definition where
  | function (f : Function)
  | classDef (c : Class)
  deriving DecidableEq, Repr

/-- What a source file defines. -/
structure Module where
  docstring : Option Text
  /-- the marks given to all tests of the file -/
  marks : List Text
  definitions : List Definition
  deriving DecidableEq, Repr

/-- The text that a literal stands for, unless it stands for bytes or is interpolated. -/
def plainText? : Expr → Option Text
  | .plain source => (StringLiteral.split? source).bind fun literal =>
    if literal.isBytes || literal.isFormat then none else some literal.text
  | _ => none

/-- The documentation that a list of statements begins with: a string, or several in a row. -/
def docstring? : List Stmt → Option Text
  | .expression (.strings parts) :: _ =>
    (parts.mapM plainText?).map fun texts => cleanDoc texts.flatten
  | _ => none

/-- A function among the statements of a module or class, with the decorators given to it. -/
def function? : Stmt → Option Function
  | .function isAsync line name body => some ⟨name, line, docstring? body, [], isAsync⟩
  | .decorated decorators (.function isAsync line name body) =>
    some ⟨name, line, docstring? body, decorators.map Expr.render, isAsync⟩
  | _ => none

/-- A class among the statements of a module, with the decorators given to it. -/
def class? : Stmt → Option Class
  | .classDef line name body => some ⟨name, line, docstring? body, [], body.filterMap function?⟩
  | .decorated decorators (.classDef line name body) =>
    some ⟨name, line, docstring? body, decorators.map Expr.render, body.filterMap function?⟩
  | _ => none

/-- A definition among the statements of a module. -/
def definition? (s : Stmt) : Option Definition :=
  ((function? s).map .function).or ((class? s).map .classDef)

/-- The name of the variable that holds the marks of a module. -/
def marksVariable : Text := "pytestmark"

/-- The marks in a value: the items of a list or tuple, or the value itself. -/
def marksOf : Expr → List Text
  | .display .square items => items.map Expr.render
  | .display .round items => items.map Expr.render
  | value => [value.render]

/-- The marks that a statement assigns, if it assigns any. -/
def marks? : Stmt → Option (List Text)
  | .assignment (.name id) (some value) => if id = marksVariable then some (marksOf value) else none
  | _ => none

/-- The summary of a module: of several assignments of marks the last one counts. -/
def Module.ofStatements (statements : List Stmt) : Module where
  docstring := docstring? statements
  marks := ((statements.filterMap marks?).getLast?).getD []
  definitions := statements.filterMap definition?

/-! ### Errors -/

/-- Where a source text is not a program, and what is wrong there. Lines and columns count from
one; columns count bytes. -/
structure SyntaxError where
  line : Nat
  column : Nat
  message : Text
  deriving DecidableEq, Repr

/-- A node with an error in the tree of a source text: a stretch that fits nowhere, or a token that was
put in where it is missing. Rows and columns count from zero; columns count bytes. -/
structure ErrorNode where
  row : Nat
  column : Nat
  /-- the token that is missing, if the node is one -/
  missing : Option Text
  deriving DecidableEq, Repr

/-- What to report of the first node with an error, if there is one. -/
def SyntaxError.ofNode : Option ErrorNode → SyntaxError
  | some ⟨row, column, some token⟩ => ⟨row + 1, column + 1, "missing '" ++ token ++ "'"⟩
  | some ⟨row, column, none⟩ => ⟨row + 1, column + 1, "invalid syntax"⟩
  | none => ⟨1, 1, "invalid syntax"⟩

/-- How a tree is made of a source text that is not a program, as far as it is reported: the first node
in it with an error. Which node that is says nothing about what a program means, so nothing is
supposed of it. -/
class Recovery where
  firstError? : Text → Option ErrorNode

/-- The row and column of a place in a source text, given by the text behind it. -/
def positionOf (source rest : Text) : Nat × Nat :=
  let before := source.take (source.length - rest.length)
  (before.count '\n', utf8Length (before.reverse.takeWhile (· != '\n')))

/-- A recovery that puts in the parenthesis behind a parameter list, and finds no other node. -/
instance (priority := low) Recovery.closing : Recovery where
  firstError? source := match parseStatements source with
    | .error (.missingParenthesis rest) =>
      let (row, column) := positionOf source rest
      some ⟨row, column, some ")"⟩
    | _ => none

/-- The module that a source text defines, or where it is not a program. -/
def readModule [Recovery] (source : Text) : Except SyntaxError Module :=
  match parseStatements source with
  | .ok statements => .ok (.ofStatements statements)
  | .error _ => .error (.ofNode (Recovery.firstError? source))

end Testbook.Python
