import Testbook.Python.Expression

/-!
Reading statements. Simple statements end with their line; compound statements hold suites, which
are simple statements on the same line, an indented block, or nothing at all. The words that begin
statements of older versions of the language, `print` and `exec`, and those that begin statements
only in some places, `match` and `type`, are names wherever that gives a reading.
-/

namespace Testbook.Python

open Testbook.Text

/-- The clauses of comprehensions. -/
def Grammar.clauses (g : Grammar) : Reader (List Expr) := readClauses g g.steps

/-- Repeats a reader with commas between, as long as there are commas. -/
def readCommaList (g : Grammar) (after : Expect) (item : Reader Unit) : Reader Unit := do
  item
  iterate (fun _ => do
    if ← readOp? after "," then
      item
      return .inl ()
    else return .inr ()) g.steps ()

/-- Repeats a reader with commas between, where another comma may stand behind the last. The list
ends in front of `closing`, or where no operand begins if there is none. -/
def readOpenCommaList (g : Grammar) (after : Expect) (ends : Lexeme → Bool) (item : Reader Unit) :
    Reader Unit := do
  item
  iterate (fun _ => do
    if ← readOp? after "," then
      if ends (← peek after.orOperand) then return .inr ()
      else
        item
        return .inl ()
    else return .inr ()) g.steps ()

/-- Whether a simple statement ends here. -/
def Lexeme.endsStatement (l : Lexeme) : Bool := l.token = .newline || l.isOp ";"

/-- Reads on, and requires that the statement ends then. -/
def readWhole {α : Type} (reader : Reader α) : Reader α := do
  let a ← reader
  let l ← peek newlineNext
  if l.endsStatement then return a else refuse

/-! ### Types -/

/-- A type, in which a colon may add a constraint. -/
def readTypeHint (g : Grammar) (after : Expect) : Reader Unit := do
  let starred := do
    let l ← peek operandNext
    if l.isOp "**" then
      take l
      let _ ← readName
    else refuse
  let generic := do
    let _ ← readName
    readOp after "["
    readOpenCommaList g closerNext (·.isOp "]") (g.typeHint closerNext)
    readOp closerNext "]"
  let plain := do let _ ← g.expression anyLevel {} after
  either plain (either starred generic)
  iterate (fun _ => do
    let l ← peek after
    if l.isOp "|" || l.isOp ":" then
      take l
      g.typeHint after
      return .inl ()
    else if l.isOp "." then
      take l
      let _ ← readName
      return .inl ()
    else return .inr ()) g.steps ()

/-- Type parameters in brackets, if there are any. -/
def readTypeParameters (g : Grammar) : Reader Unit := do
  if ← readOp? {} "[" then
    readOpenCommaList g closerNext (·.isOp "]") (g.typeHint closerNext)
    readOp closerNext "]"

/-! ### Simple statements -/

/-- The operators that change a variable in place. -/
def updateOperators : List String :=
  ["+=", "-=", "*=", "/=", "@=", "//=", "%=", "**=", ">>=", "<<=", "&=", "^=", "|="]

/-- Expressions as a statement lists them: all of them, and whether there was a comma. -/
def readListed (g : Grammar) (opening : Expect) : Reader (Expr × List Expr × Bool) := do
  let first ← g.expression anyLevel opening newlineNext
  iterate (fun (items, isTuple) => do
    let comma ← peek newlineNext
    if !comma.isOp "," then return .inr (first, items, isTuple)
    take comma
    let l ← peek newlineNext.orOperand
    if l.token.startsExpression then
      let item ← g.expression anyLevel newlineNext newlineNext
      return .inl (items ++ comma.gap ++ l.gap ++ [item], true)
    else return .inl (items ++ comma.gap, true)) g.steps ([first], false)

/-- What stands to the right of an equals sign. A further assignment there is kept as it was
written; `depth` bounds how many follow. -/
def readAssigned (g : Grammar) : Nat → Reader Expr
  | 0 => refuse
  | depth + 1 => do
    let l ← peek operandNext
    if l.isWord "yield" then readYield g l newlineNext
    else
      let (first, items, isTuple) ← readListed g {}
      let value := if isTuple then .display .round items else first
      let operator ← peek newlineNext
      match operator.token with
      | .op symbol =>
        if symbol = "=" || symbol ∈ updateOperators then
          if (asPattern? value).isNone then refuse
          take operator
          let _ ← readAssigned g depth
          verbatimSince l.start
        else if symbol = ":" then
          if (asPattern? value).isNone then refuse
          take operator
          g.typeHint newlineNext
          if ← readOp? newlineNext "=" then
            let _ ← readAssigned g depth
          verbatimSince l.start
        else return value
      | _ => return value

/-- A statement that begins with an expression: the expression itself, or an assignment. -/
def readExpressionStatement (g : Grammar) (opening : Expect) : Reader Stmt := do
  let l ← peek opening.orOperand
  if l.isWord "yield" then
    return .expression (← readYield g l newlineNext)
  let (first, items, isTuple) ← readListed g opening
  let target := if isTuple then .display .round items else first
  let operator ← peek newlineNext
  match operator.token with
  | .op symbol =>
    if symbol = "=" then
      if (asPattern? target).isNone then refuse
      take operator
      return .assignment target (some (← readAssigned g g.steps))
    else if symbol ∈ updateOperators then
      if (asPattern? target).isNone then refuse
      take operator
      let _ ← readAssigned g g.steps
      return .other
    else if symbol = ":" then
      if (asPattern? target).isNone then refuse
      take operator
      g.typeHint newlineNext
      if ← readOp? newlineNext "=" then
        return .assignment target (some (← readAssigned g g.steps))
      else return .assignment target none
    else return .expression first
  | _ => return .expression first

/-- A name with points in it. -/
def readDotted (g : Grammar) (after : Expect) : Reader Unit := do
  let _ ← readName
  iterate (fun _ => do
    if ← readOp? after "." then
      let _ ← readName
      return .inl ()
    else return .inr ()) g.steps ()

/-- A dotted name that may be given another name. -/
def readImported (g : Grammar) (after : Expect) : Reader Unit := do
  readDotted g after
  if ← readWord? after "as" then
    let _ ← readName

/-- Imported names, in parentheses or not. -/
def readImportList (g : Grammar) : Reader Unit := do
  if ← readOp? {} "(" then
    readOpenCommaList g closerNext (·.isOp ")") (readImported g closerNext)
    readOp closerNext ")"
  else readOpenCommaList g newlineNext Lexeme.endsStatement (readImported g newlineNext)

/-- An import from a module, behind its first word. Nothing but names can be imported from the
module of future features, and a relative module may have no name. -/
def readFromImport (g : Grammar) : Reader Unit := do
  let dots ← iterate (fun dots => do
    if ← readOp? {} "." then return .inl (dots + 1)
    else if ← readOp? {} "..." then return .inl (dots + 1)
    else return .inr dots) g.steps 0
  let l ← peek {}
  if l.isWord "__future__" && dots = 0 then
    take l
    readWord {} "import"
    readImportList g
  else
    if !(dots > 0 && l.isWord "import") then readDotted g {}
    readWord {} "import"
    if !(← readOp? {} "*") then readImportList g

/-- Expressions with commas between, unless the statement ends. -/
def readOptionalExpressions (g : Grammar) : Reader Unit := do
  let l ← peek newlineNext.orOperand
  if l.token.startsExpression then
    let _ ← readExpressions g newlineNext newlineNext

/-- A raise statement, behind its first word. -/
def readRaise (g : Grammar) : Reader Unit := do
  let l ← peek newlineNext.orOperand
  if !l.isWord "from" then readOptionalExpressions g
  if ← readWord? newlineNext "from" then
    let _ ← g.expression anyLevel {} newlineNext

/-- A print statement of the older language, behind its first word. -/
def readPrint (g : Grammar) : Reader Unit := do
  if ← readOp? operandNext ">>" then
    let _ ← g.expression anyLevel {} newlineNext
    if ← readOp? newlineNext "," then readOptionalExpressions g
  else
    let _ ← readExpressions g {} newlineNext

/-- An exec statement of the older language, behind its first word. -/
def readExec (g : Grammar) : Reader Unit := do
  let l ← peek operandNext
  match l.token with
  | .opening o =>
    let _ ← readString g l o
  | .word _ => take l
  | _ => refuse
  if ← readWord? newlineNext "in" then
    readCommaList g newlineNext (do let _ ← g.expression anyLevel {} newlineNext)

/-- A type alias, behind its first word. -/
def readTypeAlias (g : Grammar) : Reader Unit := do
  g.typeHint {}
  readOp {} "="
  g.typeHint newlineNext

/-- A simple statement, without what ends it. -/
def readSimple (g : Grammar) (opening : Expect) : Reader Stmt := do
  let l ← peek opening.orOperand
  let plain := readWhole (readExpressionStatement g opening)
  let keyword (rest : Reader Unit) : Reader Stmt := do
    take l
    readWhole rest
    return .other
  match l.token with
  | .word w =>
    match String.ofList w with
    | "import" => keyword (readOpenCommaList g newlineNext Lexeme.endsStatement
        (readImported g newlineNext))
    | "from" => keyword (readFromImport g)
    | "assert" =>
      keyword (readCommaList g newlineNext (do let _ ← g.expression anyLevel {} newlineNext))
    | "return" => keyword (readOptionalExpressions g)
    | "del" => keyword (do let _ ← readExpressions g {} newlineNext)
    | "raise" => keyword (readRaise g)
    | "pass" | "break" | "continue" => keyword (return ())
    | "global" | "nonlocal" => keyword (readCommaList g newlineNext (do let _ ← readName))
    | "print" => either plain (keyword (readPrint g))
    | "exec" => either plain (keyword (readExec g))
    | "type" => either plain (keyword (readTypeAlias g))
    | _ => plain
  | _ => plain

/-- Simple statements with semicolons between them, up to the end of the line. -/
def readSimpleLine (g : Grammar) (opening : Expect) : Reader (List Stmt) := do
  iterate (fun (opening, statements) => do
    let statement ← readSimple g opening
    let statements := statements ++ [statement]
    let l ← peek newlineNext
    take l
    if l.isOp ";" then
      let l ← peek newlineNext.orOperand
      if l.token = .newline then
        take l
        return .inr statements
      else return .inl (newlineNext, statements)
    else return .inr statements) g.steps (opening, [])

/-! ### Compound statements -/

/-- Statements up to the end of a block, of which the margin was read. -/
def readBlock (g : Grammar) : Reader (List Stmt) := do
  iterate (fun statements => do
    let l ← peek { string := true, dedent := true }
    if l.token = .dedent then
      take l
      return .inr statements
    else return .inl (statements ++ (← g.statement true))) g.steps []

/-- What a compound statement holds, from its colon on. -/
def readSuite (g : Grammar) : Reader (List Stmt) := do
  readOp {} ":"
  let opening : Expect := { newline := true, indent := true, string := true }
  let l ← peek opening
  match l.token with
  | .indent =>
    take l
    readBlock g
  | .newline =>
    take l
    return []
  | _ => readSimpleLine g opening

/-- Where a statement may begin, and a clause that belongs to the last one. -/
def clauseNext (inBlock : Bool) : Expect := { string := true, dedent := inBlock }

/-- A clause with a word and a suite, if it is next. -/
def readClause? (g : Grammar) (e : Expect) (word : String) : Reader Bool := do
  if ← readWord? e word then
    let _ ← readSuite g
    return true
  else return false

/-- A conditional statement, behind its first word. -/
def readIf (g : Grammar) (inBlock : Bool) : Reader Unit := do
  let condition : Reader Unit := do
    let _ ← g.expression anyLevel {} {}
    let _ ← readSuite g
  condition
  iterate (fun _ => do
    if ← readWord? (clauseNext inBlock) "elif" then
      condition
      return .inl ()
    else return .inr ()) g.steps ()
  let _ ← readClause? g (clauseNext inBlock) "else"

/-- A loop over values, behind its first word. -/
def readFor (g : Grammar) (inBlock : Bool) : Reader Unit := do
  let _ ← readTargets g g.clauses
  readWord {} "in"
  let _ ← readExpressions g {} {}
  let _ ← readSuite g
  let _ ← readClause? g (clauseNext inBlock) "else"

/-- A loop with a condition, behind its first word. -/
def readWhile (g : Grammar) (inBlock : Bool) : Reader Unit := do
  let _ ← g.expression anyLevel {} {}
  let _ ← readSuite g
  let _ ← readClause? g (clauseNext inBlock) "else"

/-- A handler of exceptions, behind its first word. -/
def readHandler (g : Grammar) : Reader Unit := do
  let l ← peek operandNext
  if !l.isOp ":" then
    let _ ← g.expression anyLevel {} {}
    if ← readOp? {} "," then
      let _ ← g.expression anyLevel {} {}
  let _ ← readSuite g

/-- A statement with handlers, behind its first word. -/
def readTry (g : Grammar) (inBlock : Bool) : Reader Unit := do
  let _ ← readSuite g
  let later := { clauseNext inBlock with handler := true }
  if ← readClause? g { handler := true } "finally" then return ()
  readWord { handler := true } "except"
  readHandler g
  iterate (fun _ => do
    if ← readWord? later "except" then
      readHandler g
      return .inl ()
    else return .inr ()) g.steps ()
  let _ ← readClause? g later "else"
  let _ ← readClause? g (clauseNext inBlock) "finally"

/-- A statement with contexts, behind its first word. -/
def readWith (g : Grammar) : Reader Unit := do
  let _ ← readExpressions g {} {}
  let _ ← readSuite g

/-- The line that a text behind `start` begins on. -/
def lineOf (g : Grammar) (start : Text) : Nat :=
  (g.source.take (g.source.length - start.length)).count '\n' + 1

/-- A parameter of a function. -/
def readParameter (g : Grammar) : Reader Unit := do
  let typed : Reader Unit := do
    if ← readOp? closerNext ":" then g.typeHint closerNext
  let defaulted : Reader Unit := do
    if ← readOp? closerNext "=" then
      let _ ← g.expression anyLevel {} closerNext
  let pattern : Reader Unit := do
    let value ← readPrimary g g.clauses {} closerNext
    if (asPattern? value).isNone then refuse
  let l ← peek closerNext
  match l.token with
  | .word _ =>
    take l
    typed
    defaulted
  | .op "/" => take l
  | .op "(" =>
    pattern
    defaulted
  | .op symbol =>
    if symbol ∈ ["*", "**"] then
      take l
      let inner ← peek closerNext
      match inner.token with
      | .word _ =>
        pattern
        typed
      | _ => if symbol != "*" then refuse
    else refuse
  | _ => refuse

/-- The parameters of a function in parentheses. When a colon stands right behind the opening
parenthesis, the closing one is missing. -/
def readParameters (g : Grammar) : Reader Unit := do
  readOp {} "("
  let behind := (← get).rest
  if (← peek closerNext).isOp ":" then throw (.missingParenthesis behind)
  if !(← readOp? closerNext ")") then
    readOpenCommaList g closerNext (·.isOp ")") (readParameter g)
    readOp closerNext ")"

/-- A function definition, behind its first words. -/
def readFunction (g : Grammar) (isAsync : Bool) (line : Nat) : Reader Stmt := do
  let name ← readName
  readTypeParameters g
  readParameters g
  if ← readOp? {} "->" then
    let _ ← g.expression anyLevel {} {}
  return .function isAsync line name (← readSuite g)

/-- A class definition, behind its first word. -/
def readClass (g : Grammar) (line : Nat) : Reader Stmt := do
  let name ← readName
  readTypeParameters g
  if ← readOp? {} "(" then
    let _ ← readArguments g refuse
  return .classDef line name (← readSuite g)

/-- A definition of a function or a class, of which the first word is next. -/
def readDefinition (g : Grammar) (l : Lexeme) : Reader Stmt := do
  take l
  if l.isWord "def" then readFunction g false (lineOf g l.start)
  else if l.isWord "class" then readClass g (lineOf g l.start)
  else if l.isWord "async" then
    readWord {} "def"
    readFunction g true (lineOf g l.start)
  else refuse

/-- A definition with decorators. -/
def readDecorated (g : Grammar) (opening : Expect) : Reader Stmt := do
  let decorators ← iterate (fun (opening, decorators) => do
    if ← readOp? opening "@" then
      let l ← peek operandNext
      let expression ← g.expression anyLevel {} newlineNext
      let l' ← peek newlineNext
      if l'.token != .newline then refuse
      take l'
      return .inl ({}, decorators ++ [l.gap.head?.getD expression])
    else return .inr decorators) g.steps (opening, [])
  return .decorated decorators (← readDefinition g (← peek {}))

/-! ### Cases -/

/-- A number in a pattern, with a sign or as a sum of two parts. -/
def readNumberPattern (after : Expect) : Reader Unit := do
  let number : Reader Unit := do
    let l ← peek {}
    match l.token with
    | .integer _ | .float _ => take l
    | _ => refuse
  let _ ← readOp? {} "-"
  number
  let l ← peek after
  if l.isOp "+" || l.isOp "-" then
    take l
    number

/-- An entry of a mapping pattern. -/
def readEntryPattern (g : Grammar) : Reader Unit := do
  g.casePattern {}
  if ← readOp? closerNext ":" then g.casePattern closerNext

/-- A pattern of a case without alternatives. -/
def readSinglePattern (g : Grammar) (after : Expect) : Reader Unit := do
  let bracketed (closing : String) (item : Reader Unit) : Reader Unit := do
    if !(← readOp? { closer := true, string := true } closing) then
      readOpenCommaList g closerNext (·.isOp closing) item
      readOp closerNext closing
  let l ← peek operandNext
  match l.token with
  | .word _ =>
    readDotted g after
    if ← readOp? after "(" then bracketed ")" (g.casePattern closerNext)
    else if ← readOp? after "=" then g.casePattern after
  | .opening o =>
    let _ ← readStrings g l o after
  | .integer _ | .float _ => readNumberPattern after
  | .op "-" => readNumberPattern after
  | .op "(" =>
    take l
    bracketed ")" (g.casePattern closerNext)
  | .op "[" =>
    take l
    bracketed "]" (g.casePattern closerNext)
  | .op "\x7b" =>
    take l
    bracketed "\x7d" (readEntryPattern g)
  | .op symbol =>
    if symbol ∈ ["*", "**"] then
      take l
      let _ ← readName
    else refuse
  | _ => refuse

/-- A pattern of a case. -/
def readCasePattern (g : Grammar) (after : Expect) : Reader Unit := do
  readSinglePattern g after
  iterate (fun _ => do
    if ← readOp? after "|" then
      readSinglePattern g after
      return .inl ()
    else if ← readWord? after "as" then
      let _ ← readName
      return .inl ()
    else return .inr ()) g.steps ()

/-- A case, behind its first word. -/
def readCase (g : Grammar) : Reader Unit := do
  readOpenCommaList g {} (fun l => l.isOp ":" || l.isWord "if") (g.casePattern {})
  if ← readWord? {} "if" then
    let _ ← g.expression anyLevel {} {}
  let _ ← readSuite g

/-- A match statement, behind its first word. -/
def readMatch (g : Grammar) : Reader Unit := do
  let _ ← readExpressions g {} {}
  readOp {} ":"
  let l ← peek { newline := true, indent := true }
  match l.token with
  | .newline => take l
  | .indent =>
    take l
    iterate (fun _ => do
      let l ← peek { dedent := true }
      take l
      if l.token = .dedent then return .inr ()
      else if l.isWord "case" then
        readCase g
        return .inl ()
      else refuse) g.steps ()
  | _ => refuse

/-! ### Statements -/

/-- An asynchronous statement, when one is next: the word is a name elsewhere. -/
def readAsync (g : Grammar) (inBlock : Bool) (l : Lexeme) : Reader (List Stmt) := do
  let c ← get
  take l
  let second ← peek operandNext
  take second
  if second.isWord "def" then return [← readFunction g true (lineOf g l.start)]
  else if second.isWord "for" then
    readFor g inBlock
    return [.other]
  else if second.isWord "with" then
    readWith g
    return [.other]
  else
    set c
    readSimpleLine g (clauseNext inBlock)

/-- A statement, or the simple statements of a line. -/
def readStatement (g : Grammar) (inBlock : Bool) : Reader (List Stmt) := do
  let opening := clauseNext inBlock
  let l ← peek opening
  let compound (rest : Reader Unit) : Reader (List Stmt) := do
    take l
    rest
    return [.other]
  match l.token with
  | .op "@" => return [← readDecorated g opening]
  | .word w =>
    match String.ofList w with
    | "if" => compound (readIf g inBlock)
    | "for" => compound (readFor g inBlock)
    | "while" => compound (readWhile g inBlock)
    | "try" => compound (readTry g inBlock)
    | "with" => compound (readWith g)
    | "def" | "class" => return [← readDefinition g l]
    | "async" => readAsync g inBlock l
    | "match" => either (readSimpleLine g opening) (compound (readMatch g))
    | _ => readSimpleLine g opening
  | _ => readSimpleLine g opening

end Testbook.Python
