import Testbook.Python.StringReader

/-!
Reading expressions. Operators bind by strength; conditional expressions, the forms with `as`,
`or`, `and` and `not` bind more weakly than comparisons, and these more weakly than the operators
of arithmetic. A word that is no keyword where it stands is a name. An expression that is never
looked into, such as one with `await` or `yield`, is kept as it was written.
-/

namespace Testbook.Python

open Testbook.Text

/-- The words that are constants. -/
def isConstant (word : Text) : Bool := ["True".toList, "False".toList, "None".toList].contains word

/-- Whether a word is never a name at the start of an expression. -/
def isReservedOperand (word : Text) : Bool :=
  isConstant word || ["lambda".toList, "not".toList].contains word

/-- The strength of an operator of arithmetic. -/
def strength? (symbol : String) : Option Nat :=
  if symbol = "|" then some 14
  else if symbol = "&" then some 15
  else if symbol = "^" then some 16
  else if symbol ∈ ["<<", ">>"] then some 17
  else if symbol ∈ ["+", "-"] then some 18
  else if symbol ∈ ["*", "/", "//", "%", "@"] then some 19
  else if symbol = "**" then some 21
  else none

/-- The strength of the weakest operator of arithmetic. -/
def weakestOperator : Nat := 14

/-- The strength that an operand of a sign must have. -/
def signOperand : Nat := 21

/-- The levels of expressions: all of them; what may be iterated over; values of named
expressions; operands of `as`, of `or`, and of `and` and `not`. -/
def anyLevel : Nat := 0
def iterableLevel : Nat := 1
def namedLevel : Nat := 2
def asLevel : Nat := 3
def orLevel : Nat := 4
def andLevel : Nat := 5

/-! ### Patterns -/

/-- Whether an expression may follow a star in a pattern: a name, an attribute or a subscript,
which may be called. -/
def isStarTarget : Expr → Bool
  | .name _ | .attribute .. | .subscript .. => true
  | .call function _ => isStarTarget function
  | _ => false

/-- An expression read as a pattern: names, attributes, subscripts and starred ones, and tuples and
lists of patterns, where parentheses make a tuple. -/
def asPattern? : Expr → Option Expr
  | .name id => some (.name id)
  | .attribute object name => some (.attribute object name)
  | .subscript value indices hasComma => some (.subscript value indices hasComma)
  | .starred stars parts => if parts.getLast?.any isStarTarget then some (.starred stars parts) else none
  | .paren parts => (asPatterns? parts).map (.display .round)
  | .display .round items => (asPatterns? items).map (.display .round)
  | .display .square items => (asPatterns? items).map (.display .square)
  | .verbatim source => if source.head? = some '\\' then some (.verbatim source) else none
  | _ => none
where
  /-- The patterns of a list of expressions. -/
  asPatterns? : List Expr → Option (List Expr)
    | [] => some []
    | item :: items => do return (← asPattern? item) :: (← asPatterns? items)

/-! ### Atoms -/

/-- Whether a word, within brackets, opens a clause of a comprehension. -/
def Lexeme.opensClause (l : Lexeme) : Bool := l.isWord "for" || l.isWord "async"

/-- Whether clauses may stand behind an item: it is an expression, or a key with its value. -/
def isBody : Expr → Bool
  | .keyword .. => false
  | .starred stars parts => stars = ['*'] && parts.getLast?.any isStarTarget
  | _ => true

/-- The items read so far, how many commas stood behind one, and whether there was a comma at all. -/
abbrev ItemsState := List Expr × Nat × Bool

/-- One step along the items of a display, an argument list or the like: an item with what stands
behind it, or the end. -/
def readItem (closing : String) (emptyComma : Bool) (item : Reader Expr)
    (clauses : Reader (List Expr)) : ItemsState → Reader (ItemsState ⊕ List Expr × Bool × List Expr)
  | (items, count, comma) => do
    let finish (gap items : List Expr) (comma : Bool) := do
      readOp closerNext closing
      return .inr (items ++ gap, comma, [])
    let l ← peek { closer := true, string := true }
    if l.isOp closing then finish l.gap items comma
    else if l.isOp "," && emptyComma && count = 0 then
      take l
      let l ← peek closerNext
      finish l.gap items true
    else
      let read ← item
      let items := items ++ l.gap ++ [read]
      let l ← peek closerNext
      if l.isOp closing then finish l.gap items comma
      else if l.isOp "," then
        take l
        return .inl (items ++ l.gap, count + 1, true)
      else if l.opensClause && count = 0 && isBody read then
        let clauses ← clauses
        readOp closerNext closing
        return .inr ([read], false, clauses)
      else refuse

/-- The items of a display, an argument list or the like, up to the closing bracket. `item` reads
one of them; a clause behind the first makes a comprehension, which `clauses` reads. Yields the
items, whether there was a comma, and the clauses. -/
def readItems (g : Grammar) (closing : String) (emptyComma : Bool) (item : Reader Expr)
    (clauses : Reader (List Expr)) : Reader (List Expr × Bool × List Expr) :=
  iterate (readItem closing emptyComma item clauses) g.steps ([], 0, false)

/-- An expression with stars in front, of which the stars are next. -/
def readStarred (g : Grammar) (l : Lexeme) (stars : Text) (after : Expect) : Reader Expr := do
  take l
  let inner ← peek operandNext
  let value ← g.expression anyLevel {} after
  return .starred stars (inner.gap ++ [value])

/-- An element of a list, tuple or set. -/
def readElement (g : Grammar) : Reader Expr := do
  let l ← peek closerNext.orOperand
  if l.isOp "*" then readStarred g l "*" closerNext
  else if l.isWord "yield" then
    let value ← readYield g l closerNext
    if (← peek closerNext).opensClause then refuse else return value
  else g.expression anyLevel closerNext closerNext

/-- An argument of a call. -/
def readArgument (g : Grammar) : Reader Expr := do
  let l ← peek closerNext.orOperand
  match l.token with
  | .op "*" => readStarred g l "*" closerNext
  | .op "**" => readStarred g l "**" closerNext
  | .word w =>
    let c ← get
    take l
    if !isReservedOperand w && (← readOp? {} "=") then
      return .keyword w (← g.expression anyLevel {} closerNext)
    else
      set c
      g.expression anyLevel closerNext closerNext
  | _ => g.expression anyLevel closerNext closerNext

/-- An entry of a dictionary, or an element of a set. -/
def readEntry (g : Grammar) : Reader Expr := do
  let l ← peek closerNext.orOperand
  if l.isOp "**" then readStarred g l "**" closerNext
  else
    let key ← readElement g
    if ← readOp? closerNext ":" then return .pair key (← g.expression anyLevel {} closerNext)
    else return key

/-- Whether an item belongs to a dictionary rather than to a set. -/
def isEntry : Expr → Bool
  | .pair .. => true
  | .starred stars _ => stars = ['*', '*']
  | _ => false

/-- Whether an item is a line continuation between items. -/
def isGap : Expr → Bool
  | .verbatim source => source.head? = some '\\'
  | _ => false

/-- A display or comprehension in square brackets, behind the opening one. -/
def readSquare (g : Grammar) (clauses : Reader (List Expr)) : Reader Expr := do
  let (items, _, clauses) ← readItems g "]" false (readElement g) clauses
  match items, clauses with
  | [body], _ :: _ => return .comprehension .square body clauses
  | _, _ => return .display .square items

/-- A display or comprehension in braces, behind the opening one. A dictionary holds entries only
and a set none; a lone comma stands for no entries. -/
def readCurly (g : Grammar) (clauses : Reader (List Expr)) : Reader Expr := do
  let (items, _, clauses) ← readItems g "\x7d" true (readEntry g) clauses
  let parts := items.filter (!isGap ·)
  if !parts.all isEntry && parts.any isEntry then refuse
  else match items, clauses with
    | [body], _ :: _ => return .comprehension .curly body clauses
    | _, _ => return .display .curly items

/-- What stands in parentheses, behind the opening one: an expression, a tuple, or a generator. -/
def readRound (g : Grammar) (clauses : Reader (List Expr)) : Reader Expr := do
  let (items, comma, clauses) ← readItems g ")" false (readElement g) clauses
  match items, clauses with
  | [body], _ :: _ => return .comprehension .round body clauses
  | _, _ =>
    if comma || (items.filter (!isGap ·)).isEmpty then return .display .round items
    else return .paren items

/-- The arguments of a call, behind the opening parenthesis. -/
def readArguments (g : Grammar) (clauses : Reader (List Expr)) : Reader (List Expr) := do
  let (items, _, clauses) ← readItems g ")" true (readArgument g) clauses
  match items, clauses with
  | [body], _ :: _ => return [.comprehension .round body clauses]
  | _, _ => return items

/-- A part of a slice: an expression unless a colon or the end is next. A line continuation behind
the expression counts in its place. -/
def readSlicePart (g : Grammar) : Reader (Option Expr) := do
  let l ← peek { closer := true, string := true }
  if l.isOp ":" then return l.gap.getLast?
  else if l.isOp "]" || l.isOp "," then return none
  else
    let value ← g.expression anyLevel closerNext closerNext
    let l ← peek closerNext
    if l.isOp ":" then return l.gap.getLast?.getD value else return some value

/-- A subscript: an expression, or a slice with colons. -/
def readIndex (g : Grammar) : Reader Expr := do
  let c ← get
  let l ← peek operandNext
  let lower ← if l.isOp ":" then pure none else do
    let value ← g.expression anyLevel {} closerNext
    let l ← peek closerNext
    if l.isOp ":" then pure (some (l.gap.getLast?.getD value)) else pure (some value)
  if ← readOp? closerNext ":" then
    let upper ← readSlicePart g
    if ← readOp? closerNext ":" then return .slice lower upper (← readSlicePart g)
    else return .slice lower upper none
  else match lower with
    | some value => return value
    | none =>
      set c
      refuse

/-- The subscripts behind an opening bracket, at least one, and whether a comma stands behind the
last. -/
def readIndices (g : Grammar) : Reader (List Expr × Bool) := do
  let first ← readIndex g
  iterate (fun indices => do
    if ← readOp? closerNext "," then
      if ← readOp? closerNext "]" then return .inr (indices, true)
      else return .inl (indices ++ [← readIndex g])
    else
      readOp closerNext "]"
      return .inr (indices, false)) g.steps [first]

/-- A word as an expression. -/
def wordExpr (word : Text) : Expr := if isConstant word then .constant word else .name word

/-- One step along attributes, calls and subscripts. -/
def readTrailer (g : Grammar) (clauses : Reader (List Expr)) (after : Expect) (value : Expr) :
    Reader (Expr ⊕ Expr) := do
  let l ← peek after
  match l.token with
  | .op "." =>
    take l
    return .inl (.attribute value (← readName))
  | .op "(" =>
    take l
    return .inl (.call value (← readArguments g clauses))
  | .op "[" =>
    take l
    let (indices, hasComma) ← readIndices g
    return .inl (.subscript value indices hasComma)
  | _ => return .inr value

/-- An operand without what may follow it. -/
def readAtom (g : Grammar) (clauses : Reader (List Expr)) (opening after : Expect) :
    Reader Expr := do
  let l ← peek opening.orOperand
  match l.token with
  | .word w =>
    take l
    return wordExpr w
  | .integer text =>
    take l
    return .integer text
  | .float text =>
    take l
    return .float text
  | .opening o => readStrings g l o after
  | .op "..." =>
    take l
    return .constant "..."
  | .op "(" =>
    take l
    readRound g clauses
  | .op "[" =>
    take l
    readSquare g clauses
  | .op "\x7b" =>
    take l
    readCurly g clauses
  | _ => refuse

/-- An operand with its attributes, calls and subscripts. -/
def readPrimary (g : Grammar) (clauses : Reader (List Expr)) (opening after : Expect) :
    Reader Expr := do
  let l ← peek opening.orOperand
  if l.isOp "*" then
    take l
    let inner ← peek operandNext
    let atom ← readAtom g clauses {} after
    let value ← iterate (readTrailer g clauses after) g.steps atom
    if isStarTarget value then return .starred ['*'] (inner.gap ++ [value]) else refuse
  else
    let atom ← readAtom g clauses opening after
    iterate (readTrailer g clauses after) g.steps atom

/-! ### Comprehensions -/

/-- A pattern, which is read as the expression that it looks like. -/
def readPattern (g : Grammar) (clauses : Reader (List Expr)) : Reader Expr := do
  let value ← readPrimary g clauses {} {}
  match asPattern? value with
  | some pattern => return pattern
  | none => refuse

/-- What a loop assigns to: a pattern, or several with commas between them. -/
def readTargets (g : Grammar) (clauses : Reader (List Expr)) : Reader Expr := do
  let first ← readPattern g clauses
  iterate (fun (items, isTuple) => do
    let comma ← peek {}
    if !comma.isOp "," then return .inr (if isTuple then .display .round items else first)
    take comma
    let l ← peek operandNext
    if l.isWord "in" then return .inl (items ++ comma.gap, true)
    else
      let item ← readPattern g clauses
      return .inl (items ++ comma.gap ++ l.gap ++ [item], true)) g.steps ([first], false)

/-- What a clause iterates over: expressions with commas between them, which are kept, and whether a
comma stands behind the last. -/
def readIterables (g : Grammar) : Reader (List Expr × Bool) := do
  let first ← g.expression iterableLevel {} closerNext
  iterate (fun items => do
    if !(← readOp? closerNext ",") then return .inr (items, false)
    let l ← peek { closer := true, string := true }
    if l.token.startsExpression && !l.opensClause && !l.isWord "if" then
      let item ← g.expression iterableLevel {} closerNext
      return .inl (items ++ [.verbatim [','], item])
    else return .inr (items, true)) g.steps [first]

/-- One step along the clauses of a comprehension, where `inner` reads clauses within a target. -/
def readClause (g : Grammar) (inner : Reader (List Expr)) (clauses : List Expr) :
    Reader (List Expr ⊕ List Expr) := do
  let l ← peek closerNext
  if l.opensClause then
    let isAsync ← readWord? closerNext "async"
    readWord {} "for"
    let target ← readTargets g inner
    readWord {} "in"
    let (iterables, hasComma) ← readIterables g
    return .inl (clauses ++ [.forClause isAsync target iterables hasComma])
  else if l.isWord "if" then
    take l
    let l ← peek operandNext
    let condition ← g.expression namedLevel {} closerNext
    return .inl (clauses ++ [.ifClause (l.gap ++ [condition])])
  else return .inr clauses

/-- The clauses of a comprehension, the first of which is next; `steps` bounds how deep clauses may
hold comprehensions again before another bracket opens. -/
def readClauses (g : Grammar) : Nat → Reader (List Expr)
  | 0 => refuse
  | steps + 1 => iterate (readClause g (readClauses g steps)) g.steps []

/-! ### Operators -/

/-- Whether a token begins an operand of `await`. -/
def Token.startsAwaited : Token → Bool
  | .word w =>
    !(["if", "else", "and", "or", "in", "is", "not", "as", "for"].map String.toList).contains w
  | token => token.startsExpression

/-- An operand with its signs, or an awaited one. -/
def readSigned (g : Grammar) (opening after : Expect) : Reader Expr := do
  let primary := readPrimary g (readClauses g g.steps) opening after
  let l ← peek opening.orOperand
  match l.token with
  | .op symbol =>
    if symbol ∈ ["+", "-", "~"] then
      take l
      return .unary symbol.toList (← g.binary signOperand {} after)
    else primary
  | .word w =>
    if w = "await".toList then
      let c ← get
      take l
      if (← peek after.orOperand).token.startsAwaited then
        let _ ← g.binary signOperand {} after
        verbatimSince l.start
      else
        set c
        primary
    else primary
  | _ => primary

/-- One step along operators of at least the strength `least`. -/
def readArithmetic (g : Grammar) (least : Nat) (after : Expect) (left : Expr) :
    Reader (Expr ⊕ Expr) := do
  let l ← peek after
  match l.token with
  | .op symbol =>
    match strength? symbol with
    | some strength =>
      if least ≤ strength then
        take l
        let right ← g.binary (if symbol = "**" then strength else strength + 1) {} after
        return .inl (.binary symbol.toList left right)
      else return .inr left
    | none => return .inr left
  | _ => return .inr left

/-- Operands joined by operators of at least the strength `least`. Operators of one strength group
from the left, powers from the right. -/
def readBinary (g : Grammar) (least : Nat) (opening after : Expect) : Reader Expr := do
  let first ← readSigned g opening after
  iterate (readArithmetic g least after) g.steps first

/-- The comparison operator that is next. -/
def readComparison? (after : Expect) : Reader (Option (List Expr)) := do
  let l ← peek after
  let found (symbol : String) : Option (List Expr) := some (l.gap ++ [.operator symbol.toList])
  match l.token with
  | .op symbol =>
    if symbol ∈ ["<", "<=", "==", "!=", ">=", ">", "<>"] then
      take l
      return found symbol
    else return none
  | .word _ =>
    if l.isWord "in" then
      take l
      return found "in"
    else if l.isWord "is" then
      take l
      if ← readWord? {} "not" then return found "is not" else return found "is"
    else if l.isWord "not" then
      take l
      readWord {} "in"
      return found "not in"
    else return none
  | _ => return none

/-- One step along a chain of comparisons, given the operands and operators before it. -/
def readComparand (g : Grammar) (after : Expect) (parts : List Expr) :
    Reader (List Expr ⊕ Expr) := do
  match ← readComparison? after with
  | none =>
    match parts with
    | [single] => return .inr single
    | _ => return .inr (.comparison parts)
  | some operator =>
    let l ← peek operandNext
    let right ← g.binary weakestOperator {} after
    return .inl (parts ++ operator ++ l.gap ++ [right])

/-- A chain of comparisons. -/
def readComparisons (g : Grammar) (opening after : Expect) : Reader Expr := do
  let first ← g.binary weakestOperator opening after
  iterate (readComparand g after) g.steps [first]

/-! ### Expressions -/

/-- A parameter of an anonymous function. -/
def readLambdaParameter (g : Grammar) : Reader Expr := do
  let pattern := readPattern g (readClauses g g.steps)
  let defaulted (name : Expr) : Reader Expr := do
    if ← readOp? {} "=" then return .defaulted name (← g.expression anyLevel {} {})
    else return name
  let l ← peek {}
  match l.token with
  | .word w =>
    take l
    defaulted (.name w)
  | .op "/" =>
    take l
    return .constant ['/']
  | .op "(" => defaulted (← pattern)
  | .op symbol =>
    if symbol ∈ ["*", "**"] then
      take l
      let inner ← peek {}
      match inner.token with
      | .word _ =>
        let value ← pattern
        return .starred symbol.toList (inner.gap ++ [value])
      | _ => if symbol = "*" then return .constant ['*'] else refuse
    else refuse
  | _ => refuse

/-- One step along the parameters of an anonymous function. -/
def readLambdaParameters (g : Grammar) (parameters : List Expr) :
    Reader (List Expr ⊕ List Expr) := do
  let l ← peek {}
  if l.isOp ":" then return .inr parameters
  else
    let parameter ← readLambdaParameter g
    let parameters := if parameters.isEmpty then [parameter] else parameters ++ l.gap ++ [parameter]
    let comma ← peek {}
    if comma.isOp "," then
      take comma
      return .inl (parameters ++ comma.gap)
    else return .inr parameters

/-- An anonymous function, of which the first word is next. -/
def readLambda (g : Grammar) (l : Lexeme) (level : Nat) (after : Expect) : Reader Expr := do
  take l
  let parameters ← iterate (readLambdaParameters g) g.steps []
  readOp {} ":"
  let body ← g.expression (if level = iterableLevel then iterableLevel else anyLevel) {} after
  return .lambda parameters body

/-- A named expression, when one is next; it stays as it was written. -/
def readNamed? (g : Grammar) (l : Lexeme) (after : Expect) : Reader (Option Expr) := do
  match l.token with
  | .word w =>
    let c ← get
    take l
    if !isReservedOperand w && (← readOp? { after with walrus := true } ":=") then
      let _ ← g.expression namedLevel {} after
      return some (← verbatimSince l.start)
    else
      set c
      return none
  | _ => return none

/-- What stands in front of the weakest operators of an expression. -/
def readOperand (g : Grammar) (level : Nat) (opening after : Expect) : Reader Expr := do
  let l ← peek opening.orOperand
  if l.isWord "lambda" then readLambda g l level after
  else if l.isWord "not" then
    take l
    return .negation (← g.expression andLevel {} after)
  else match ← readNamed? g l after with
    | some named => return named
    | none => readComparisons g opening after

/-- One step along the operators of words behind what was read since `start`. -/
def readWordOperator (g : Grammar) (level : Nat) (after : Expect) (start : Text) (left : Expr) :
    Reader (Expr ⊕ Expr) := do
  let l ← peek after
  if l.isWord "or" && level < orLevel then
    take l
    return .inl (.boolean "or" left (← g.expression orLevel {} after))
  else if l.isWord "and" && level < andLevel then
    take l
    return .inl (.boolean "and" left (← g.expression andLevel {} after))
  else if l.isWord "as" && level < asLevel then
    take l
    let _ ← g.expression asLevel {} after
    return .inl (← verbatimSince start)
  else if l.isWord "if" && level = anyLevel then
    take l
    let behindIf ← peek operandNext
    let test ← g.expression anyLevel {} {}
    let wordElse ← peek {}
    readWord {} "else"
    let behindElse ← peek operandNext
    let orelse ← g.expression anyLevel {} after
    let parts := left :: l.gap ++ behindIf.gap ++ [test] ++ wordElse.gap ++ behindElse.gap ++ [orelse]
    return .inl (.conditional (← textSince start) parts)
  else return .inr left

/-- An expression of a level: no operator that is weaker than the level allows is read. -/
def readExpression (g : Grammar) (level : Nat) (opening after : Expect) : Reader Expr := do
  let start := (← peek opening.orOperand).start
  let first ← readOperand g level opening after
  iterate (readWordOperator g level after start) g.steps first

end Testbook.Python
