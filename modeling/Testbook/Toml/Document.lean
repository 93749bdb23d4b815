import Testbook.Toml.Scalar

/-!
Whole configuration texts. A text is read line by line into a tree of tables. A table may be
written in several ways, by a header, by a key with points, or by braces; what is written once
must not be written again in another way, and no key may stand for two values.
-/

namespace Testbook.Toml

open Testbook.Text

/-! ### Tables under construction -/

/-- What stands at a key: a finished value, a table that may still grow, or tables in a row. A
table is implied when only its parts have been written so far, and pointed when it was written by
a key with points. -/
inductive Node where
  | value (value : Value)
  | table (implied pointed : Bool) (entries : List (Text × Node))
  | row (tables : List (List (Text × Node)))

/-- The entries of a table. -/
abbrev Entries := List (Text × Node)

/-- Changes what stands at a key; the change is told whether anything does. -/
def alter (key : Text) (change : Option Node → Option Node) : Entries → Option Entries
  | [] => (change none).map fun node => [(key, node)]
  | (k, node) :: entries =>
    if k = key then (change (some node)).map fun node => (k, node) :: entries
    else (alter key change entries).map ((k, node) :: ·)

/-- Changes the table at a path. Tables on the way are made where there are none; in a row of
tables the last one is meant. By `pointed` keys only tables are reached that were implied. -/
def alterAt (pointed : Bool) : List Text → (Entries → Option Entries) → Entries → Option Entries
  | [], change, entries => change entries
  | key :: path, change, entries =>
    alter key (fun node =>
      match node with
      | none => (alterAt pointed path change []).map (.table true pointed)
      | some (.value _) => none
      | some (.table implied wasPointed inner) =>
        if pointed && !implied then none
        else (alterAt pointed path change inner).map (.table implied wasPointed)
      | some (.row tables) =>
        match tables.getLast? with
        | none => none
        | some last =>
          (alterAt pointed path change last).map fun last => .row (tables.dropLast ++ [last]))
      entries

/-- Adds a value at a new key. -/
def add (key : Text) (value : Value) : Entries → Option Entries :=
  alter key fun node => if node.isSome then none else some (.value value)

/-- Adds a value at a key with points. The last table on the way must be one written by such keys. -/
def addAt (path : List Text) (value : Value) (entries : Entries) : Option Entries :=
  match path.getLast? with
  | none => none
  | some key =>
    match path.dropLast.getLast? with
    | none => add key value entries
    | some parent =>
      alterAt true path.dropLast.dropLast
        (alter parent fun node =>
          match node with
          | none => (add key value []).map (.table true true)
          | some (.table true true inner) => (add key value inner).map (.table true true)
          | some _ => none) entries

/-- Opens a table by a header. -/
def openTable (path : List Text) (entries : Entries) : Option Entries :=
  match path.getLast? with
  | none => none
  | some key =>
    alterAt false path.dropLast
      (alter key fun node =>
        match node with
        | none => some (.table false false [])
        | some (.table true false inner) => some (.table false false inner)
        | some _ => none) entries

/-- Opens one more table of a row by a header. -/
def openRow (path : List Text) (entries : Entries) : Option Entries :=
  match path.getLast? with
  | none => none
  | some key =>
    alterAt false path.dropLast
      (alter key fun node =>
        match node with
        | none => some (.row [[]])
        | some (.row tables) => some (.row (tables ++ [[]]))
        | some _ => none) entries

mutual

/-- What a finished node stands for. -/
def Node.toValue : Node → Value
  | .value value => value
  | .table _ _ entries => .table (entriesToValues entries)
  | .row tables => .array (rowToValues tables)

/-- What finished entries stand for. -/
def entriesToValues : List (Text × Node) → List (Text × Value)
  | [] => []
  | (key, node) :: entries => (key, node.toValue) :: entriesToValues entries

/-- What finished tables in a row stand for. -/
def rowToValues : List (List (Text × Node)) → List Value
  | [] => []
  | entries :: tables => .table (entriesToValues entries) :: rowToValues tables

end

/-! ### Values -/

/-- An array, behind its opening bracket. -/
def readArray (value : Reader Value) : Reader Value :=
  repeating (fun items => do
    gap
    if ← expect? [']'] then return .inr (.array items)
    let item ← value
    let items := items ++ [item]
    gap
    if ← expect? [','] then return .inl items
    else
      expect [']']
      return .inr (.array items)) []

/-- A table in braces, behind the opening one. -/
def readInline (value : Reader Value) : Reader Value := do
  spaces
  if ← expect? ['\x7d'] then return .table []
  repeating (fun entries => do
    let path ← readKey
    expect ['=']
    spaces
    let item ← value
    spaces
    let entries ← addAt path item entries
    if ← expect? [','] then return .inl entries
    else
      expect ['\x7d']
      return .inr (.table (entriesToValues entries))) []

/-- A value that holds others down to the given depth. -/
def readValue : Nat → Reader Value
  | 0 => do readScalar (← (← peek))
  | depth + 1 => do
    let c ← (← peek)
    if c = '[' then
      expect [c]
      readArray (readValue depth)
    else if c = '\x7b' then
      expect [c]
      readInline (readValue depth)
    else readScalar c

/-! ### Lines -/

/-- The document as far as it was read: its entries and the table that the lines now belong to. -/
structure Draft where
  entries : Entries
  current : List Text

/-- Changes the table that the lines belong to. -/
def Draft.alterCurrent (draft : Draft) (change : Entries → Option Entries) : Option Draft :=
  (alterAt false draft.current change draft.entries).map fun entries => { draft with entries }

/-- A line with a key and its value. -/
def readPair (draft : Draft) : Reader Draft := do
  let path ← readKey
  expect ['=']
  spaces
  let value ← readValue maxDepth
  lineEnd
  draft.alterCurrent (addAt path value)

/-- A line with a header. -/
def readHeader (draft : Draft) : Reader Draft := do
  if ← expect? ['[', '['] then
    let path ← readKey
    expect [']', ']']
    lineEnd
    return ⟨← openRow path draft.entries, path⟩
  else
    expect ['[']
    let path ← readKey
    expect [']']
    lineEnd
    return ⟨← openTable path draft.entries, path⟩

/-- The lines of a document. -/
def readLines : Reader Entries := do
  spaces
  repeating (fun draft => do
    let next ← match ← peek with
      | none => return .inr draft.entries
      | some '#' => do
        comment?
        lineEnd
        pure draft
      | some '[' => readHeader draft
      | some c =>
        if c = '\n' || c = '\r' then
          if ← lineBreak? then pure draft else failure
        else readPair draft
    spaces
    return .inl next) ⟨[], []⟩

/-- Whether an entry comes before another one. -/
def precedes (a b : Text × Value) : Bool := !(b.1 < a.1)

/-- The entries of a configuration text in the order of their keys, if the text is one. A byte
order mark in front of it does not count. -/
def parse (text : Text) : Option (List (Text × Value)) :=
  let text := match text with
    | c :: rest => if c = '\ufeff' then rest else text
    | [] => []
  match readLines text with
  | some (entries, _) => some ((entriesToValues entries).mergeSort precedes)
  | none => none

end Testbook.Toml
