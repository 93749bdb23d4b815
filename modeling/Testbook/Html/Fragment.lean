import Testbook.Text.Blank

/-!
Fragments of markup read back as a tree of elements. Reading is strict where tags do not match and
lenient elsewhere: attributes are not looked at, character references are not resolved, comments
and instructions are passed over, and a last end tag may lack its closing bracket. An element is
known by its name, the range of bytes between its tags and the elements within.
-/

namespace Testbook.Html

open Testbook.Text

/-! ### Tokens -/

/-- A piece of markup. -/
inductive Token where
  | opening (name : Text)
  | closing (name : Text)
  | empty (name : Text)
  | characters (content : Text)
  /-- characters none of which are markup -/
  | verbatim
  /-- a comment, an instruction or a document type -/
  | passed
  deriving DecidableEq, Repr

/-- Blank characters within tags. -/
def isTagBlank (c : Char) : Bool := c = ' ' || c = '\r' || c = '\n' || c = '\t'

/-- What stands before the first closing bracket that `ends` accepts, given what stands before it,
and what follows. `before` is what was passed over, the last character first. -/
def untilBracket (ends : Text → Bool) (before : Text) : Text → Option (Text × Text)
  | [] => none
  | c :: cs =>
    if c = '>' && ends before.reverse then some (before.reverse, cs)
    else untilBracket ends (c :: before) cs

/-- What stands before the first closing bracket, and what follows; all of it without one. -/
def toBracket (text : Text) : Text × Text :=
  (text.takeWhile (· != '>'), (text.dropWhile (· != '>')).drop 1)

/-- What stands before the first closing bracket outside of quotes, and what follows. -/
def untilTagEnd (quote : Option Char) : Text → Option (Text × Text)
  | [] => none
  | c :: cs =>
    match quote with
    | none =>
      if c = '>' then some ([], cs)
      else
        let quote := if c = '\'' || c = '"' then some c else none
        (untilTagEnd quote cs).map fun (content, rest) => (c :: content, rest)
    | some q =>
      let quote := if c = q then none else some q
      (untilTagEnd quote cs).map fun (content, rest) => (c :: content, rest)

/-- An opening or empty tag, by what stands between its brackets. -/
def readTag (content : Text) : Token :=
  let name := content.takeWhile (!isTagBlank ·)
  if content.getLast? = some '/' then
    .empty (if name.length < content.length then name else name.dropLast)
  else .opening name

/-- Whether a text starts with a word, in either case. -/
def startsWithWord (word : Text) (text : Text) : Bool :=
  (text.take word.length).map Char.toLower = word

/-- A document type has as many opening as closing brackets within. -/
def isBalanced (content : Text) : Bool := content.count '<' = content.count '>'

/-- Whether what stands behind an exclamation mark can be a comment: dashes at both ends. -/
def isComment (content : Text) : Bool :=
  3 < content.length && (dropEnd? ['-', '-'] content).isSome

/-- Markup that opens with an exclamation mark, of which the text follows. -/
def readDeclaration : Text → Option (Token × Text)
  | '-' :: text =>
    match untilBracket isComment [] ('-' :: text) with
    | some (_, rest) => if text.head? = some '-' then some (.passed, rest) else none
    | none => none
  | '[' :: text => do
    let (content, rest) ← untilBracket (fun c => (dropEnd? [']', ']'] c).isSome) [] ('[' :: text)
    if startsWithWord "[cdata[" (content.take (content.length - 2)) then some (.verbatim, rest)
    else none
  | c :: text => do
    if c.toLower != 'd' then none
    else
      let (content, rest) ← untilBracket isBalanced [] (c :: text)
      if startsWithWord "doctype" content && !(content.drop 7).all isTagBlank then
        some (.passed, rest)
      else none
  | [] => none

/-- An instruction, by what stands behind its opening question mark: it ends with another. -/
def readInstruction (text : Text) : Option (Token × Text) :=
  let (content, rest) := toBracket text
  if 1 < content.length && content.getLast? = some '?' then some (.passed, rest) else none

/-- The name in an end tag: blanks behind it are not part of it, unless there is nothing else. -/
def closingName (content : Text) : Text :=
  let name := (content.reverse.dropWhile isTagBlank).reverse
  if name.isEmpty then content else name

/-- An end tag, by what stands behind its slash. -/
def readClosing (text : Text) : Token × Text :=
  let (content, rest) := toBracket text
  (.closing (closingName content), rest)

/-- The markup behind an opening bracket. -/
def readMarkup : Text → Option (Token × Text)
  | '!' :: text => readDeclaration text
  | '?' :: text => readInstruction text
  | '/' :: text => some (readClosing text)
  | text => (untilTagEnd none text).map fun (content, rest) => (readTag content, rest)

/-- A token with the bytes it takes up: from `start` up to `stop`. -/
structure Lexeme where
  token : Token
  start : Nat
  stop : Nat
  deriving DecidableEq, Repr

/-! ### Every token shortens the text -/

theorem length_untilBracket_lt {ends : Text → Bool} {before text content rest : Text}
    (h : untilBracket ends before text = some (content, rest)) : rest.length < text.length := by
  induction text generalizing before with
  | nil => simp [untilBracket] at h
  | cons c cs ih =>
    rw [untilBracket] at h
    split at h
    · simp at h; simp [h.2]
    · exact Nat.lt_succ_of_lt (ih h)

theorem length_toBracket_le (text : Text) : (toBracket text).2.length ≤ text.length := by
  have h := (List.dropWhile_sublist (l := text) (· != '>')).length_le
  simp only [toBracket, List.length_drop]
  omega

theorem length_untilTagEnd_lt {quote : Option Char} {text content rest : Text}
    (h : untilTagEnd quote text = some (content, rest)) : rest.length < text.length := by
  induction text generalizing quote content with
  | nil => simp [untilTagEnd] at h
  | cons c cs ih =>
    have step {q : Option Char} (h : (untilTagEnd q cs).map (fun (content, rest) => (c :: content, rest))
        = some (content, rest)) : rest.length < (c :: cs).length := by
      obtain ⟨⟨_, _⟩, hr, he⟩ := Option.map_eq_some_iff.1 h
      simp only [Prod.mk.injEq] at he
      exact Nat.lt_succ_of_lt (ih (he.2 ▸ hr))
    cases quote with
    | none =>
      simp only [untilTagEnd] at h
      split at h
      · simp at h; simp [h.2]
      · exact step h
    | some q => exact step h

theorem length_readDeclaration_lt {text rest : Text} {token : Token}
    (h : readDeclaration text = some (token, rest)) : rest.length < text.length := by
  unfold readDeclaration at h
  split at h
  · split at h
    · rename_i hu
      split at h
      · simp at h; exact h.2 ▸ length_untilBracket_lt hu
      · simp at h
    · simp at h
  · simp only [Option.bind_eq_bind, Option.bind_eq_some_iff] at h
    obtain ⟨r, hr, h⟩ := h
    split at h
    · simp at h; exact h.2 ▸ length_untilBracket_lt hr
    · simp at h
  · split at h
    · simp at h
    · simp only [Option.bind_eq_bind, Option.bind_eq_some_iff] at h
      obtain ⟨r, hr, h⟩ := h
      split at h
      · simp at h; exact h.2 ▸ length_untilBracket_lt hr
      · simp at h
  · simp at h

theorem length_readMarkup_le {text rest : Text} {token : Token}
    (h : readMarkup text = some (token, rest)) : rest.length ≤ text.length := by
  unfold readMarkup at h
  split at h
  · exact Nat.le_of_lt (Nat.lt_succ_of_lt (length_readDeclaration_lt h))
  · rename_i text
    simp only [readInstruction] at h
    split at h
    · simp at h; exact h.2 ▸ Nat.le_succ_of_le (length_toBracket_le text)
    · simp at h
  · rename_i text
    simp only [readClosing] at h
    simp at h; exact h.2 ▸ Nat.le_succ_of_le (length_toBracket_le text)
  · obtain ⟨⟨_, _⟩, hr, he⟩ := Option.map_eq_some_iff.1 h
    simp only [Prod.mk.injEq] at he
    exact Nat.le_of_lt (length_untilTagEnd_lt (he.2 ▸ hr))

/-- The tokens of a text, the first of which starts at byte `start`. A lone opening bracket at the
end is no token. -/
def lexemes (start : Nat) (text : Text) : Option (List Lexeme) :=
  match text with
  | [] => some []
  | c :: cs =>
    if c = '<' then
      if cs.isEmpty then some []
      else
        match _h : readMarkup cs with
        | none => none
        | some (token, rest) =>
          let stop := start + utf8Length (c :: cs) - utf8Length rest
          (lexemes stop rest).map (⟨token, start, stop⟩ :: ·)
    else
      let content := c :: cs.takeWhile (· != '<')
      let stop := start + utf8Length content
      (lexemes stop (cs.dropWhile (· != '<'))).map (⟨.characters content, start, stop⟩ :: ·)
termination_by text.length
decreasing_by
  · exact Nat.lt_succ_of_le (length_readMarkup_le _h)
  · exact Nat.lt_succ_of_le (List.dropWhile_sublist _).length_le

/-! ### Elements -/

/-- An element: its name, the bytes between its tags, from `start` up to `stop`, and the elements
directly within. -/
inductive Element where
  | mk (name : Text) (start stop : Nat) (children : List Element)

namespace Element

/-- The name of the element's tags. -/
def name : Element → Text
  | mk name _ _ _ => name

/-- The bytes between the tags. -/
def inner : Element → Nat × Nat
  | mk _ start stop _ => (start, stop)

/-- The elements directly within. -/
def children : Element → List Element
  | mk _ _ _ children => children

end Element

/-- An element whose end tag is still to come, with the elements read within, the last first. -/
structure OpenElement where
  name : Text
  start : Nat
  children : List Element

/-- What was read so far: the elements that are open, innermost first, and the element that is
complete and in no other. -/
structure Outline where
  stack : List OpenElement
  root : Option Element

/-- Adds a complete element to the one it stands in. There is room for one outside of all others. -/
def Outline.add (o : Outline) (e : Element) : Option Outline :=
  match o.stack with
  | parent :: stack =>
    some { o with stack := { parent with children := e :: parent.children } :: stack }
  | [] => if o.root.isNone then some { o with root := some e } else none

/-- Adds a token. Outside of all elements there may be blanks only. -/
def Outline.read (o : Outline) (l : Lexeme) : Option Outline :=
  match l.token with
  | .opening name => some { o with stack := ⟨name, l.stop, []⟩ :: o.stack }
  | .empty name => o.add (.mk name l.stop l.stop [])
  | .closing name =>
    match o.stack with
    | [] => none
    | e :: stack =>
      if e.name = name then
        { o with stack := stack }.add (.mk name e.start l.start e.children.reverse)
      else none
  | .characters content =>
    if o.stack.isEmpty && !content.all isAsciiBlank then none else some o
  | .verbatim => if o.stack.isEmpty then none else some o
  | .passed => some o

/-- The mark that may stand at the start of a text to tell how its bytes are ordered. -/
def byteOrderMark : Char := '\ufeff'

/-- What is read of a text: a byte order mark at its start is passed over, and not counted in the
positions of what follows. -/
def withoutMark : Text → Text
  | c :: cs => if c = byteOrderMark then cs else c :: cs
  | [] => []

/-- The one element that a text consists of. -/
def parseFragment (text : Text) : Option Element := do
  let lexemes ← lexemes 0 (withoutMark text)
  let outline ← lexemes.foldlM Outline.read ⟨[], none⟩
  if outline.stack.isEmpty then outline.root else none

/-- The characters of a text that begin at byte `start` or later and before byte `stop`, where the
text begins at byte `at`. -/
def slice (start stop : Nat) (position : Nat) : Text → Text
  | [] => []
  | c :: cs =>
    let rest := slice start stop (position + c.utf8Size) cs
    if start ≤ position && position < stop then c :: rest else rest

/-- What stands between the tags of the items directly within an element, without outer blanks. -/
def Element.items (source : Text) (e : Element) : List Text :=
  (e.children.filter (·.name = "li".toList)).map fun item =>
    trim (slice item.inner.1 item.inner.2 0 source)

/-- The items of a text that is one ordered list. -/
def orderedItems? (value : Text) : Option (List Text) :=
  (parseFragment value).bind fun root =>
    if root.name = "ol".toList then some (root.items value) else none

/-! ### Cutting by bytes -/

/-- Two borders, in bytes, between which nothing can be cut out of a text: one of them is within a
character or outside of the text, or they are the wrong way around. -/
structure BadCut where
  start : Nat
  stop : Nat
  deriving DecidableEq, Repr

/-- The first bytes of a text, as many as told, and what follows them. -/
def splitAtByte? : Nat → Text → Option (Text × Text)
  | 0, text => some ([], text)
  | _ + 1, [] => none
  | n + 1, c :: cs =>
    if c.utf8Size ≤ n + 1 then
      (splitAtByte? (n + 1 - c.utf8Size) cs).map fun (front, rest) => (c :: front, rest)
    else none

/-- The bytes of a text from `start` up to `stop`, if both are borders of characters. -/
def cut? (start stop : Nat) (text : Text) : Option Text :=
  if start ≤ stop then do
    let (_, rest) ← splitAtByte? start text
    let (content, _) ← splitAtByte? (stop - start) rest
    return content
  else none

/-- The bytes of a text from `start` up to `stop`. -/
def cut (start stop : Nat) (text : Text) : Except BadCut Text :=
  match cut? start stop text with
  | some content => .ok content
  | none => .error ⟨start, stop⟩

/-- What stands between the tags of the items directly within an element, without outer blanks. The
positions are those of the reader, and the text is cut there. -/
def Element.cutItems (source : Text) (e : Element) : Except BadCut (List Text) :=
  (e.children.filter (·.name = "li".toList)).mapM fun item =>
    trim <$> cut item.inner.1 item.inner.2 source

/-- The items of a text that is one ordered list, cut out of it. -/
def readItems (value : Text) : Except BadCut (Option (List Text)) :=
  match parseFragment value with
  | some root => if root.name = "ol".toList then some <$> root.cutItems value else .ok none
  | none => .ok none

end Testbook.Html
