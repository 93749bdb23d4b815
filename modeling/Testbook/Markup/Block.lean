import Testbook.Text.Basic

/-!
The tree of a structured text. A document is a sequence of blocks; lists, fields and quotes hold
blocks again, while paragraphs and literal blocks hold text. Reading a document also yields
messages about lines that were hard to read.
-/

namespace Testbook.Markup

/-- How the items of an enumerated list are counted. -/
inductive Numbering where
  | arabic | lowerAlpha | upperAlpha | lowerRoman | upperRoman
  deriving DecidableEq, Repr

/-- The name that a numbering has in rendered output. -/
def Numbering.name : Numbering → Text
  | .arabic => "arabic"
  | .lowerAlpha => "loweralpha"
  | .upperAlpha => "upperalpha"
  | .lowerRoman => "lowerroman"
  | .upperRoman => "upperroman"

/-- A block of a document. The lines of a paragraph or literal block are joined by line feeds. -/
inductive Block where
  | paragraph (text : Text)
  | bullets (items : List (List Block))
  | numbered (numbering : Numbering) (start : Nat) (items : List (List Block))
  | fields (entries : List (Text × List Block))
  | quote (blocks : List Block)
  | literal (text : Text)

/-- The lists whose end can come unexpectedly. -/
inductive ListKind where
  | field | bullet | enumerated
  deriving DecidableEq, Repr

/-- What a list is called in messages. -/
def ListKind.title : ListKind → Text
  | .field => "Field list"
  | .bullet => "Bullet list"
  | .enumerated => "Enumerated list"

/-- How grave a message is. -/
inductive Level where
  | warning | error | severe
  deriving DecidableEq, Repr

/-- The word for a level. -/
def Level.name : Level → Text
  | .warning => "warning"
  | .error => "error"
  | .severe => "severe"

/-- What is wrong with a line: the line is indented below a paragraph, it follows a list without
a blank line between, or it holds what no document may hold. -/
inductive Problem where
  | unexpectedIndentation
  | unexpectedUnindent (list : ListKind)
  | unreadable (reason : Text)
  deriving DecidableEq, Repr

/-- How grave a problem is. -/
def Problem.level : Problem → Level
  | .unexpectedIndentation => .error
  | .unexpectedUnindent _ => .warning
  | .unreadable _ => .severe

/-- What is said of a problem. -/
def Problem.message : Problem → Text
  | .unexpectedIndentation => "Unexpected indentation."
  | .unexpectedUnindent list => list.title ++ " ends without a blank line; unexpected unindent."
  | .unreadable reason => reason

/-- A problem and the number of the line that has it. -/
structure Message where
  line : Nat
  problem : Problem
  deriving DecidableEq, Repr

/-- The blocks of a text, and the messages in the order in which their causes were met. -/
structure Document where
  blocks : List Block
  messages : List Message

/-- Two documents one after the other. -/
def Document.append (a b : Document) : Document :=
  ⟨a.blocks ++ b.blocks, a.messages ++ b.messages⟩

/-- The document without blocks. -/
def Document.empty : Document := ⟨[], []⟩

/-- The documents one after the other. -/
def Document.concat (documents : List Document) : Document :=
  documents.foldr Document.append Document.empty

end Testbook.Markup
