import Testbook.Python.Module
import Testbook.Proofs.Python.Lexeme

/-!
Runs of readers. `Reads r text a rest` says that the reader `r` takes `a` off the front of a text and
leaves `rest`. A run is put together from the runs of the steps; what the reader looks at next is
known from the lexeme there.
-/

namespace Testbook.Python

open Testbook.Text

/-- A reader yields `a` at the front of `text` and stops in front of `rest`. -/
def Reads {α : Type} (r : Reader α) (text : Text) (a : α) (rest : Text) : Prop :=
  r (.plain text) = .ok (a, .plain rest)

namespace Reads

variable {α β σ : Type} {r : Reader α} {f : α → Reader β} {a : α} {b : β} {text mid rest : Text}
  {e : Expect} {l : Lexeme}

theorem pure (a : α) (text : Text) : Reads (Pure.pure a) text a text := rfl

theorem bind (h : Reads r text a mid) (hf : Reads (f a) mid b rest) :
    Reads (r >>= f) text b rest := by
  change (r (.plain text)).bind _ = _
  rw [h]
  exact hf

theorem peek (hl : next e (.plain text) = l) : Reads (peek e) text l text := by
  rw [← hl]
  rfl

theorem take (hl : l.after = .plain mid) : Reads (take l) text () mid := by
  change Except.ok _ = _
  rw [hl]

theorem get (text : Text) : Reads MonadState.get text (Cursor.plain text) text := rfl

/-- What was read since the cursor stood in front of `text` is `text`. -/
theorem textSince (text rest : Text) : Reads (textSince (text ++ rest)) rest text rest := by
  refine (get rest).bind ?_
  have hlength : (text ++ rest).length - rest.length = text.length := by simp
  dsimp only [Cursor.plain]
  rw [hlength, List.take_left]
  exact pure _ _

theorem set (text rest : Text) : Reads (MonadStateOf.set (Cursor.plain rest)) text () rest := rfl

/-! ### Lexemes -/

variable {continuations : List Text} {start : Text} {token : Token}

theorem readOp {symbol : String}
    (h : next e (.plain text) = ⟨continuations, .op symbol, start, .plain rest⟩) :
    Reads (readOp e symbol) text () rest := by
  refine (peek h).bind ?_
  rw [if_pos (by simp [Lexeme.isOp])]
  exact take rfl

theorem readOp?_true {symbol : String}
    (h : next e (.plain text) = ⟨continuations, .op symbol, start, .plain rest⟩) :
    Reads (readOp? e symbol) text true rest := by
  refine (peek h).bind ?_
  rw [if_pos (by simp [Lexeme.isOp])]
  exact (take rfl).bind (pure _ _)

theorem readOp?_false {symbol : String} (h : (next e (.plain text)).token ≠ .op symbol) :
    Reads (readOp? e symbol) text false text := by
  refine (peek rfl).bind ?_
  rw [if_neg (by simpa [Lexeme.isOp] using h)]
  exact pure _ _

theorem readWord {word : String}
    (h : next e (.plain text) = ⟨continuations, .word word.toList, start, .plain rest⟩) :
    Reads (readWord e word) text () rest := by
  refine (peek h).bind ?_
  rw [if_pos (by simp [Lexeme.isWord])]
  exact take rfl

theorem readWord?_true {word : String}
    (h : next e (.plain text) = ⟨continuations, .word word.toList, start, .plain rest⟩) :
    Reads (readWord? e word) text true rest := by
  refine (peek h).bind ?_
  rw [if_pos (by simp [Lexeme.isWord])]
  exact (take rfl).bind (pure _ _)

theorem readWord?_false {word : String} (h : (next e (.plain text)).token ≠ .word word.toList) :
    Reads (readWord? e word) text false text := by
  refine (peek rfl).bind ?_
  rw [if_neg (by simpa [Lexeme.isWord] using h)]
  exact pure _ _

theorem readName {word : Text}
    (h : next {} (.plain text) = ⟨continuations, .word word, start, .plain rest⟩) :
    Reads readName text word rest :=
  (peek h).bind ((take rfl).bind (pure _ _))

/-! ### Loops -/

variable {step : σ → Reader (σ ⊕ α)} {s t : σ} {n : Nat}

theorem iterate_next (hs : Reads (step s) text (.inl t) mid)
    (h : Reads (iterate step n t) mid a rest) : Reads (iterate step (n + 1) s) text a rest :=
  hs.bind h

theorem iterate_done (hs : Reads (step s) text (.inr a) rest) :
    Reads (iterate step (n + 1) s) text a rest :=
  hs.bind (pure _ _)

end Reads

/-! ### Grammars -/

theorem steps_grammar (source : Text) (depth : Nat) : (grammar source depth).steps = depth - 1 := by
  cases depth <;> rfl

end Testbook.Python
