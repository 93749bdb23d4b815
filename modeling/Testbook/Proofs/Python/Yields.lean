import Testbook.Python.Module
import Testbook.Proofs.Python.Float

/-!
What readers yield. `Yields r P` says that whatever the reader `r` takes from a text,
`P` holds of it; it is passed on from the steps of a reader to the reader. Of the lexemes that readers
look at, a word is one to its end, and so is a number (`isProper_next`).
-/

namespace Testbook.Python

open Testbook.Text

/-- What a reader takes at a place, if it takes anything, is such that `P` holds. -/
def YieldsAt {α : Type} (c : Cursor) (r : Reader α) (P : α → Prop) : Prop := ∀ a c', r c = .ok (a, c') → P a

/-- What a reader takes, wherever it takes anything, is such that `P` holds. -/
def Yields {α : Type} (r : Reader α) (P : α → Prop) : Prop := ∀ c, YieldsAt c r P

section

variable {α β : Type} {c : Cursor} {r s : Reader α} {f : α → Reader β} {P : α → Prop} {R : β → Prop}

theorem YieldsAt.bind (h : YieldsAt c r P) (hf : ∀ a, P a → Yields (f a) R) : YieldsAt c (r >>= f) R := by
  intro b c' hb
  cases hr : r c with
  | error fault =>
    have hfail : (r >>= f) c = .error fault := by
      change (r c).bind _ = _
      rw [hr]
      rfl
    rw [hfail] at hb
    cases hb
  | ok found =>
    obtain ⟨a, mid⟩ := found
    have hnext : (r >>= f) c = f a mid := by
      change (r c).bind _ = _
      rw [hr]
      rfl
    rw [hnext] at hb
    exact hf a (h a mid hr) mid b c' hb

/-- What is looked at is the next lexeme, and it stays unread. -/
theorem YieldsAt.peek {e : Expect} {f : Lexeme → Reader α} (h : YieldsAt c (f (next e c)) P) :
    YieldsAt c (Python.peek e >>= f) P := h

end

namespace Yields

variable {α β σ : Type} {r s : Reader α} {f : α → Reader β} {P : α → Prop} {R : β → Prop}

theorem any (r : Reader α) : Yields r fun _ => True := fun _ _ _ _ => trivial

theorem pure {a : α} (h : P a) : Yields (Pure.pure a) P := by
  intro c b c' hr
  cases hr
  exact h

theorem bind (h : Yields r P) (hf : ∀ a, P a → Yields (f a) R) : Yields (r >>= f) R :=
  fun c => (h c).bind hf

/-- What the first step takes may not matter. -/
theorem after (hf : ∀ a, Yields (f a) R) : Yields (r >>= f) R := (any r).bind fun a _ => hf a

theorem refuse : Yields refuse P := by
  intro c a c' h
  cases h

theorem either (hr : Yields r P) (hs : Yields s P) : Yields (either r s) P := by
  intro c a c' h
  rw [Python.either] at h
  split at h
  · next hfirst =>
    cases h
    exact hr _ _ _ hfirst
  · exact hs _ _ _ h

theorem ite {p : Prop} [Decidable p] (hr : p → Yields r P) (hs : ¬ p → Yields s P) :
    Yields (if p then r else s) P := by
  split
  · next hp => exact hr hp
  · next hp => exact hs hp

/-- A reader that goes on unless it refuses. -/
theorem guarded {p : Prop} [Decidable p] {next : PUnit → Reader α} (h : ∀ u, Yields (next u) P) :
    Yields (if p then Python.refuse >>= next else next ()) P :=
  ite (fun _ => after h) fun _ => h ()

/-- An invariant of the steps is one of the loop. -/
theorem iterate {step : σ → Reader (σ ⊕ α)} {I : σ → Prop}
    (h : ∀ s, I s → Yields (step s) (Sum.elim I P)) (n : Nat) {s : σ} (hs : I s) :
    Yields (iterate step n s) P := by
  induction n generalizing s with
  | zero => exact refuse
  | succ n ih =>
    refine (h s hs).bind fun found hfound => ?_
    cases found with
    | inl s' => exact ih hfound
    | inr a => exact pure hfound

end Yields

/-- Expressions that a grammar reads as parts of others are such that `P` holds. -/
structure Grammar.Gives (g : Grammar) (P : Expr → Prop) : Prop where
  expression : ∀ level opening after, Yields (g.expression level opening after) P
  binary : ∀ least opening after, Yields (g.binary least opening after) P

/-! ### Words -/

/-- Whether a text is made of characters that continue a name. -/
def IsWord (w : Text) : Prop := ∀ c ∈ w, isIdentifierContinue c = true

theorem isWord_of_isIdentifier {w : Text} (h : isIdentifier w = true) : IsWord w :=
  List.all_eq_true.1 (Bool.and_eq_true_iff.1 h).2

theorem IsWord.point_not_mem {w : Text} (h : IsWord w) : '.' ∉ w :=
  fun hmem => absurd (h _ hmem) (by decide)

/-! ### Tokens -/

/-- A token that is a word or a number is one to its end, and a conversion is a single letter. -/
structure Token.IsProper (t : Token) : Prop where
  word : ∀ w, t = .word w → isIdentifier w = true
  integer : ∀ w, t = .integer w → isInteger w = true
  float : ∀ w, t = .float w → isFloat w = true
  conversion : ∀ w, t = .conversion w → ∃ c, w = ['!', c] ∧ c.isLower = true

theorem Token.IsProper.of_ne {t : Token}
    (h : ∀ w, t ≠ .word w ∧ t ≠ .integer w ∧ t ≠ .float w ∧ t ≠ .conversion w) : t.IsProper where
  word w hw := absurd hw (h w).1
  integer w hw := absurd hw (h w).2.1
  float w hw := absurd hw (h w).2.2.1
  conversion w hw := absurd hw (h w).2.2.2

theorem isProper_readOperator (symbols : List String) (text : Text) :
    (readOperator symbols text).1.IsProper := by
  induction symbols with
  | nil => exact .of_ne fun w => by simp [readOperator]
  | cons symbol symbols ih =>
    rw [readOperator]
    split
    · exact .of_ne fun w => by simp
    · exact ih

theorem isProper_readNumber {text : Text} (h : beginsNumber text = true) :
    (readNumber text).1.IsProper where
  word w hw := by
    rcases readNumber_cases text with ⟨_, ht⟩ | ⟨_, ht⟩ <;> simp [ht] at hw
  integer _ hw := (isIntegerText_of_readNumber h hw).isInteger
  float _ hw := isFloat_of_readNumber h hw
  conversion w hw := by
    rcases readNumber_cases text with ⟨_, ht⟩ | ⟨_, ht⟩ <;> simp [ht] at hw

theorem isProper_readToken (walrus : Bool) (text : Text) : (readToken walrus text).1.IsProper := by
  unfold readToken
  split
  · exact .of_ne fun w => by simp
  · next c cs =>
    split
    · next hstart =>
      refine ⟨fun w hw => ?_, fun w hw => by simp at hw, fun w hw => by simp at hw, fun w hw => by simp at hw⟩
      cases hw
      have hcontinue := isIdentifierContinue_of_isIdentifierStart hstart
      rw [isIdentifier, List.takeWhile_cons_of_pos hcontinue, List.head?_cons, Option.any_some, hstart,
        Bool.true_and, List.all_cons, hcontinue, Bool.true_and]
      exact List.all_eq_true.2 fun d hd => List.mem_takeWhile_imp hd
    · split
      · next hnumber => exact isProper_readNumber hnumber
      · split
        · next hconversion =>
          refine ⟨fun w hw => by simp at hw, fun w hw => by simp at hw, fun w hw => by simp at hw,
            fun w hw => ?_⟩
          cases hw
          simp only [Bool.and_eq_true, decide_eq_true_eq] at hconversion
          obtain ⟨rfl, hletter⟩ := hconversion
          cases cs with
          | nil => cases hletter
          | cons d ds => exact ⟨d, rfl, hletter⟩
        · exact isProper_readOperator _ _

theorem isProper_layout? {e : Expect} {c after : Cursor} {token : Token} {start : Text}
    (h : layout? e c = some (token, start, after)) : token.IsProper := by
  refine .of_ne fun w => ?_
  unfold layout? at h
  split at h
  · cases h
  · simp only at h
    split at h
    · cases h
      simp
    · split at h
      · cases h
        simp
      · split at h
        · cases h
          simp
        · split at h
          · obtain ⟨opening, -, he⟩ := Option.map_eq_some_iff.1 h
            cases he
            simp
          · cases h

/-- The next lexeme is proper. -/
theorem isProper_next (e : Expect) (c : Cursor) : (next e c).token.IsProper := by
  fun_induction next e c with
  | case1 c token start after h => exact isProper_layout? h
  | case2 => exact .of_ne fun w => by simp
  | case3 => assumption
  | case4 => assumption
  | case5 c _ d ds _ _ _ token rest hread =>
    have hproper := isProper_readToken e.walrus (d :: ds)
    rw [hread] at hproper
    exact hproper

theorem yields_peek (e : Expect) : Yields (peek e) fun l => l.token.IsProper := by
  intro c l c' h
  cases h
  exact isProper_next e c

theorem yields_readName : Yields readName fun word => isIdentifier word = true := by
  refine (yields_peek {}).bind fun l hl => ?_
  split
  · next w hw => exact .after fun _ => .pure (hl.word w hw)
  · exact .refuse

end Testbook.Python
