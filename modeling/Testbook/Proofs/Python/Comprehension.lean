import Testbook.Proofs.Python.Operators

/-!
Comprehensions in normal form: the loops and conditions behind the item, each with a blank in front,
are read one after the other (`reads_clauses`), and with their brackets they make an operand
(`isOperand_comprehension`). How deep clauses may hold comprehensions again is bounded by the length
of the text, as for everything else.
-/

namespace Testbook.Python

open Testbook.Text

variable {after : Expect} {text gap rest behind : Text} {token : Token} {e : Expr} {source : Text}
  {d n : Nat}

theorem isIdentifier_for : isIdentifier "for".toList = true := by decide

/-- Whether a token stands behind a clause: a closing bracket, or the first word of another one. -/
def Token.endsClause : Token → Bool
  | .op symbol => isClosing symbol
  | .word w => w = "for".toList || w = "if".toList
  | _ => false

/-- Behind a clause nothing goes on that is read at a level below all expressions. -/
theorem Token.ends_of_endsClause (h : token.endsClause = true) {level : Nat} (hlevel : level ≠ anyLevel) :
    token.ends level = true := by
  cases token with
  | op symbol =>
    exact (by decide : ∀ s ∈ [")", "]", "\x7d"], [")", "]", "\x7d", ",", ":"].contains s = true) symbol
      (List.contains_iff_mem.1 h)
  | word w =>
    simp only [Token.endsClause, Bool.or_eq_true, decide_eq_true_eq] at h
    rcases h with rfl | rfl
    · rfl
    · simpa [Token.ends] using hlevel
  | _ => exact absurd h (by simp [Token.endsClause])

theorem Token.ne_comma_of_endsClause (h : token.endsClause = true) : token ≠ .op "," := by
  rintro rfl
  exact absurd h (by decide)

/-- A text that is read as a clause, with the blank in front of it. -/
structure IsClause (text : Text) (e : Expr) : Prop where
  follows (after : Expect) (rest : Text) : ∃ token behind,
    Follows after (text ++ rest) token behind ∧ token.endsClause = true
  reads {source : Text} {d n : Nat} {rest behind : Text} {token : Token}
    (hd : 4 * text.length + 12 ≤ d) (hn : text.length ≤ n)
    (hfollows : Follows closerNext rest token behind) (hends : token.endsClause = true)
    (clauses : List Expr) :
    Reads (readClause (grammar source d) (readClauses (grammar source d) n) clauses) (text ++ rest)
      (.inl (clauses ++ [e])) rest

/-! ### Loops and conditions -/

/-- What a loop assigns to, in front of the word that begins what is iterated over. -/
theorem reads_readTargets (h : IsOperand text e) {target : Expr} (htarget : asPattern? e = some target)
    (hgap : IsGap gap) (hd : 4 * text.length + 8 ≤ d) (hn : text.length ≤ n) (rest : Text) :
    Reads (readTargets (grammar source d) (readClauses (grammar source d) n))
      (gap ++ (text ++ (" in ".toList ++ rest))) target (" in ".toList ++ rest) := by
  have hfollows : Follows {} (" in ".toList ++ rest) (.word "in".toList) (" ".toList ++ rest) :=
    follows_spaced isIdentifier_in {} rest
  obtain ⟨_, hnext⟩ := hfollows.next
  obtain ⟨m, hm⟩ : ∃ m, (grammar source d).steps = m + 1 := ⟨d - 2, by rw [steps_grammar]; omega⟩
  refine (h.reads_readPattern htarget hgap hd hn hfollows (by decide)).bind ?_
  rw [hm]
  refine Reads.iterate_done ((Reads.peek hnext).bind ?_)
  rw [if_pos (by simp [Lexeme.isOp])]
  exact Reads.pure _ _

theorem isClause_for {sourceText : Text} {e' target : Expr} (h : IsOperand text e)
    (htarget : asPattern? e = some target) (hsource : IsOperand sourceText e') :
    IsClause (" for ".toList ++ (text ++ (" in ".toList ++ sourceText)))
      (.forClause false target [e'] false) := by
  have hfor (after : Expect) (rest : Text) : Follows after (" for ".toList ++ (text ++
      (" in ".toList ++ (sourceText ++ rest)))) (.word "for".toList)
      (" ".toList ++ (text ++ (" in ".toList ++ (sourceText ++ rest)))) :=
    follows_spaced isIdentifier_for after _
  refine ⟨fun after rest => ?_, fun {source d n rest behind token} hd hn hfollows hends clauses => ?_⟩
  · simp only [List.append_assoc]
    exact ⟨_, _, hfor after rest, by decide⟩
  · simp only [List.length_append] at hd hn
    simp only [List.append_assoc]
    obtain ⟨m, rfl⟩ : ∃ m, n = m + 1 :=
      ⟨n - 1, by have hlong : " for ".toList.length = 5 := rfl; omega⟩
    obtain ⟨k, hk⟩ : ∃ k, (grammar source d).steps = k + 1 := ⟨d - 2, by rw [steps_grammar]; omega⟩
    obtain ⟨_, hforNext⟩ := (hfor closerNext rest).next
    obtain ⟨_, hforWord⟩ := (hfor {} rest).next
    obtain ⟨_, hin⟩ := (follows_spaced isIdentifier_in {} (sourceText ++ rest)).next
    obtain ⟨_, hend⟩ := hfollows.next
    have hiterable : Reads ((grammar source d).expression iterableLevel {} closerNext)
        (" ".toList ++ (sourceText ++ rest)) e' rest :=
      hsource.expression .blank (by omega) hfollows (Token.ends_of_endsClause hends (by decide))
    have hiterables : Reads (readIterables (grammar source d)) (" ".toList ++ (sourceText ++ rest))
        ([e'], false) rest := by
      refine hiterable.bind ?_
      rw [hk]
      refine Reads.iterate_done ((Reads.readOp?_false ?_).bind (Reads.pure _ _))
      rw [hend]
      exact Token.ne_comma_of_endsClause hends
    refine (Reads.peek hforNext).bind ?_
    rw [if_pos (by simp [Lexeme.opensClause, Lexeme.isWord])]
    refine (Reads.readWord?_false (by rw [hforNext]; simp)).bind ?_
    refine (Reads.readWord hforWord).bind ?_
    refine (reads_readTargets h htarget .blank (by omega) (by omega) (sourceText ++ rest)).bind ?_
    exact (Reads.readWord hin).bind (hiterables.bind (Reads.pure _ _))

theorem isClause_if (h : IsOperand text e) : IsClause (" if ".toList ++ text) (.ifClause [e]) := by
  have hif (after : Expect) (rest : Text) : Follows after (" if ".toList ++ (text ++ rest))
      (.word "if".toList) (" ".toList ++ (text ++ rest)) := follows_spaced isIdentifier_if after _
  refine ⟨fun after rest => ?_, fun {source d n rest behind token} hd hn hfollows hends clauses => ?_⟩
  · rw [List.append_assoc]
    exact ⟨_, _, hif after rest, by decide⟩
  · rw [List.length_append] at hd
    rw [List.append_assoc]
    obtain ⟨_, hifNext⟩ := (hif closerNext rest).next
    obtain ⟨first, start, cursor, hfirst, -⟩ :=
      h.begins.next (e := operandNext) rfl .blank hfollows.delimited
    have hcondition : Reads ((grammar source d).expression namedLevel {} closerNext)
        (" ".toList ++ (text ++ rest)) e rest :=
      h.expression .blank (by omega) hfollows (Token.ends_of_endsClause hends (by decide))
    refine (Reads.peek hifNext).bind ?_
    rw [if_neg (by simp [Lexeme.opensClause, Lexeme.isWord]), if_pos (by simp [Lexeme.isWord])]
    refine (Reads.take rfl).bind ((Reads.peek hfirst).bind (hcondition.bind ?_))
    exact Reads.pure _ _

/-! ### Clauses in a row -/

variable {texts : List Text} {es : List Expr} {closing : String}

theorem exists_follows_clauses (h : List.Forall₂ IsClause texts es)
    (hfollows : Follows after rest token behind) (hends : token.endsClause = true) :
    ∃ token behind, Follows after (texts.flatten ++ rest) token behind ∧ token.endsClause = true := by
  cases h with
  | nil => exact ⟨token, behind, hfollows, hends⟩
  | cons hclause _ =>
    rw [List.flatten_cons, List.append_assoc]
    exact hclause.follows after _

/-- Clauses up to the closing bracket. -/
theorem reads_clauses (h : List.Forall₂ IsClause texts es) (hclosing : isClosing closing = true)
    (hd : 4 * texts.flatten.length + 12 ≤ d) (hn : texts.flatten.length ≤ n) (rest : Text)
    {steps : Nat} (hsteps : texts.length < steps) (clauses : List Expr) :
    Reads (iterate (readClause (grammar source d) (readClauses (grammar source d) n)) steps clauses)
      (texts.flatten ++ (closing.toList ++ rest)) (clauses ++ es) (closing.toList ++ rest) := by
  have hcloser := follows_closing hclosing closerNext rest
  have hendsCloser : (Token.op closing).endsClause = true := hclosing
  induction h generalizing steps clauses with
  | nil =>
    obtain ⟨m, rfl⟩ := Nat.exists_eq_add_one_of_ne_zero (Nat.ne_zero_of_lt hsteps)
    obtain ⟨_, hnext⟩ := hcloser.next
    rw [List.append_nil]
    refine Reads.iterate_done ((Reads.peek hnext).bind ?_)
    rw [if_neg (by simp [Lexeme.opensClause, Lexeme.isWord]), if_neg (by simp [Lexeme.isWord])]
    exact Reads.pure _ _
  | @cons text e texts es hclause hclauses ih =>
    obtain ⟨m, rfl⟩ := Nat.exists_eq_add_one_of_ne_zero (Nat.ne_zero_of_lt hsteps)
    rw [List.flatten_cons, List.length_append] at hd hn
    obtain ⟨next, behind, hfollows, hends⟩ := exists_follows_clauses hclauses hcloser hendsCloser
    have hlater := ih (by omega) (by omega) (Nat.lt_of_succ_lt_succ hsteps) (clauses ++ [e])
    rw [List.append_assoc, List.singleton_append] at hlater
    rw [List.flatten_cons, List.append_assoc]
    exact Reads.iterate_next (hclause.reads (by omega) (by omega) hfollows hends clauses) hlater

theorem length_le_flatten (h : List.Forall₂ IsClause texts es) : texts.length ≤ texts.flatten.length := by
  induction h with
  | nil => exact Nat.zero_le _
  | @cons text e texts es hclause _ ih =>
    have hne : text ≠ [] := by
      rintro rfl
      obtain ⟨token, behind, hfollows, hends⟩ := hclause.follows {} []
      obtain ⟨c, cs, hnil, -⟩ := hfollows.delimited
      exact absurd hnil (List.cons_ne_nil c cs).symm
    have hlength := List.length_pos_of_ne_nil hne
    rw [List.flatten_cons, List.length_append, List.length_cons]
    omega

theorem reads_readClauses (h : List.Forall₂ IsClause texts es) (hclosing : isClosing closing = true)
    (hd : 4 * texts.flatten.length + 12 ≤ d) (hn : texts.flatten.length < n) (rest : Text) :
    Reads (readClauses (grammar source d) n) (texts.flatten ++ (closing.toList ++ rest)) es
      (closing.toList ++ rest) := by
  have hlength := length_le_flatten h
  obtain ⟨m, rfl⟩ := Nat.exists_eq_add_one_of_ne_zero (Nat.ne_zero_of_lt hn)
  exact reads_clauses h hclosing hd (Nat.le_of_lt_succ hn) rest (by rw [steps_grammar]; omega) []

/-! ### Brackets -/

/-- The reader of what stands in front of the clauses. -/
def Brackets.item : Brackets → Grammar → Reader Expr
  | .curly => readEntry
  | _ => readElement

theorem isOperand_comprehension (brackets : Brackets) (h : IsItem brackets.item text e)
    (hbody : isBody e = true)
    {first : Text} {e' : Expr} (hfirst : IsClause first e')
    (hfor : ∀ rest, ∃ behind, Follows closerNext (first ++ rest) (.word "for".toList) behind)
    (hclauses : List.Forall₂ IsClause texts es) :
    IsOperand (brackets.opening :: (text ++ (first ++ texts.flatten)) ++ [brackets.closing])
      (.comprehension brackets e (e' :: es)) := by
  rw [List.cons_append]
  refine isOperand_brackets rfl fun {source d n rest} hd hn => ?_
  have hcloser : [brackets.closing] = brackets.closer.toList := by cases brackets <;> rfl
  have hclosing : isClosing brackets.closer = true := by cases brackets <;> rfl
  simp only [List.length_append, List.length_singleton] at hd hn
  rw [hcloser]
  simp only [List.append_assoc]
  have hflatten : (first :: texts).flatten.length = first.length + texts.flatten.length := by
    rw [List.flatten_cons, List.length_append]
  have hread : Reads (readClauses (grammar source d) n)
      ((first :: texts).flatten ++ (brackets.closer.toList ++ rest)) (e' :: es)
      (brackets.closer.toList ++ rest) :=
    reads_readClauses (.cons hfirst hclauses) hclosing (by omega) (by omega) rest
  rw [List.flatten_cons, List.append_assoc] at hread
  obtain ⟨behind, hfollows⟩ := hfor (texts.flatten ++ (brackets.closer.toList ++ rest))
  have hitems (emptyComma : Bool) : Reads (readItems (grammar source d) brackets.closer emptyComma
      (brackets.item (grammar source d)) (readClauses (grammar source d) n))
      ([] ++ (text ++ (first ++ (texts.flatten ++ (brackets.closer.toList ++ rest)))))
      ([e], false, e' :: es) rest := by
    obtain ⟨m, hm⟩ : ∃ m, (grammar source d).steps = m + 1 := ⟨d - 2, by rw [steps_grammar]; omega⟩
    rw [readItems, hm]
    exact Reads.iterate_done (h.clauses_step hbody hclosing .nil (by omega) hfollows hread)
  rw [List.nil_append] at hitems
  cases brackets with
  | round => exact (hitems false).bind (Reads.pure _ _)
  | square => exact (hitems false).bind (Reads.pure _ _)
  | curly =>
    refine (hitems true).bind ?_
    have hmixed : (!([e].filter (!isGap ·)).all isEntry && ([e].filter (!isGap ·)).any isEntry) = false := by
      rw [List.filter_cons, h.solid]
      simp
    dsimp only
    rw [hmixed]
    exact Reads.pure _ _

end Testbook.Python
