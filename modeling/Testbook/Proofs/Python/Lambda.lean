import Testbook.Proofs.Python.Operators

/-!
Anonymous functions in normal form: the parameters with commas between them, and the body behind a
colon (`isItem_lambda`).
-/

namespace Testbook.Python

open Testbook.Text

variable {text gap rest : Text} {e : Expr} {source : Text} {d : Nat}

/-- What stands behind a parameter: a comma, or the colon in front of the body. -/
def EndsParameter (rest : Text) : Prop :=
  (∃ more, rest = ",".toList ++ more) ∨ ∃ more, rest = ": ".toList ++ more

theorem EndsParameter.follows (h : EndsParameter rest) (after : Expect) :
    ∃ symbol behind, Follows after rest (.op symbol) behind ∧ symbol ∈ [",", ":"] := by
  rcases h with ⟨more, rfl⟩ | ⟨more, rfl⟩
  · exact ⟨",", more, follows_bracket (by decide) more, by decide⟩
  · exact ⟨":", " ".toList ++ more, follows_colon (by decide) more, by decide⟩

theorem ends_of_mem {symbol : String} (h : symbol ∈ [",", ":"]) :
    (Token.op symbol).ends anyLevel = true :=
  (by decide : ∀ s ∈ [",", ":"], (Token.op s).ends anyLevel = true) symbol h

theorem EndsParameter.head (h : EndsParameter rest) :
    ∃ c cs, rest = c :: cs ∧ ['*', '/', '='].contains c = false := by
  rcases h with ⟨more, rfl⟩ | ⟨more, rfl⟩
  · exact ⟨',', more, rfl, by decide⟩
  · exact ⟨':', " ".toList ++ more, rfl, by decide⟩

/-- A text that is read as a parameter. -/
structure IsParameter (text : Text) (e : Expr) : Prop where
  begins {gap rest : Text} (hgap : IsGap gap) (hrest : EndsParameter rest) :
    ∃ token start cursor,
      next {} (.plain (gap ++ (text ++ rest))) = ⟨[], token, start, cursor⟩ ∧ token ≠ .op ":"
  reads {source : Text} {d : Nat} {gap rest : Text} (hgap : IsGap gap)
    (hd : 4 * text.length + 12 ≤ d) (hrest : EndsParameter rest) :
    Reads (readLambdaParameter (grammar source d)) (gap ++ (text ++ rest)) e rest

theorem isParameter_name (h : isIdentifier text = true) : IsParameter text (.name text) := by
  refine ⟨fun {gap rest} hgap hrest => ?_, fun {source d gap rest} hgap hd hrest => ?_⟩
  · obtain ⟨symbol, behind, hfollows, -⟩ := hrest.follows {}
    obtain ⟨c, cs, rfl, hc⟩ := hfollows.delimited
    exact ⟨_, _, _, (isLexeme_word h hc cs).next {} hgap, by simp⟩
  · obtain ⟨symbol, behind, hfollows, hsymbol⟩ := hrest.follows {}
    obtain ⟨_, hnext⟩ := hfollows.next
    obtain ⟨c, cs, rfl, hc⟩ := hfollows.delimited
    refine (Reads.peek ((isLexeme_word h hc cs).next {} hgap)).bind ((Reads.take rfl).bind ?_)
    refine (Reads.readOp?_false ?_).bind (Reads.pure _ _)
    rw [hnext]
    rintro heq
    cases heq
    exact absurd hsymbol (by decide)

theorem isParameter_defaulted {name : Text} (hname : isIdentifier name = true)
    (h : IsOperand text e) : IsParameter (name ++ ("=".toList ++ text)) (.defaulted (.name name) e) := by
  have hequals (rest : Text) : IsLexeme "=".toList (.op "=") (text ++ rest) := by
    obtain ⟨c, cs, rfl, hc⟩ := h.begins.head
    have hmem : "=" ∈ shortOperators := by decide
    exact isLexeme_symbol hmem hc (cs ++ rest)
  have hword (rest : Text) : IsLexeme name (.word name) ("=".toList ++ (text ++ rest)) :=
    isLexeme_word hname (by decide) _
  refine ⟨fun {gap rest} hgap _ => ?_, fun {source d gap rest} hgap hd hrest => ?_⟩
  · rw [List.append_assoc, List.append_assoc]
    exact ⟨_, _, _, (hword rest).next {} hgap, by simp⟩
  · simp only [List.length_append] at hd
    obtain ⟨symbol, behind, hfollows, hsymbol⟩ := hrest.follows {}
    have hread : Reads ((grammar source d).expression anyLevel {} {}) ([] ++ (text ++ rest)) e rest :=
      h.expression .nil (by omega) hfollows (ends_of_mem hsymbol)
    rw [List.append_assoc, List.append_assoc]
    refine (Reads.peek ((hword rest).next {} hgap)).bind ((Reads.take rfl).bind ?_)
    refine (Reads.readOp?_true ((hequals rest).next {} .nil)).bind ?_
    exact hread.bind (Reads.pure _ _)

/-- A star or a slash by itself. -/
theorem isParameter_separator {symbol : String} (h : symbol ∈ ["*", "/"]) :
    IsParameter symbol.toList (.constant symbol.toList) := by
  have hlexeme {rest : Text} (hrest : EndsParameter rest) :
      IsLexeme symbol.toList (.op symbol) rest := by
    obtain ⟨c, cs, rfl, hc⟩ := hrest.head
    have hmem : symbol ∈ shortOperators :=
      (by decide : ∀ s ∈ ["*", "/"], s ∈ shortOperators) symbol h
    exact isLexeme_symbol hmem hc cs
  have hcolon : symbol ≠ ":" := (by decide : ∀ s ∈ ["*", "/"], s ≠ ":") symbol h
  refine ⟨fun {gap rest} hgap hrest => ⟨_, _, _, (hlexeme hrest).next {} hgap, by simpa using hcolon⟩,
    fun {source d gap rest} hgap hd hrest => ?_⟩
  obtain ⟨behind, more, hfollows, -⟩ := hrest.follows {}
  obtain ⟨_, hnext⟩ := hfollows.next
  refine (Reads.peek ((hlexeme hrest).next {} hgap)).bind ?_
  simp only [List.mem_cons, List.not_mem_nil, or_false] at h
  rcases h with rfl | rfl
  · exact (Reads.take rfl).bind ((Reads.peek hnext).bind (Reads.pure _ _))
  · exact (Reads.take rfl).bind (Reads.pure _ _)

/-- A name with stars in front, which takes any number of arguments. -/
theorem isParameter_starred {name : Text} (hname : isIdentifier name = true)
    (hkey : isKeyword name = false) (hconstant : isConstant name = false) {stars : String}
    (hstars : stars ∈ ["*", "**"]) :
    IsParameter (stars.toList ++ name) (.starred stars.toList [.name name]) := by
  have hoperand : IsOperand name (.name name) := by
    have hword := isOperand_word hname hkey
    rwa [wordExpr, hconstant] at hword
  have hlexeme (rest : Text) := isLexeme_stars hoperand hstars rest
  have hcolon : stars ≠ ":" := (by decide : ∀ s ∈ ["*", "**"], s ≠ ":") stars hstars
  refine ⟨fun {gap rest} hgap _ => ?_, fun {source d gap rest} hgap hd hrest => ?_⟩
  · rw [List.append_assoc]
    exact ⟨_, _, _, (hlexeme rest).next {} hgap, by simpa using hcolon⟩
  · rw [List.length_append] at hd
    rw [List.append_assoc]
    obtain ⟨symbol, behind, hfollows, hsymbol⟩ := hrest.follows {}
    have hpattern : Reads (readPattern (grammar source d)
        (readClauses (grammar source d) (grammar source d).steps)) ([] ++ (name ++ rest))
        (.name name) rest := by
      refine hoperand.reads_readPattern rfl .nil (by omega) (by rw [steps_grammar]; omega) hfollows ?_
      exact Token.trails_of_binds (Token.binds_of_ends (ends_of_mem hsymbol))
    obtain ⟨c, cs, rfl, hc⟩ := hfollows.delimited
    refine (Reads.peek ((hlexeme (c :: cs)).next {} hgap)).bind ?_
    simp only [List.mem_cons, List.not_mem_nil, or_false] at hstars
    rcases hstars with rfl | rfl
    · refine (Reads.take rfl).bind ((Reads.peek ((isLexeme_word hname hc cs).next {} .nil)).bind ?_)
      exact hpattern.bind (Reads.pure _ _)
    · refine (Reads.take rfl).bind ((Reads.peek ((isLexeme_word hname hc cs).next {} .nil)).bind ?_)
      exact hpattern.bind (Reads.pure _ _)

/-! ### Parameters with commas -/

/-- Parameters with commas between them, up to the colon. -/
theorem reads_parameters {texts : List Text} {es : List Expr} (h : List.Forall₂ IsParameter texts es)
    (hd : 4 * (commas texts).length + 12 ≤ d) (rest : Text) {gap : Text} (hgap : IsGap gap)
    (hnil : texts = [] → gap = []) {n : Nat} (hn : texts.length < n) (parameters : List Expr) :
    Reads (iterate (readLambdaParameters (grammar source d)) n parameters)
      (gap ++ (commas texts ++ (": ".toList ++ rest))) (parameters ++ es) (": ".toList ++ rest) := by
  have hcolon : Follows {} (": ".toList ++ rest) (.op ":") (" ".toList ++ rest) :=
    follows_colon (by decide) rest
  obtain ⟨_, hcolonNext⟩ := hcolon.next
  have hadd (parameters : List Expr) (e : Expr) :
      (if parameters.isEmpty then [e] else parameters ++ [] ++ [e]) = parameters ++ [e] := by
    cases parameters <;> simp
  induction h generalizing gap n parameters with
  | nil =>
    obtain ⟨m, rfl⟩ := Nat.exists_eq_add_one_of_ne_zero (Nat.ne_zero_of_lt hn)
    rw [hnil rfl, List.append_nil]
    refine Reads.iterate_done ((Reads.peek hcolonNext).bind ?_)
    rw [if_pos (by simp [Lexeme.isOp])]
    exact Reads.pure _ _
  | @cons text e texts es hparameter hparameters ih =>
    obtain ⟨m, rfl⟩ := Nat.exists_eq_add_one_of_ne_zero (Nat.ne_zero_of_lt hn)
    cases hparameters with
    | nil =>
      have hd : 4 * text.length + 12 ≤ d := hd
      have hends : EndsParameter (": ".toList ++ rest) := .inr ⟨rest, rfl⟩
      obtain ⟨token, start, cursor, hnext, htoken⟩ := hparameter.begins hgap hends
      refine Reads.iterate_done ((Reads.peek hnext).bind ?_)
      rw [if_neg (by simpa [Lexeme.isOp] using htoken)]
      refine (hparameter.reads hgap hd hends).bind ((Reads.peek hcolonNext).bind ?_)
      rw [if_neg (by simp [Lexeme.isOp]), Lexeme.gap, List.map_nil, hadd]
      exact Reads.pure _ _
    | @cons text' e' texts es _ _ =>
      have hlength : text.length + (commas (text' :: texts)).length
          ≤ (commas (text :: text' :: texts)).length := by
        rw [commas_cons_cons]
        simp only [List.length_append]
        omega
      rw [commas_cons_cons]
      simp only [List.append_assoc]
      have hends : EndsParameter (",".toList ++ (" ".toList ++ (commas (text' :: texts)
          ++ (": ".toList ++ rest)))) := .inl ⟨_, rfl⟩
      have hcomma : Follows {} (",".toList ++ (" ".toList ++ (commas (text' :: texts)
          ++ (": ".toList ++ rest)))) (.op ",") _ := follows_bracket (by decide) _
      obtain ⟨_, hcommaNext⟩ := hcomma.next
      obtain ⟨token, start, cursor, hnext, htoken⟩ := hparameter.begins hgap hends
      have hlater := ih (by omega) .blank (fun hnil => absurd hnil (List.cons_ne_nil _ _)) (n := m)
        (by simpa using hn) (parameters ++ [e])
      rw [List.append_assoc, List.singleton_append] at hlater
      refine Reads.iterate_next ((Reads.peek hnext).bind ?_) hlater
      rw [if_neg (by simpa [Lexeme.isOp] using htoken)]
      refine (hparameter.reads hgap (by omega) hends).bind ((Reads.peek hcommaNext).bind ?_)
      rw [if_pos (by simp [Lexeme.isOp]), Lexeme.gap, List.map_nil, hadd]
      refine (Reads.take rfl).bind ?_
      rw [Lexeme.gap, List.map_nil, List.append_nil]
      exact Reads.pure _ _

theorem isIdentifier_lambda : isIdentifier "lambda".toList = true := by decide

theorem isLexeme_colon (rest : Text) : IsLexeme ":".toList (.op ":") (" ".toList ++ rest) :=
  isLexeme_op_blank (by decide) rest

/-- The parameters behind the first word. Without any, the blank behind that word is left in front
of the colon. -/
theorem exists_reads_parameters (source : Text) {texts : List Text} {es : List Expr}
    (h : List.Forall₂ IsParameter texts es) (hd : 4 * (commas texts).length + 12 ≤ d) (rest : Text) :
    ∃ gap, IsGap gap ∧ Reads (iterate (readLambdaParameters (grammar source d))
        (grammar source d).steps []) (" ".toList ++ (commas texts ++ (": ".toList ++ rest))) es
      (gap ++ (": ".toList ++ rest)) := by
  have hlength := length_le_commas texts
  have hsteps : texts.length < (grammar source d).steps := by
    rw [steps_grammar]
    omega
  cases h with
  | nil =>
    obtain ⟨n, hn⟩ := Nat.exists_eq_add_one_of_ne_zero (Nat.ne_zero_of_lt hsteps)
    refine ⟨_, .blank, ?_⟩
    rw [hn]
    refine Reads.iterate_done ((Reads.peek ((isLexeme_colon rest).next {} .blank)).bind ?_)
    rw [if_pos (by simp [Lexeme.isOp])]
    exact Reads.pure _ _
  | cons hparameter hparameters =>
    refine ⟨[], .nil, ?_⟩
    exact reads_parameters (.cons hparameter hparameters) hd rest .blank
      (fun hnil => absurd hnil (List.cons_ne_nil _ _)) hsteps []

theorem isItem_lambda {texts : List Text} {es : List Expr} (h : List.Forall₂ IsParameter texts es)
    (hbody : IsOperand text e) :
    IsItem readElement ("lambda ".toList ++ (commas texts ++ (": ".toList ++ text)))
      (.lambda es e) := by
  have hlexeme (rest : Text) : IsLexeme "lambda".toList (.word "lambda".toList)
      (" ".toList ++ rest) := isLexeme_word isIdentifier_lambda (by decide) _
  have htext (gap rest : Text) :
      gap ++ (("lambda ".toList ++ (commas texts ++ (": ".toList ++ text))) ++ rest) = gap ++
        ("lambda".toList ++ (" ".toList ++ (commas texts ++ (": ".toList ++ (text ++ rest))))) := by
    simp
  refine isItem_of_expression (fun {x gap rest} _ hgap _ => ?_)
    (fun {source d gap rest behind token} hgap hd hfollows hends => ?_) rfl
  · rw [htext]
    exact ⟨_, _, _, (hlexeme _).next x hgap, rfl, by simp, by simp, by simp⟩
  · simp only [List.length_append] at hd
    obtain ⟨k, rfl⟩ : ∃ k, d = k + 1 := ⟨d - 1, by omega⟩
    rw [htext]
    have hlambda : "lambda ".toList.length = 7 := rfl
    obtain ⟨gap', hgap', hparameters⟩ :=
      exists_reads_parameters source h (by omega : _ ≤ k) (text ++ rest)
    have hread : Reads ((grammar source k).expression anyLevel {} closerNext)
        (" ".toList ++ (text ++ rest)) e rest :=
      hbody.expression .blank (by omega) hfollows hends
    refine reads_readExpression ?_ hfollows (Token.continues_of_ends hends)
      (by rw [steps_grammar]; omega)
    refine (Reads.peek ((hlexeme _).next _ hgap)).bind ?_
    refine (Reads.take rfl).bind (hparameters.bind ?_)
    refine (Reads.readOp ((isLexeme_colon (text ++ rest)).next {} hgap')).bind ?_
    exact hread.bind (Reads.pure _ _)

end Testbook.Python
