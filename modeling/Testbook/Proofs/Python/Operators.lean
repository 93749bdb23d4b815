import Testbook.Proofs.Python.Entries

/-!
What stands in the parentheses that operators have in normal form: operands with signs, operators and
comparisons, conditional expressions, and the chains of `and` and `or`, which go on without
parentheses of their own. Each is read as an item in front of the closing parenthesis.
-/

namespace Testbook.Python

open Testbook.Text

variable {opening after : Expect} {text gap rest behind : Text} {token : Token} {e : Expr}
  {source : Text} {d level : Nat}

/-- An expression that stands in parentheses by itself. -/
theorem isItem_of_expression
    (hbegins : ∀ {x : Expect} {gap rest : Text}, x.string = true → IsGap gap → IsDelimited rest →
      ∃ token start cursor, next x (.plain (gap ++ (text ++ rest))) = ⟨[], token, start, cursor⟩
        ∧ token.separates = false ∧ token ≠ .op "*" ∧ token ≠ .op "**" ∧ token ≠ .word "yield".toList)
    (hread : ∀ {source : Text} {d : Nat} {gap rest behind : Text} {token : Token}, IsGap gap →
      4 * text.length + 12 ≤ d → Follows closerNext rest token behind → token.ends anyLevel = true →
      Reads ((grammar source d).expression anyLevel closerNext closerNext) (gap ++ (text ++ rest)) e rest)
    (hsolid : isGap e = false) : IsItem readElement text e where
  begins hx hgap hrest := by
    obtain ⟨token, start, cursor, hnext, hseparates, -⟩ := hbegins hx hgap hrest
    exact ⟨token, start, cursor, hnext, hseparates⟩
  reads hgap hd hfollows hends := by
    obtain ⟨token, start, cursor, hnext, -, hstar, -, hyield⟩ :=
      hbegins (x := closerNext.orOperand) rfl hgap hfollows.delimited
    refine (Reads.peek hnext).bind ?_
    rw [if_neg (by simpa [Lexeme.isOp] using hstar), if_neg (by simpa [Lexeme.isWord] using hyield)]
    exact hread hgap hd hfollows (Token.ends_of_endsItem hends)
  solid := hsolid

/-- An expression of arithmetic, where nothing of lesser strength begins nor goes on. -/
theorem reads_expression_of_binary {k : Nat} (hk : 0 < k)
    (hoperand : ∀ {g : Grammar}, Reads (readComparisons g opening after) text e rest →
      Reads (readOperand g level opening after) text e rest)
    (h : Reads ((grammar source (k + 1)).binary weakestOperator opening after) text e rest)
    (hfollows : Follows after rest token behind) (hends : token.ends level = true) :
    Reads ((grammar source (k + 2)).expression level opening after) text e rest := by
  have hbinds := Token.binds_of_ends hends
  simp only [Token.binds, Bool.or_eq_false_iff] at hbinds
  exact reads_readExpression (hoperand (reads_readComparisons_single h hfollows hbinds.1.2 hk)) hfollows
    (Token.continues_of_ends hends) hk

/-! ### Signs -/

/-- The operators in front of an operand. -/
def signs : List String := ["+", "-", "~"]

theorem isItem_unary (h : IsOperand text e) {symbol : String} (hsymbol : symbol ∈ signs) :
    IsItem readElement (symbol.toList ++ (" ".toList ++ text)) (.unary symbol.toList e) := by
  have hmem : symbol ∈ operators := (by decide : ∀ s ∈ signs, s ∈ operators) symbol hsymbol
  have hlexeme (rest : Text) : IsLexeme symbol.toList (.op symbol) (" ".toList ++ (text ++ rest)) :=
    isLexeme_op_blank hmem _
  refine isItem_of_expression (fun {x gap rest} _ hgap _ => ?_)
    (fun {source d gap rest behind token} hgap hd hfollows hends => ?_) rfl
  · rw [List.append_assoc, List.append_assoc]
    refine ⟨_, _, _, (hlexeme rest).next x hgap, ?_⟩
    exact (by decide : ∀ s ∈ signs, (Token.op s).separates = false ∧ Token.op s ≠ .op "*"
      ∧ Token.op s ≠ .op "**" ∧ Token.op s ≠ .word "yield".toList) symbol hsymbol
  · simp only [List.length_append] at hd
    have htrails := Token.trails_of_binds (Token.binds_of_ends hends)
    obtain ⟨k, rfl⟩ : ∃ k, d = k + 2 := ⟨d - 2, by omega⟩
    have hnext := (hlexeme rest).next closerNext.orOperand hgap
    have hin : symbol ∈ ["+", "-", "~"] := hsymbol
    rw [List.append_assoc, List.append_assoc]
    have hoperand : Reads ((grammar source k).binary signOperand {} closerNext)
        (" ".toList ++ (text ++ rest)) e rest :=
      h.binary .blank (by omega) hfollows htrails (Token.joins_of_ends hends _)
    have hsigned : Reads (readSigned (grammar source k) closerNext closerNext)
        (gap ++ (symbol.toList ++ (" ".toList ++ (text ++ rest)))) (.unary symbol.toList e) rest := by
      refine (Reads.peek hnext).bind ?_
      simp only [if_pos hin]
      exact (Reads.take rfl).bind (hoperand.bind (Reads.pure _ _))
    have hsteps : 0 < (grammar source k).steps := by
      rw [steps_grammar]
      omega
    refine reads_expression_of_binary (by omega) (fun h => ?_)
      (reads_readBinary_single hsigned hfollows (Token.joins_of_ends hends _) hsteps) hfollows hends
    refine reads_readOperand (by rw [hnext]; simp [Lexeme.isWord]) (by rw [hnext]; simp [Lexeme.isWord])
      ?_ h
    rw [hnext]
    exact Reads.pure _ _

/-! ### Arithmetic -/

/-- The operators of arithmetic. -/
def arithmetic : List String :=
  ["|", "&", "^", "<<", ">>", "+", "-", "*", "/", "//", "%", "@", "**"]

theorem isItem_binary {right : Text} {e' : Expr} (h : IsOperand text e) (hright : IsOperand right e')
    {symbol : String} (hsymbol : symbol ∈ arithmetic) :
    IsItem readElement (text ++ (" ".toList ++ (symbol.toList ++ (" ".toList ++ right))))
      (.binary symbol.toList e e') := by
  have hchecks : ∀ s ∈ arithmetic, s ∈ operators ∧ (Token.op s).trails = false ∧ s ≠ ":="
      ∧ ∃ n ∈ strength? s, weakestOperator ≤ n := by decide
  obtain ⟨hmem, htrails, hwalrus, strength, hstrength, hweakest⟩ := hchecks symbol hsymbol
  have hop (after : Expect) (rest : Text) :
      Follows after (" ".toList ++ (symbol.toList ++ (" ".toList ++ (right ++ rest)))) (.op symbol)
        (" ".toList ++ (right ++ rest)) := follows_operator hmem _
  refine isItem_of_expression (fun {x gap rest} hx hgap _ => ?_)
    (fun {source d gap rest behind token} hgap hd hfollows hends => ?_) rfl
  · simp only [List.append_assoc]
    exact h.begins_item hx hgap (hop {} rest).delimited
  · simp only [List.length_append] at hd
    simp only [List.append_assoc]
    obtain ⟨k, rfl⟩ : ∃ k, d = k + 2 := ⟨d - 2, by omega⟩
    obtain ⟨m, hm⟩ : ∃ m, (grammar source k).steps = m + 2 :=
      ⟨k - 3, by rw [steps_grammar]; omega⟩
    obtain ⟨start, hnext⟩ := (hop closerNext rest).next
    have hbinary : Reads ((grammar source (k + 1)).binary weakestOperator closerNext closerNext)
        (gap ++ (text ++ (" ".toList ++ (symbol.toList ++ (" ".toList ++ (right ++ rest))))))
        (.binary symbol.toList e e') rest := by
      refine (h.signed hgap (by omega) (hop closerNext rest) htrails).bind ?_
      rw [hm]
      refine Reads.iterate_next ?_
        (Reads.iterate_done (reads_readArithmetic_none hfollows (Token.joins_of_ends hends _)))
      have hoperand (least : Nat) : Reads ((grammar source k).binary least {} closerNext)
          (" ".toList ++ (right ++ rest)) e' rest :=
        hright.binary .blank (by omega) hfollows (Token.trails_of_binds (Token.binds_of_ends hends))
          (Token.joins_of_ends hends _)
      have hstrength : strength? symbol = some strength := hstrength
      refine (Reads.peek hnext).bind ?_
      simp only [hstrength, if_pos hweakest]
      exact (Reads.take rfl).bind ((hoperand _).bind (Reads.pure _ _))
    refine reads_expression_of_binary (by omega) (fun hread => ?_) hbinary hfollows hends
    exact reads_readOperand_of_begins h.begins hgap (hop closerNext rest) (by simpa using hwalrus) hread

/-! ### Comparisons -/

/-- The operators of comparison that are symbols. -/
def comparisonSymbols : List String := ["<", "<=", "==", "!=", ">=", ">", "<>"]

/-- The operators of comparison that are words. -/
def comparisonWords : List String := ["in", "not in", "is", "is not"]

/-- An operator of comparison with blanks around it. -/
def spaced (operator : String) : Text := " ".toList ++ (operator.toList ++ " ".toList)

theorem follows_symbol {symbol : String} (h : symbol ∈ operators) (after : Expect) (rest : Text) :
    Follows after (spaced symbol ++ rest) (.op symbol) (" ".toList ++ rest) := by
  rw [spaced, List.append_assoc, List.append_assoc]
  exact follows_operator h rest

theorem follows_spaced {word : Text} (h : isIdentifier word = true) (after : Expect) (rest : Text) :
    Follows after (" ".toList ++ (word ++ (" ".toList ++ rest))) (.word word) (" ".toList ++ rest) :=
  follows_word h rest

theorem isIdentifier_in : isIdentifier "in".toList = true := by decide

theorem isIdentifier_is : isIdentifier "is".toList = true := by decide

theorem isIdentifier_not : isIdentifier "not".toList = true := by decide

/-- What follows an operand in front of an operator of comparison does not go on with it. -/
theorem exists_follows_comparison {operator : String}
    (h : operator ∈ comparisonSymbols ++ comparisonWords) (after : Expect) (rest : Text) :
    ∃ token behind, Follows after (spaced operator ++ rest) token behind ∧ token.trails = false
      ∧ token.joins weakestOperator = false ∧ token ≠ .op ":=" := by
  rcases List.mem_append.1 h with h | h
  · have hchecks : ∀ s ∈ comparisonSymbols, s ∈ operators ∧ (Token.op s).trails = false
        ∧ (Token.op s).joins weakestOperator = false ∧ Token.op s ≠ .op ":=" := by decide
    obtain ⟨hmem, hrest⟩ := hchecks operator h
    exact ⟨_, _, follows_symbol hmem after rest, hrest⟩
  · simp only [comparisonWords, List.mem_cons, List.not_mem_nil, or_false] at h
    rcases h with rfl | rfl | rfl | rfl
    · exact ⟨_, _, follows_spaced isIdentifier_in after rest, rfl, rfl, by simp⟩
    · exact ⟨_, _, follows_spaced isIdentifier_not after ("in ".toList ++ rest), rfl, rfl, by simp⟩
    · exact ⟨_, _, follows_spaced isIdentifier_is after rest, rfl, rfl, by simp⟩
    · exact ⟨_, _, follows_spaced isIdentifier_is after ("not ".toList ++ rest), rfl, rfl, by simp⟩

theorem reads_readComparison? {operator : String}
    (hoperator : operator ∈ comparisonSymbols ++ comparisonWords) (hb : Begins text)
    (hrest : IsDelimited rest) :
    Reads (readComparison? after) (spaced operator ++ (text ++ rest))
      (some [.operator operator.toList]) (" ".toList ++ (text ++ rest)) := by
  rcases List.mem_append.1 hoperator with h | h
  · have hmem : operator ∈ operators := (by decide : ∀ s ∈ comparisonSymbols, s ∈ operators) operator h
    have hin : operator ∈ ["<", "<=", "==", "!=", ">=", ">", "<>"] := h
    obtain ⟨start, hnext⟩ := (follows_symbol hmem after (text ++ rest)).next
    refine (Reads.peek hnext).bind ?_
    simp only [if_pos hin]
    exact (Reads.take rfl).bind (Reads.pure _ _)
  · simp only [comparisonWords, List.mem_cons, List.not_mem_nil, or_false] at h
    rcases h with rfl | rfl | rfl | rfl
    · obtain ⟨start, hnext⟩ := (follows_spaced isIdentifier_in after (text ++ rest)).next
      refine (Reads.peek hnext).bind ?_
      exact (Reads.take rfl).bind (Reads.pure _ _)
    · obtain ⟨start, hnext⟩ :=
        (follows_spaced isIdentifier_not after ("in ".toList ++ (text ++ rest))).next
      obtain ⟨start', hnext'⟩ := (follows_spaced isIdentifier_in {} (text ++ rest)).next
      refine (Reads.peek hnext).bind ?_
      refine (Reads.take rfl).bind ((Reads.readWord hnext').bind (Reads.pure _ _))
    · obtain ⟨start, hnext⟩ := (follows_spaced isIdentifier_is after (text ++ rest)).next
      refine (Reads.peek hnext).bind ?_
      refine (Reads.take rfl).bind ((Reads.readWord?_false ?_).bind (Reads.pure _ _))
      exact hb.next_ne_not {} .blank hrest
    · obtain ⟨start, hnext⟩ :=
        (follows_spaced isIdentifier_is after ("not ".toList ++ (text ++ rest))).next
      obtain ⟨start', hnext'⟩ := (follows_spaced isIdentifier_not {} (text ++ rest)).next
      refine (Reads.peek hnext).bind ?_
      exact (Reads.take rfl).bind ((Reads.readWord?_true hnext').bind (Reads.pure _ _))

/-- Operators of comparison with the operands behind them. -/
inductive IsComparands : Text → List Expr → Prop
  | nil : IsComparands [] []
  | cons {operator : String} {text more : Text} {e : Expr} {es : List Expr}
      (hoperator : operator ∈ comparisonSymbols ++ comparisonWords) (h : IsOperand text e)
      (hmore : IsComparands more es) :
      IsComparands (spaced operator ++ (text ++ more)) (.operator operator.toList :: e :: es)

namespace IsComparands

variable {more : Text} {es : List Expr}

theorem exists_follows (h : IsComparands more es) (hfollows : Follows after rest token behind)
    (hends : token.ends level = true) : ∃ token behind, Follows after (more ++ rest) token behind
      ∧ token.trails = false ∧ token.joins weakestOperator = false ∧ token ≠ .op ":=" := by
  cases h with
  | nil =>
    have hbinds := Token.binds_of_ends hends
    simp only [Token.binds, Bool.or_eq_false_iff, decide_eq_false_iff_not] at hbinds
    exact ⟨token, behind, hfollows, hbinds.1.1.1, hbinds.1.1.2, hbinds.2⟩
  | cons hoperator _ _ =>
    rw [List.append_assoc]
    exact exists_follows_comparison hoperator after _

/-- A chain goes on along operators and operands up to its end. -/
theorem reads (h : IsComparands more es) {first : Expr} (parts : List Expr)
    (hparts : parts ++ es ≠ []) {n : Nat} (hn : more.length < n) (hd : 4 * more.length + 9 ≤ d)
    (hfollows : Follows after rest token behind) (hends : token.ends level = true) :
    Reads (iterate (readComparand (grammar source d) after) n (first :: parts)) (more ++ rest)
      (.comparison (first :: parts ++ es)) rest := by
  induction h generalizing parts n with
  | nil =>
    obtain ⟨m, rfl⟩ := Nat.exists_eq_add_one_of_ne_zero (Nat.ne_zero_of_lt hn)
    have hbinds := Token.binds_of_ends hends
    simp only [Token.binds, Bool.or_eq_false_iff] at hbinds
    rw [List.append_nil] at hparts ⊢
    refine Reads.iterate_done ((reads_readComparison?_none hfollows hbinds.1.2).bind ?_)
    cases parts with
    | nil => exact absurd rfl hparts
    | cons part parts => exact Reads.pure _ _
  | @cons operator text more e es hoperator hoperand hmore ih =>
    obtain ⟨m, rfl⟩ := Nat.exists_eq_add_one_of_ne_zero (Nat.ne_zero_of_lt hn)
    have hlength : 0 < (spaced operator).length := by simp [spaced]
    simp only [List.length_append] at hn hd
    obtain ⟨next, behind', hnext, htrails, hjoins, -⟩ := hmore.exists_follows hfollows hends
    simp only [List.append_assoc]
    have hlater := ih (parts ++ [.operator operator.toList, e]) (by simp) (n := m) (by omega) (by omega)
    refine Reads.iterate_next ?_ (by simpa using hlater)
    obtain ⟨_, _, _, hoperandNext, -⟩ :=
      hoperand.begins.next (e := operandNext) rfl .blank hnext.delimited
    have hright : Reads ((grammar source d).binary weakestOperator {} after)
        (" ".toList ++ (text ++ (more ++ rest))) e (more ++ rest) :=
      hoperand.binary .blank (by omega) hnext htrails hjoins
    refine (reads_readComparison? hoperator hoperand.begins hnext.delimited).bind ?_
    refine (Reads.peek hoperandNext).bind (hright.bind ?_)
    simpa [Lexeme.gap] using Reads.pure (Sum.inl (first :: (parts ++ [.operator operator.toList, e])))
      (more ++ rest)

end IsComparands

theorem isItem_comparison (h : IsOperand text e) {more : Text} {es : List Expr}
    (hmore : IsComparands more es) (hne : es ≠ []) :
    IsItem readElement (text ++ more) (.comparison (e :: es)) := by
  refine isItem_of_expression (fun {x gap rest} hx hgap hrest => ?_)
    (fun {source d gap rest behind token} hgap hd hfollows hends => ?_) rfl
  · rw [List.append_assoc]
    refine h.begins_item hx hgap ?_
    cases hmore with
    | nil => exact absurd rfl hne
    | cons _ _ _ => exact ⟨' ', _, rfl, by decide⟩
  · rw [List.length_append] at hd
    rw [List.append_assoc]
    obtain ⟨k, rfl⟩ : ∃ k, d = k + 1 := ⟨d - 1, by omega⟩
    obtain ⟨next, behind', hnext, htrails, hjoins, hwalrus⟩ := hmore.exists_follows hfollows hends
    have hcomparisons : Reads (readComparisons (grammar source k) closerNext closerNext)
        (gap ++ (text ++ (more ++ rest))) (.comparison (e :: es)) rest := by
      refine (h.binary hgap (by omega) hnext htrails hjoins).bind ?_
      refine hmore.reads [] (by simpa using hne) ?_ (by omega) hfollows hends
      rw [steps_grammar]
      omega
    refine reads_readExpression (reads_readOperand_of_begins h.begins hgap hnext hwalrus hcomparisons)
      hfollows (Token.continues_of_ends hends) ?_
    rw [steps_grammar]
    omega

/-! ### Operators of words -/

theorem isItem_negation (h : IsOperand text e) :
    IsItem readElement ("not ".toList ++ text) (.negation e) := by
  have hlexeme (rest : Text) : IsLexeme "not".toList (.word "not".toList)
      (' ' :: (text ++ rest)) := isLexeme_word isIdentifier_not (by decide) _
  have htext (gap rest : Text) : gap ++ (("not ".toList ++ text) ++ rest)
      = gap ++ ("not".toList ++ (' ' :: (text ++ rest))) := rfl
  refine isItem_of_expression (fun {x gap rest} _ hgap _ => ?_)
    (fun {source d gap rest behind token} hgap hd hfollows hends => ?_) rfl
  · rw [htext]
    exact ⟨_, _, _, (hlexeme rest).next x hgap, rfl, by simp, by simp, by simp⟩
  · have hnot : "not ".toList.length = 4 := rfl
    rw [List.length_append] at hd
    obtain ⟨k, rfl⟩ : ∃ k, d = k + 1 := ⟨d - 1, by omega⟩
    rw [htext]
    have hread : Reads ((grammar source k).expression andLevel {} closerNext)
        (" ".toList ++ (text ++ rest)) e rest :=
      h.expression .blank (by omega) hfollows (Token.ends_of_ends_anyLevel hends _)
    refine reads_readExpression ?_ hfollows (Token.continues_of_ends hends)
      (by rw [steps_grammar]; omega)
    refine (Reads.peek ((hlexeme rest).next _ hgap)).bind ?_
    exact (Reads.take rfl).bind (hread.bind (Reads.pure _ _))

theorem isIdentifier_if : isIdentifier "if".toList = true := by decide

theorem isIdentifier_else : isIdentifier "else".toList = true := by decide

theorem isItem_conditional {test orelse : Text} {e' e'' : Expr} (h : IsOperand text e)
    (htest : IsOperand test e') (horelse : IsOperand orelse e'') :
    IsItem readElement (text ++ (" if ".toList ++ (test ++ (" else ".toList ++ orelse))))
      (.conditional (conditionalText text test orelse) [e, e', e'']) := by
  have hif (after : Expect) (rest : Text) : Follows after
      (" if ".toList ++ (test ++ (" else ".toList ++ (orelse ++ rest)))) (.word "if".toList)
      (" ".toList ++ (test ++ (" else ".toList ++ (orelse ++ rest)))) :=
    follows_spaced isIdentifier_if after _
  have helse (after : Expect) (rest : Text) : Follows after (" else ".toList ++ (orelse ++ rest))
      (.word "else".toList) (" ".toList ++ (orelse ++ rest)) :=
    follows_spaced isIdentifier_else after _
  refine isItem_of_expression (fun {x gap rest} hx hgap _ => ?_)
    (fun {source d gap rest behind token} hgap hd hfollows hends => ?_) rfl
  · simp only [List.append_assoc]
    exact h.begins_item hx hgap (hif {} rest).delimited
  · simp only [List.length_append] at hd
    simp only [List.append_assoc]
    obtain ⟨k, rfl⟩ : ∃ k, d = k + 1 := ⟨d - 1, by omega⟩
    obtain ⟨m, hm⟩ : ∃ m, (grammar source k).steps = m + 2 :=
      ⟨k - 3, by rw [steps_grammar]; omega⟩
    have htestRead : Reads ((grammar source k).expression anyLevel {} {})
        (" ".toList ++ (test ++ (" else ".toList ++ (orelse ++ rest)))) e'
        (" else ".toList ++ (orelse ++ rest)) :=
      htest.expression .blank (by omega) (helse {} rest) (by decide)
    have horelseRead : Reads ((grammar source k).expression anyLevel {} closerNext)
        (" ".toList ++ (orelse ++ rest)) e'' rest :=
      horelse.expression .blank (by omega) hfollows hends
    obtain ⟨_, hifNext⟩ := (hif closerNext rest).next
    obtain ⟨_, helseNext⟩ := (helse {} rest).next
    obtain ⟨_, _, _, htestNext, -⟩ :=
      htest.begins.next (e := operandNext) rfl .blank (helse {} rest).delimited
    obtain ⟨_, _, _, horelseNext, -⟩ :=
      horelse.begins.next (e := operandNext) rfl .blank hfollows.delimited
    have hsource : Reads (textSince (next closerNext.orOperand (.plain (gap ++ (text ++ (" if ".toList
        ++ (test ++ (" else ".toList ++ (orelse ++ rest)))))))).start) rest
        (conditionalText text test orelse) rest := by
      rw [h.begins.start_next _ hgap]
      have hwhole : text ++ (" if ".toList ++ (test ++ (" else ".toList ++ (orelse ++ rest))))
          = conditionalText text test orelse ++ rest := by
        simp [conditionalText]
      rw [hwhole]
      exact Reads.textSince _ rest
    refine (Reads.peek rfl).bind ((h.first hgap (by omega) (hif closerNext rest) (by decide)).bind ?_)
    rw [hm]
    refine Reads.iterate_next ?_ (Reads.iterate_done
      (reads_readWordOperator_none hfollows (Token.continues_of_ends hends) _))
    refine (Reads.peek hifNext).bind ?_
    refine (Reads.take rfl).bind ((Reads.peek htestNext).bind (htestRead.bind ?_))
    refine (Reads.peek helseNext).bind ((Reads.readWord helseNext).bind ?_)
    refine (Reads.peek horelseNext).bind (horelseRead.bind ?_)
    exact hsource.bind (Reads.pure _ _)

/-! ### Chains of `and` and `or` -/

/-- The level of the operands of an operator of words. -/
def operandLevel (operator : String) : Nat := if operator = "or" then orLevel else andLevel

/-- What goes on behind `first` with one operator of words and operands, and the expression that it
makes from the left. -/
inductive IsChain (operator : String) (first : Expr) : Text → Expr → Prop
  | nil : IsChain operator first [] first
  | concat {text right : Text} {e e' : Expr} (hchain : IsChain operator first text e)
      (hright : IsOperand right e') :
      IsChain operator first (text ++ (spaced operator ++ right)) (.boolean operator.toList e e')

theorem follows_chain {operator : String} (h : operator ∈ ["or", "and"]) (after : Expect)
    (rest : Text) : Follows after (spaced operator ++ rest) (.word operator.toList)
      (" ".toList ++ rest) := by
  have hword : isIdentifier operator.toList = true :=
    (by decide : ∀ s ∈ ["or", "and"], isIdentifier s.toList = true) operator h
  rw [spaced, List.append_assoc, List.append_assoc]
  exact follows_spaced hword after rest

/-- A chain is read from its first operand up to the point where the expression may go on. -/
theorem IsChain.reads {operator : String} {first : Expr} {more : Text}
    (h : IsChain operator first more e) (hoperator : operator ∈ ["or", "and"])
    (source start : Text) {d : Nat} (hd : 4 * more.length + 10 ≤ d)
    (hfollows : Follows after rest token behind) (hbinds : token.binds = false)
    (hcontinues : token.continues (operandLevel operator) = false) :
    ∃ k ≤ more.length, ∀ {n : Nat} {e' : Expr} {rest' : Text},
      Reads (iterate (readWordOperator (grammar source d) anyLevel after start) n e) rest e' rest' →
      Reads (iterate (readWordOperator (grammar source d) anyLevel after start) (n + k) first)
        (more ++ rest) e' rest' := by
  induction h generalizing rest token behind with
  | nil => exact ⟨0, Nat.zero_le _, id⟩
  | @concat text right e e' hchain hright ih =>
    have hlength : 0 < (spaced operator).length := by simp [spaced]
    simp only [List.length_append] at hd ⊢
    have hword := follows_chain hoperator after (right ++ rest)
    have hchecks : ∀ s ∈ ["or", "and"], (Token.word s.toList).binds = false
        ∧ (Token.word s.toList).continues (operandLevel s) = false := by decide
    obtain ⟨hwordBinds, hwordContinues⟩ := hchecks operator hoperator
    obtain ⟨k, hk, hreads⟩ := ih (by omega) hword hwordBinds hwordContinues
    refine ⟨k + 1, by omega, fun {n e'' rest'} hlater => ?_⟩
    have hsteps : n + (k + 1) = (n + 1) + k := by omega
    rw [hsteps, List.append_assoc, List.append_assoc]
    refine hreads (Reads.iterate_next ?_ hlater)
    obtain ⟨_, hnext⟩ := hword.next
    have hoperand : Reads ((grammar source d).expression (operandLevel operator) {} after)
        (" ".toList ++ (right ++ rest)) e' rest :=
      hright.expression_of .blank (by omega) hfollows hbinds hcontinues
    refine (Reads.peek hnext).bind ?_
    simp only [List.mem_cons, List.not_mem_nil, or_false] at hoperator
    rcases hoperator with rfl | rfl
    · exact (Reads.take rfl).bind (hoperand.bind (Reads.pure _ _))
    · exact (Reads.take rfl).bind (hoperand.bind (Reads.pure _ _))

theorem IsChain.delimited {operator : String} {first : Expr} {more : Text}
    (h : IsChain operator first more e) (hrest : IsDelimited rest) : IsDelimited (more ++ rest) := by
  induction h generalizing rest with
  | nil => exact hrest
  | @concat text right e e' _ _ ih =>
    rw [List.append_assoc]
    exact ih ⟨' ', _, rfl, by decide⟩

theorem IsChain.exists_follows {operator : String} {first : Expr} {more : Text}
    (h : IsChain operator first more e) (hoperator : operator ∈ ["or", "and"])
    (hfollows : Follows after rest token behind) (hbinds : token.binds = false) :
    ∃ token behind, Follows after (more ++ rest) token behind ∧ token.binds = false := by
  induction h generalizing rest token behind with
  | nil => exact ⟨token, behind, hfollows, hbinds⟩
  | @concat text right e e' _ _ ih =>
    rw [List.append_assoc, List.append_assoc]
    exact ih (follows_chain hoperator after _)
      ((by decide : ∀ s ∈ ["or", "and"], (Token.word s.toList).binds = false) operator hoperator)

theorem isItem_chain {operator : String} {first : Expr} {more : Text} (h : IsOperand text first)
    (hmore : IsChain operator first more e) (hoperator : operator ∈ ["or", "and"]) :
    IsItem readElement (text ++ more) e := by
  refine isItem_of_expression (fun {x gap rest} hx hgap hrest => ?_)
    (fun {source d gap rest behind token} hgap hd hfollows hends => ?_) ?_
  · rw [List.append_assoc]
    exact h.begins_item hx hgap (hmore.delimited hrest)
  · rw [List.length_append] at hd
    rw [List.append_assoc]
    obtain ⟨k, rfl⟩ : ∃ k, d = k + 1 := ⟨d - 1, by omega⟩
    have hbinds := Token.binds_of_ends hends
    have hcontinues := Token.continues_of_ends (Token.ends_of_ends_anyLevel hends (operandLevel operator))
    obtain ⟨next, behind', hnext, hnextBinds⟩ := hmore.exists_follows hoperator hfollows hbinds
    have hfirst : Reads (readOperand (grammar source k) anyLevel closerNext closerNext)
        (gap ++ (text ++ (more ++ rest))) first (more ++ rest) :=
      h.first hgap (by omega) hnext hnextBinds
    refine (Reads.peek rfl).bind (hfirst.bind ?_)
    have hmoreLength : 4 * more.length + 10 ≤ k := by omega
    obtain ⟨n, hn, hreads⟩ := hmore.reads hoperator source _ hmoreLength hfollows hbinds hcontinues
    have hsteps : (grammar source k).steps = ((grammar source k).steps - n - 1 + 1) + n := by
      rw [steps_grammar]
      omega
    rw [hsteps]
    exact hreads (Reads.iterate_done
      (reads_readWordOperator_none hfollows (Token.continues_of_ends hends) _))
  · cases hmore with
    | nil => exact h.solid
    | concat _ _ => rfl

end Testbook.Python
