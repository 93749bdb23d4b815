import Testbook.Proofs.Python.Regular

/-!
The normal form of a regular expression is read again: at each place as what `Expr.reread` says
(`isReread`), by recursion on the expression. A chain of `and` or `or` has no parentheses of its
own on the left side of a longer one, so for it the recursion carries along what is read within its
parentheses (`Expr.IsReread`).
-/

namespace Testbook.Python

open Testbook.Text

variable {role : Role} {text : Text} {e : Expr} {es : List Expr}

/-- That a text is read as an expression, or a part of one, where it stands. -/
def Role.IsReadAs (role : Role) (text : Text) (e : Expr) : Prop :=
  match role with
  | .operand => IsOperand text e
  | .element => IsItem readElement text e
  | .argument => IsItem readArgument text e
  | .entry => IsItem readEntry text e
  | .index => IsIndex text e
  | .parameter => IsParameter text e
  | .clause => IsClause text e
  | .interpolation => IsInterpolation text e

theorem IsOperand.isReadAs (h : IsOperand text e) (hrole : role.isValue = true) :
    role.IsReadAs text e := by
  cases role with
  | operand => exact h
  | element => exact isItem_element h
  | argument => exact isItem_argument h
  | entry => exact isItem_entry_operand h
  | index => exact isIndex_operand h
  | _ => exact absurd hrole (by decide)

/-- That the normal form of an expression is read again wherever it may stand, and as the left side of
a chain. -/
structure Expr.IsReread (e : Expr) : Prop where
  isReadAs (role : Role) (h : e.isRegular role = true) : role.IsReadAs e.render e.reread
  chain (operator : String) (hoperator : operator ∈ ["or", "and"]) (h : e.isRegular .operand = true) :
    ∃ text first more, IsOperand text first
      ∧ IsChain operator first more (leftReread operator.toList e e.reread)
      ∧ leftOperand operator.toList e e.render = text ++ more

/-- The left side of a chain that is none itself. -/
theorem exists_chain (h : IsOperand e.render e.reread) {operator : String}
    (hchain : isChainOf operator.toList e = false) : ∃ text first more, IsOperand text first
      ∧ IsChain operator first more (leftReread operator.toList e e.reread)
      ∧ leftOperand operator.toList e e.render = text ++ more := by
  refine ⟨e.render, e.reread, [], h, ?_, ?_⟩
  · rw [leftReread, hchain]
    exact .nil
  · rw [leftOperand, hchain, List.append_nil]
    rfl

theorem Expr.IsReread.of_isReadAs (hchain : ∀ operator, isChainOf operator e = false)
    (h : ∀ role, e.isRegular role = true → role.IsReadAs e.render e.reread) : e.IsReread where
  isReadAs := h
  chain _ _ hregular := exists_chain (h .operand hregular) (hchain _)

/-! ### Targets -/

theorem isStarTarget_reread : ∀ e : Expr, isStarTarget e = true → isStarTarget e.reread = true
  | .name _, _ | .attribute .., _ | .subscript .., _ => rfl
  | .call function _, h => isStarTarget_reread function h

mutual

/-- What a loop assigns to is a pattern when it is read again. -/
theorem asPattern?_reread (role : Role) : ∀ e : Expr, e.isTarget = true → e.isRegular role = true →
    asPattern? e.reread = some e.reread
  | .name _, _, _ | .attribute .., _, _ | .subscript .., _, _ => rfl
  | .starred stars parts, h, hregular => by
    simp only [Expr.isRegular, Bool.and_eq_true, decide_eq_true_eq] at hregular
    obtain ⟨part, rfl⟩ := List.length_eq_one_iff.1 hregular.1.1.2
    have hpart : isStarTarget part = true := by simpa [Expr.isTarget] using h
    exact if_pos (isStarTarget_reread part hpart)
  | .display .round items, h, hregular => by
    simp only [Expr.isTarget, Expr.isRegular, Bool.and_eq_true] at h hregular
    exact congrArg (Option.map (Expr.display .round)) (asPatterns?_reread .element items h.2 hregular.2)
  | .display .square items, h, hregular => by
    simp only [Expr.isTarget, Expr.isRegular, Bool.and_eq_true] at h hregular
    exact congrArg (Option.map (Expr.display .square)) (asPatterns?_reread .element items h hregular.2)

/-- The same for several targets. -/
theorem asPatterns?_reread (role : Role) : ∀ es : List Expr, areTargets es = true →
    areRegular role es = true → asPattern?.asPatterns? (rereadEach es) = some (rereadEach es)
  | [], _, _ => rfl
  | e :: es, h, hregular => by
    simp only [areTargets, areRegular, Bool.and_eq_true] at h hregular
    have he := asPattern?_reread role e h.1 hregular.1
    have hes := asPatterns?_reread role es h.2 hregular.2
    rw [rereadEach, asPattern?.asPatterns?, he, hes]
    rfl

end

/-! ### Parts of an expression -/

/-- Whether a part is an entry of a dictionary is seen from what is read of it. -/
theorem isEntry_reread (h : e.isRegular .entry = true) : isEntry e.reread = isEntry e := by
  cases e with
  | paren parts =>
    have hoperand : (Expr.paren parts).isRegular .operand = true := h
    exact isEntry_of_isClosed (isClosed_reread _ hoperand)
  | _ => rfl

theorem all_isEntry_reread : ∀ es : List Expr, areRegular .entry es = true →
    (rereadEach es).all isEntry = es.all isEntry ∧ (rereadEach es).any isEntry = es.any isEntry
  | [], _ => ⟨rfl, rfl⟩
  | e :: es, h => by
    simp only [areRegular, Bool.and_eq_true] at h
    obtain ⟨hall, hany⟩ := all_isEntry_reread es h.2
    rw [rereadEach, List.all_cons, List.any_cons, List.all_cons, List.any_cons, hall, hany,
      isEntry_reread h.1]
    exact ⟨rfl, rfl⟩

theorem isReadAs_name {id : Text} (h : (Expr.name id).isRegular role = true) :
    role.IsReadAs id (.name id) := by
  by_cases hrole : role = .parameter
  · rw [hrole] at h ⊢
    exact isParameter_name h
  · simp only [Expr.isRegular, if_neg hrole, isPlainName, Bool.and_eq_true, Bool.not_eq_true'] at h
    have hword := isOperand_word h.2.1.1 h.2.1.2
    rw [wordExpr, h.2.2] at hword
    exact hword.isReadAs h.1

theorem isReadAs_constant {word : Text} (h : (Expr.constant word).isRegular role = true) :
    role.IsReadAs word (.constant word) := by
  by_cases hrole : role = .parameter
  · rw [hrole] at h ⊢
    have hsymbol : word = "*".toList ∨ word = "/".toList := by simpa [Expr.isRegular] using h
    rcases hsymbol with rfl | rfl
    · exact isParameter_separator (by decide)
    · exact isParameter_separator (by decide)
  · simp only [Expr.isRegular, if_neg hrole, Bool.and_eq_true, Bool.or_eq_true, decide_eq_true_eq] at h
    obtain ⟨hvalue, hconstant | rfl⟩ := h
    · obtain ⟨hword, hkey⟩ := (by decide : ∀ w ∈ ["True".toList, "False".toList, "None".toList],
        isIdentifier w = true ∧ isKeyword w = false) word (List.contains_iff_mem.1 hconstant)
      have hoperand := isOperand_word hword hkey
      rw [wordExpr, hconstant] at hoperand
      exact hoperand.isReadAs hvalue
    · exact isOperand_ellipsis.isReadAs hvalue

theorem isReadAs_strings {parts : List Expr} (h : (Expr.strings parts).isRegular role = true)
    (hvalues : ∀ e, .inr e ∈ rowTurns parts → IsInterpolation e.render e.reread) :
    role.IsReadAs (Expr.strings parts).render (Expr.strings parts).reread := by
  simp only [Expr.isRegular, Bool.and_eq_true] at h
  refine IsOperand.isReadAs ?_ h.1.1
  change IsOperand (writeStrings (renderParts parts)) (.strings [rereadRow parts (rereadParts parts)])
  rw [rereadRow]
  rcases row_cases h.1.2 with ⟨sources, hsources, hparts, hformat⟩ | ⟨hsources, hformat⟩
  · rw [hsources, hparts]
    exact (writeStrings_plain hformat).1
  · rw [hsources, rereadParts_eq, writeStrings_format h.1.2 hformat]
    refine isOperand_turns (isQuote_quoteFor ..) fun e he => ⟨hvalues e he, ?_⟩
    have hkept := List.all_eq_true.1 h.2 _ he
    simp only [Sum.elim_inr, List.all_eq_true, decide_eq_true_eq] at hkept
    calc e.render.flatMap (writeChar (rowQuote parts)) = e.render.flatMap (fun c => [c]) :=
        List.flatMap_congr hkept
      _ = e.render := List.flatMap_singleton' _

/-- Stars in front of an operand, where they may stand. -/
theorem isReadAs_starred {stars : Text} {part : Expr}
    (h : (Expr.starred stars [part]).isRegular role = true) (hpart : IsOperand part.render part.reread) :
    role.IsReadAs (Expr.starred stars [part]).render (.starred stars [part.reread]) := by
  have hrender : (Expr.starred stars [part]).render = stars ++ part.render :=
    congrArg (stars ++ ·) List.flatten_singleton
  rw [hrender]
  simp only [Expr.isRegular, Bool.and_eq_true, List.contains_iff_mem, List.mem_map] at h
  obtain ⟨⟨⟨⟨symbol, hsymbol, rfl⟩, -⟩, -⟩, hname⟩ := h
  cases role with
  | element =>
    rw [List.mem_singleton.1 hsymbol]
    exact isItem_element_starred hpart
  | argument => exact isItem_argument_starred hpart hsymbol
  | entry => exact isItem_entry_starred hpart hsymbol
  | parameter =>
    cases part with
    | name id =>
      simp only [List.all_cons, Expr.isPlainName, isPlainName, Bool.or_eq_true, Bool.and_eq_true,
        Bool.not_eq_true'] at hname
      have hplain := hname.resolve_left (by decide)
      exact isParameter_starred hplain.1.1.1 hplain.1.1.2 hplain.1.2 hsymbol
    | _ => exact absurd hname (by simp [Expr.isPlainName])
  | _ => exact absurd hsymbol List.not_mem_nil

theorem isReadAs_display {brackets : Brackets} {items : List Expr}
    (h : (Expr.display brackets items).isRegular role = true)
    (hitems : ∀ place, areRegular place items = true →
      List.Forall₂ place.IsReadAs (renderEach items) (rereadEach items)) :
    role.IsReadAs (writeDisplay brackets (renderEach items)) (.display brackets (rereadEach items)) := by
  cases brackets with
  | round =>
    simp only [Expr.isRegular, Bool.and_eq_true] at h
    exact (isOperand_tuple (hitems .element h.2)).isReadAs h.1
  | square =>
    simp only [Expr.isRegular, Bool.and_eq_true] at h
    exact (isOperand_square (hitems .element h.2)).isReadAs h.1
  | curly =>
    simp only [Expr.isRegular, Bool.and_eq_true, Bool.or_eq_true, Bool.not_eq_true'] at h
    obtain ⟨hall, hany⟩ := all_isEntry_reread items h.1.2
    rw [← hall, ← hany] at h
    exact (isOperand_curly (hitems .entry h.1.2) h.2).isReadAs h.1.1

theorem isReadAs_subscript {value : Expr} {indices : List Expr} {hasComma : Bool}
    (h : (Expr.subscript value indices hasComma).isRegular role = true)
    (hvalue : IsOperand value.render value.reread)
    (hindices : ∀ place, areRegular place indices = true →
      List.Forall₂ place.IsReadAs (renderEach indices) (rereadEach indices)) :
    role.IsReadAs (Expr.subscript value indices hasComma).render
      (.subscript value.reread (joinedIndices (rereadEach indices)) false) := by
  have hrender : (Expr.subscript value indices hasComma).render
      = value.render ++ ("[".toList ++ (grouped (renderEach indices) ++ "]".toList)) :=
    List.append_assoc ..
  simp only [Expr.isRegular, Bool.and_eq_true] at h
  rw [hrender]
  refine IsOperand.isReadAs ?_ h.1.1
  match indices with
  | [] => exact absurd h.2 (by simp)
  | [index] =>
    have hindex : areRegular .index [index] = true := by
      have hsingle := h.2
      rw [if_neg (by simp), Bool.and_eq_true] at hsingle
      exact hsingle.2
    obtain ⟨hread, -⟩ := List.forall₂_cons.1 (hindices .index hindex)
    exact hvalue.subscript hread
  | first :: second :: rest =>
    have hregular : areRegular .element (first :: second :: rest) = true := by simpa using h.2
    have htuple := isOperand_tuple (hindices .element hregular)
    have hwrite : writeDisplay .round (renderEach (first :: second :: rest))
        = grouped (renderEach (first :: second :: rest)) := writeDisplay_round _ _ _
    rw [hwrite] at htuple
    exact hvalue.subscript (isIndex_operand htuple)

/-- What clauses may stand behind is seen from what is read of it. -/
theorem isBody_reread {place : Role} (h : e.isRegular place = true) (hbody : isBody e = true) :
    isBody e.reread = true := by
  cases e with
  | paren parts =>
    have hoperand : (Expr.paren parts).isRegular .operand = true := by
      simp only [Expr.isRegular, Bool.and_eq_true] at h ⊢
      exact ⟨⟨rfl, h.1.2⟩, h.2⟩
    exact isBody_of_isClosed (isClosed_reread _ hoperand)
  | starred stars parts =>
    simp only [Expr.isRegular, Bool.and_eq_true, decide_eq_true_eq] at h
    obtain ⟨part, rfl⟩ := List.length_eq_one_iff.1 h.1.1.2
    simp only [isBody, List.getLast?_singleton, Option.any_some, Bool.and_eq_true] at hbody
    exact Bool.and_eq_true_iff.2 ⟨hbody.1, isStarTarget_reread part hbody.2⟩
  | keyword name value => exact absurd hbody (by simp [isBody])
  | _ => rfl

theorem isReadAs_comprehension {brackets : Brackets} {body : Expr} {clauses : List Expr}
    (h : (Expr.comprehension brackets body clauses).isRegular role = true)
    (hbody : ∀ place, body.isRegular place = true → place.IsReadAs body.render body.reread)
    (hclauses : List.Forall₂ IsClause (renderEach clauses) (rereadEach clauses)) :
    role.IsReadAs (Expr.comprehension brackets body clauses).render
      (.comprehension brackets body.reread (rereadEach clauses)) := by
  simp only [Expr.isRegular, Bool.and_eq_true] at h
  have hitem : IsItem brackets.item body.render body.reread := by
    cases brackets with
    | curly => exact hbody .entry h.1.1.2
    | _ => exact hbody .element h.1.1.2
  cases clauses with
  | nil => exact absurd h.2.1 (by simp)
  | cons first rest =>
    obtain ⟨hfirst, hrest⟩ := List.forall₂_cons.1 hclauses
    refine (isOperand_comprehension brackets hitem (isBody_reread h.1.1.2 h.1.2) hfirst (fun behind => ?_)
      hrest).isReadAs h.1.1.1
    cases first with
    | forClause isAsync target source hasComma => exact ⟨_, follows_spaced isIdentifier_for _ _⟩
    | _ => exact absurd h.2.1 (by simp [Expr.isLoop])

theorem isReread_boolean {symbol : Text} {left right : Expr}
    (hregular : (Expr.boolean symbol left right).isRegular .operand = true) (hleft : left.IsReread)
    (hright : right.IsReread) : (Expr.boolean symbol left right).IsReread := by
  simp only [Expr.isRegular, Bool.and_eq_true, List.contains_iff_mem, List.mem_map] at hregular
  obtain ⟨⟨⟨-, operator, hoperator, rfl⟩, hleftRegular⟩, hrightRegular⟩ := hregular
  have hright : IsOperand right.render right.reread := hright.isReadAs .operand hrightRegular
  obtain ⟨text, first, more, hfirst, hchain, htext⟩ := hleft.chain operator hoperator hleftRegular
  have hinner : leftOperand operator.toList left left.render ++ ' ' :: operator.toList ++ ' ' :: right.render
      = text ++ (more ++ (spaced operator ++ right.render)) := by
    rw [htext]
    simp [spaced]
  have hlonger : IsChain operator first (more ++ (spaced operator ++ right.render))
      (.boolean operator.toList (leftReread operator.toList left left.reread) right.reread) :=
    .concat hchain hright
  have hoperand : IsOperand (Expr.boolean operator.toList left right).render
      (Expr.boolean operator.toList left right).reread := by
    have hparen := isOperand_paren (isItem_chain hfirst hlonger hoperator)
    rw [← hinner] at hparen
    exact hparen
  refine ⟨fun role h => ?_, fun operator' _ _ => ?_⟩
  · simp only [Expr.isRegular, Bool.and_eq_true] at h
    exact hoperand.isReadAs h.1.1.1
  · by_cases hsame : operator.toList = operator'.toList
    · obtain rfl : operator = operator' := String.toList_injective hsame
      have hchainOf : isChainOf operator.toList (.boolean operator.toList left right) = true :=
        decide_eq_true rfl
      refine ⟨text, first, more ++ (spaced operator ++ right.render), hfirst, ?_, ?_⟩
      · rw [leftReread, hchainOf]
        exact hlonger
      · rw [leftOperand, hchainOf, ← hinner]
        exact List.dropLast_concat
    · exact exists_chain hoperand (decide_eq_false hsame)

/-- An operator or comparison in the parentheses of the normal form. -/
theorem IsItem.isReadAs_paren (h : IsItem readElement text e) (hrole : role.isValue = true) :
    role.IsReadAs (parenthesized text) (.paren [e]) := (isOperand_paren h).isReadAs hrole

theorem mem_of_contains {symbols : List String} {symbol : Text}
    (h : (symbols.map String.toList).contains symbol = true) : ∃ s ∈ symbols, s.toList = symbol :=
  List.mem_map.1 (List.contains_iff_mem.1 h)

/-! ### Whole expressions -/

mutual

/-- The normal form of an expression is read again wherever the expression is regular. -/
theorem isReread : ∀ e : Expr, e.IsReread
  | .name id => .of_isReadAs (fun _ => rfl) fun _ h => isReadAs_name h
  | .constant word => .of_isReadAs (fun _ => rfl) fun _ h => isReadAs_constant h
  | .integer literal => .of_isReadAs (fun _ => rfl) fun _ h => by
    simp only [Expr.isRegular, Bool.and_eq_true] at h
    exact (isOperand_integer (isNumeral_writeInteger h.2)).isReadAs h.1
  | .float literal => .of_isReadAs (fun _ => rfl) fun _ h => by
    simp only [Expr.isRegular, Bool.and_eq_true] at h
    exact (isOperand_float (isNumeral_writeFloatLiteral h.2)).isReadAs h.1
  | .strings parts => .of_isReadAs (fun _ => rfl) fun _ h => isReadAs_strings h fun e he => by
    simp only [Expr.isRegular, Bool.and_eq_true] at h
    exact isReadParts parts h.1.2 e he
  | .interpolation value isShown conversion spec => .of_isReadAs (fun _ => rfl) fun _ h => by
    simp only [Expr.isRegular, Bool.and_eq_true, decide_eq_true_eq, Bool.not_eq_true'] at h
    obtain ⟨⟨⟨⟨rfl, hvalue⟩, rfl⟩, hconversion⟩, hspec⟩ := h
    exact isInterpolation_operand ((isReread value).isReadAs .operand hvalue) hconversion hspec
  | .attribute object name => .of_isReadAs (fun _ => rfl) fun _ h => by
    simp only [Expr.isRegular, Bool.and_eq_true, Bool.not_eq_true'] at h
    have hobject : IsOperand object.render object.reread := (isReread object).isReadAs .operand h.1.1.2
    exact (hobject.attribute h.1.2 h.2).isReadAs h.1.1.1
  | .call function arguments => .of_isReadAs (fun _ => rfl) fun _ h => by
    simp only [Expr.isRegular, Bool.and_eq_true] at h
    have hfunction : IsOperand function.render function.reread :=
      (isReread function).isReadAs .operand h.1.2
    exact (hfunction.call (isReadEach .argument arguments h.2)).isReadAs h.1.1
  | .keyword name value => .of_isReadAs (fun _ => rfl) fun _ h => by
    simp only [Expr.isRegular, Bool.and_eq_true, decide_eq_true_eq, Bool.not_eq_true'] at h
    obtain ⟨⟨⟨rfl, hname⟩, hreserved⟩, hvalue⟩ := h
    exact isItem_keyword ((isReread value).isReadAs .operand hvalue) hname hreserved
  | .starred stars [part] => .of_isReadAs (fun _ => rfl) fun _ h => by
    have hpart : part.isRegular .operand = true := by
      simp only [Expr.isRegular, areRegular, Bool.and_eq_true] at h
      exact h.1.2.1
    exact isReadAs_starred h ((isReread part).isReadAs .operand hpart)
  | .starred _ [] | .starred _ (_ :: _ :: _) => .of_isReadAs (fun _ => rfl) fun _ h => by
    simp [Expr.isRegular] at h
  | .paren [part] => .of_isReadAs (fun _ => rfl) fun _ h => by
    simp only [Expr.isRegular, areRegular, Bool.and_eq_true] at h
    have hpart : IsOperand part.render part.reread := (isReread part).isReadAs .operand h.2.1
    rw [render_paren]
    exact hpart.isReadAs h.1.1
  | .paren [] | .paren (_ :: _ :: _) => .of_isReadAs (fun _ => rfl) fun _ h => by
    simp [Expr.isRegular] at h
  | .display brackets items => .of_isReadAs (fun _ => rfl) fun _ h =>
    isReadAs_display h fun place hplace => isReadEach place items hplace
  | .pair key value => .of_isReadAs (fun _ => rfl) fun _ h => by
    simp only [Expr.isRegular, Bool.and_eq_true, decide_eq_true_eq] at h
    obtain ⟨⟨rfl, hkey⟩, hvalue⟩ := h
    have hpair := isItem_pair ((isReread key).isReadAs .operand hkey)
      ((isReread value).isReadAs .operand hvalue)
    rw [← List.append_assoc] at hpair
    exact hpair
  | .comprehension brackets body clauses => .of_isReadAs (fun _ => rfl) fun _ h => by
    have hclauses : areRegular .clause clauses = true := by
      simp only [Expr.isRegular, Bool.and_eq_true] at h
      exact h.2.2
    exact isReadAs_comprehension h (isReread body).isReadAs (isReadEach .clause clauses hclauses)
  | .forClause isAsync target [source] hasComma => .of_isReadAs (fun _ => rfl) fun _ h => by
    simp only [Expr.isRegular, areRegular, Bool.and_eq_true, decide_eq_true_eq, Bool.not_eq_true'] at h
    obtain ⟨⟨⟨⟨⟨⟨rfl, rfl⟩, htarget⟩, hregular⟩, -⟩, hsource, -⟩, rfl⟩ := h
    have hclause := isClause_for ((isReread target).isReadAs .operand hregular)
      (asPattern?_reread .operand target htarget hregular) ((isReread source).isReadAs .operand hsource)
    rw [← List.append_assoc, ← List.append_assoc] at hclause
    exact hclause
  | .forClause _ _ [] _ | .forClause _ _ (_ :: _ :: _) _ => .of_isReadAs (fun _ => rfl) fun _ h => by
    simp [Expr.isRegular] at h
  | .ifClause [part] => .of_isReadAs (fun _ => rfl) fun _ h => by
    simp only [Expr.isRegular, areRegular, Bool.and_eq_true, decide_eq_true_eq] at h
    obtain ⟨⟨rfl, -⟩, hpart, -⟩ := h
    have hclause := isClause_if ((isReread part).isReadAs .operand hpart)
    rw [← List.flatten_singleton (l := part.render)] at hclause
    exact hclause
  | .ifClause [] | .ifClause (_ :: _ :: _) => .of_isReadAs (fun _ => rfl) fun _ h => by
    simp [Expr.isRegular] at h
  | .conditional source parts => .of_isReadAs (fun _ => rfl) fun _ h => by
    simp only [Expr.isRegular, Bool.and_eq_true, decide_eq_true_eq] at h
    have hparts := isReadEach .operand parts h.2
    obtain ⟨body, test, orelse, rfl⟩ := List.length_eq_three.1 h.1.2
    simp only [renderEach, rereadEach, List.forall₂_cons] at hparts
    have hitem := isItem_conditional hparts.1 hparts.2.1 hparts.2.2.1
    simp only [← List.append_assoc] at hitem
    exact hitem.isReadAs_paren h.1.1
  | .unary symbol operand => .of_isReadAs (fun _ => rfl) fun _ h => by
    simp only [Expr.isRegular, Bool.and_eq_true] at h
    obtain ⟨sign, hsign, rfl⟩ := mem_of_contains h.1.2
    exact (isItem_unary ((isReread operand).isReadAs .operand h.2) hsign).isReadAs_paren h.1.1
  | .negation operand => .of_isReadAs (fun _ => rfl) fun _ h => by
    simp only [Expr.isRegular, Bool.and_eq_true] at h
    exact (isItem_negation ((isReread operand).isReadAs .operand h.2)).isReadAs_paren h.1
  | .binary symbol left right => .of_isReadAs (fun _ => rfl) fun _ h => by
    simp only [Expr.isRegular, Bool.and_eq_true] at h
    obtain ⟨operator, hoperator, rfl⟩ := mem_of_contains h.1.1.2
    have hitem := isItem_binary ((isReread left).isReadAs .operand h.1.2)
      ((isReread right).isReadAs .operand h.2) hoperator
    rw [← List.append_assoc " ".toList, ← List.append_assoc] at hitem
    exact hitem.isReadAs_paren h.1.1.1
  | .boolean symbol left right =>
    { isReadAs := fun role h => by
        have hregular : (Expr.boolean symbol left right).isRegular .operand = true := by
          simp only [Expr.isRegular, Bool.and_eq_true] at h ⊢
          exact ⟨⟨⟨rfl, h.1.1.2⟩, h.1.2⟩, h.2⟩
        exact (isReread_boolean hregular (isReread left) (isReread right)).isReadAs role h
      chain := fun operator hoperator h =>
        (isReread_boolean h (isReread left) (isReread right)).chain operator hoperator h }
  | .comparison (first :: rest) => .of_isReadAs (fun _ => rfl) fun _ h => by
    simp only [Expr.isRegular, Bool.and_eq_true, decide_eq_true_eq] at h
    obtain ⟨⟨hrole, hlength⟩, hparts⟩ := h
    rcases areComparands_cases hparts with ⟨_, -, -, hfalse, -⟩ | ⟨-, hfirst, hrest⟩
    · exact absurd hfalse (by decide)
    · have hne : rereadEach rest ≠ [] := by
        rw [← List.length_pos_iff, length_rereadEach]
        simp only [List.length_cons] at hlength
        omega
      have hitem := isItem_comparison ((isReread first).isReadAs .operand hfirst)
        (isComparands_reread rest hrest) hne
      rw [← renderComparands_of_isRegular hfirst] at hitem
      exact hitem.isReadAs_paren hrole
  | .comparison [] => .of_isReadAs (fun _ => rfl) fun _ h => by simp [Expr.isRegular] at h
  | .subscript value indices hasComma => .of_isReadAs (fun _ => rfl) fun _ h => by
    have hvalue : value.isRegular .operand = true := by
      simp only [Expr.isRegular, Bool.and_eq_true] at h
      exact h.1.2
    exact isReadAs_subscript h ((isReread value).isReadAs .operand hvalue)
      fun place hplace => isReadEach place indices hplace
  | .slice lower upper step => .of_isReadAs (fun _ => rfl) fun _ h => by
    simp only [Expr.isRegular, Bool.and_eq_true, decide_eq_true_eq] at h
    obtain ⟨⟨⟨rfl, hlower⟩, hupper⟩, hstep⟩ := h
    have hslice := isIndex_slice (isBound_reread lower hlower) (isBound_reread upper hupper)
      (isBound_reread step hstep)
    have hstepText : stepText (renderBound step) (rereadBound step) = renderStep step := by
      cases step <;> rfl
    have hrender : (Expr.slice lower upper step).render = renderBound lower ++ (":".toList
        ++ (renderBound upper ++ stepText (renderBound step) (rereadBound step))) := by
      rw [hstepText]
      exact List.append_assoc ..
    rw [hrender]
    exact hslice
  | .lambda parameters body => .of_isReadAs (fun _ => rfl) fun _ h => by
    simp only [Expr.isRegular, Bool.and_eq_true] at h
    have hitem := isItem_lambda (isReadEach .parameter parameters h.1.2)
      ((isReread body).isReadAs .operand h.2)
    simp only [← List.append_assoc] at hitem
    exact hitem.isReadAs_paren h.1.1
  | .defaulted name value => .of_isReadAs (fun _ => rfl) fun _ h => by
    simp only [Expr.isRegular, Bool.and_eq_true, decide_eq_true_eq] at h
    obtain ⟨⟨rfl, hname⟩, hvalue⟩ := h
    cases name with
    | name id => exact isParameter_defaulted hname ((isReread value).isReadAs .operand hvalue)
    | _ => exact absurd hname (by simp [Expr.isParameterName])
  | .plain _ | .format .. | .chunk _ | .operator _ | .verbatim _ =>
    .of_isReadAs (fun _ => rfl) fun _ h => by simp [Expr.isRegular] at h

/-- The same for the operators and operands behind the first operand of a chain of comparisons. -/
theorem isComparands_reread : ∀ es : List Expr, areComparands true es = true →
    IsComparands (renderComparands es) (rereadEach es)
  | [], _ => .nil
  | [e], h => by
    rcases areComparands_cases h with ⟨_, -, -, -, hfalse⟩ | ⟨hfalse, -⟩ <;> exact absurd hfalse (by decide)
  | operator :: e :: es, h => by
    rcases areComparands_cases h with ⟨symbol, hsymbol, rfl, -, hmore⟩ | ⟨hfalse, -⟩
    · rcases areComparands_cases hmore with ⟨_, -, -, hfalse, -⟩ | ⟨-, he, hes⟩
      · exact absurd hfalse (by decide)
      · obtain ⟨s, hs, rfl⟩ := List.mem_map.1 hsymbol
        have hcons := IsComparands.cons hs ((isReread e).isReadAs .operand he) (isComparands_reread es hes)
        have hrender : renderComparands (.operator s.toList :: e :: es)
            = spaced s ++ (e.render ++ renderComparands es) := by
          rw [← renderComparands_of_isRegular he, spaced]
          simp [renderComparands]
        rw [hrender]
        exact hcons
    · exact absurd hfalse (by decide)

/-- The same for a bound of a slice. -/
theorem isBound_reread : ∀ bound : Option Expr, isRegularBound bound = true →
    IsBound (renderBound bound) (rereadBound bound)
  | none, _ => .inl ⟨rfl, rfl⟩
  | some e, h => .inr ⟨e.reread, rfl, (isReread e).isReadAs .operand h⟩

/-- The same for several expressions at a place. -/
theorem isReadEach (role : Role) : ∀ es : List Expr, areRegular role es = true →
    List.Forall₂ role.IsReadAs (renderEach es) (rereadEach es)
  | [], _ => .nil
  | e :: es, h => by
    simp only [areRegular, Bool.and_eq_true] at h
    exact .cons ((isReread e).isReadAs role h.1) (isReadEach role es h.2)

/-- The same for the values in a row of literals. -/
theorem isReadParts : ∀ parts : List Expr, areRegularParts parts = true → ∀ e, .inr e ∈ rowTurns parts →
    IsInterpolation e.render e.reread
  | [], _, _, he => absurd he List.not_mem_nil
  | part :: parts, h, e, he => by
    cases part with
    | plain source =>
      have hparts := (Bool.and_eq_true_iff.1 h).2
      rcases List.mem_cons.1 he with heq | he
      · cases heq
      · exact isReadParts parts hparts e he
    | format source pieces =>
      obtain ⟨hformat, hparts⟩ := Bool.and_eq_true_iff.1 h
      rcases List.mem_append.1 he with he | he
      · exact isReadPieces _ pieces (Bool.and_eq_true_iff.1 hformat).2 e he
      · exact isReadParts parts hparts e he
    | _ => cases h

/-- The same for the values in a literal. -/
theorem isReadPieces (raw : Bool) : ∀ pieces : List Expr, areRegularPieces raw pieces = true →
    ∀ e, .inr e ∈ pieceTurns raw pieces → IsInterpolation e.render e.reread
  | [], _, _, he => absurd he List.not_mem_nil
  | piece :: pieces, h, e, he => by
    obtain ⟨hpieces, ⟨source, rfl, -⟩ | ⟨hpiece, hturns, -⟩⟩ := areRegularPieces_cases h
    · rcases List.mem_cons.1 he with heq | he
      · cases heq
      · exact isReadPieces raw pieces hpieces e he
    · rw [hturns] at he
      rcases List.mem_cons.1 he with heq | he
      · cases heq
        exact (isReread piece).isReadAs .interpolation hpiece
      · exact isReadPieces raw pieces hpieces e he

end

end Testbook.Python
