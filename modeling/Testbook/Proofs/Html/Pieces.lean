import Testbook.Proofs.Html.Reading
import Testbook.Proofs.Text.Pieces

/-!
Texts as pieces. The tokens of a text stand side by side in it: each takes up a piece that spells
it, and after the last there may be a lone opening bracket and nothing else (`exists_pieces`). What
a piece looks like is said for each kind of token by itself (`IsSpelled`), so the bytes of a tag are
known to reach from its opening bracket to its closing one.
-/

namespace Testbook.Html

open Testbook.Text

/-- How tokens are spelled. A tag ends with the first closing bracket outside of quotes. An end tag
and an instruction may lack theirs. -/
inductive IsSpelled : Token → Text → Prop
  | tag {inside : Text} (hfirst : ∀ c, inside.head? = some c → c ≠ '!' ∧ c ≠ '?' ∧ c ≠ '/')
      (hend : untilTagEnd none (inside ++ ['>']) = some (inside, [])) :
    IsSpelled (readTag inside) ('<' :: (inside ++ ['>']))
  | closing {inside : Text} (h : '>' ∉ inside) :
    IsSpelled (.closing (closingName inside)) ('<' :: '/' :: (inside ++ ['>']))
  | lastClosing {inside : Text} (h : '>' ∉ inside) :
    IsSpelled (.closing (closingName inside)) ('<' :: '/' :: inside)
  | characters {content : Text} (hne : content ≠ []) (h : '<' ∉ content) :
    IsSpelled (.characters content) content
  | verbatim {content : Text} (h : startsWithWord "[cdata[" content = true) :
    IsSpelled .verbatim ('<' :: '!' :: (content ++ [']', ']', '>']))
  | declaration (content : Text) : IsSpelled .passed ('<' :: '!' :: (content ++ ['>']))
  | instruction (content : Text) : IsSpelled .passed ('<' :: '?' :: (content ++ ['>']))
  | lastInstruction (content : Text) : IsSpelled .passed ('<' :: '?' :: content)

variable {text content rest : Text} {token : Token}

theorem IsSpelled.ne_nil (h : IsSpelled token text) : text ≠ [] := by
  cases h with
  | characters hne _ => exact hne
  | _ => exact List.cons_ne_nil _ _

/-! ### What is read of a tag -/

theorem untilBracket_eq_some {ends : Text → Bool} {before : Text}
    (h : untilBracket ends before text = some (content, rest)) :
    ∃ passed, content = before.reverse ++ passed ∧ text = passed ++ '>' :: rest
      ∧ ends content = true := by
  induction text generalizing before with
  | nil => cases h
  | cons c cs ih =>
    rw [untilBracket] at h
    split at h
    · next hend =>
      rw [Bool.and_eq_true, decide_eq_true_eq] at hend
      obtain ⟨rfl, hend⟩ := hend
      cases h
      exact ⟨[], (List.append_nil _).symm, rfl, hend⟩
    · obtain ⟨passed, rfl, rfl, hend⟩ := ih h
      exact ⟨c :: passed, by rw [List.reverse_cons, List.append_assoc]; rfl, rfl, hend⟩

theorem not_mem_toBracket (text : Text) : '>' ∉ (toBracket text).1 := by
  intro hmem
  simpa using List.mem_takeWhile_imp hmem

/-- A bracket is found and passed over, or the text has none. -/
theorem toBracket_cases (text : Text) : text = (toBracket text).1 ++ '>' :: (toBracket text).2
    ∨ text = (toBracket text).1 ∧ (toBracket text).2 = [] := by
  have hwhole : text = text.takeWhile (· != '>') ++ text.dropWhile (· != '>') :=
    List.takeWhile_append_dropWhile.symm
  rw [toBracket]
  cases hrest : text.dropWhile (· != '>') with
  | nil =>
    rw [hrest, List.append_nil] at hwhole
    exact .inr ⟨hwhole, rfl⟩
  | cons c cs =>
    have hhead := List.head?_dropWhile_not (· != '>') text
    rw [hrest] at hhead hwhole
    obtain rfl : c = '>' := by simpa using hhead
    exact .inl hwhole

/-- The end of a tag is found without a look at what follows it. -/
theorem untilTagEnd_eq_some {quote : Option Char}
    (h : untilTagEnd quote text = some (content, rest)) :
    text = content ++ '>' :: rest ∧ untilTagEnd quote (content ++ ['>']) = some (content, []) := by
  induction text generalizing quote content with
  | nil => cases h
  | cons c cs ih =>
    have step {q : Option Char}
        (h : (untilTagEnd q cs).map (fun found => (c :: found.1, found.2)) = some (content, rest)) :
        ∃ inside, content = c :: inside ∧ cs = inside ++ '>' :: rest
          ∧ (untilTagEnd q (inside ++ ['>'])).map (fun found => (c :: found.1, found.2))
            = some (content, []) := by
      obtain ⟨⟨inside, behind⟩, hfound, he⟩ := Option.map_eq_some_iff.1 h
      obtain ⟨rfl, rfl⟩ := Prod.mk.inj he
      obtain ⟨hcs, hend⟩ := ih hfound
      exact ⟨inside, rfl, hcs, by rw [hend]; rfl⟩
    cases quote with
    | none =>
      simp only [untilTagEnd] at h
      split at h
      · next hc =>
        cases h
        exact ⟨by rw [hc]; rfl, rfl⟩
      · next hc =>
        obtain ⟨inside, rfl, rfl, hend⟩ := step h
        refine ⟨rfl, ?_⟩
        rw [List.cons_append]
        simp only [untilTagEnd, if_neg hc]
        exact hend
    | some q =>
      obtain ⟨inside, rfl, rfl, hend⟩ := step h
      exact ⟨rfl, hend⟩

theorem readDeclaration_eq_some (h : readDeclaration text = some (token, rest)) :
    ∃ passed, text = passed ++ rest ∧ IsSpelled token ('<' :: '!' :: passed) := by
  have hclosed {passed : Text} : passed ++ '>' :: rest = (passed ++ ['>']) ++ rest := by simp
  unfold readDeclaration at h
  split at h
  · split at h
    · next hfound =>
      split at h
      · cases h
        obtain ⟨passed, -, hpassed, -⟩ := untilBracket_eq_some hfound
        exact ⟨passed ++ ['>'], by rw [hpassed, hclosed], .declaration passed⟩
      · cases h
    · cases h
  · simp only [Option.bind_eq_bind, Option.bind_eq_some_iff] at h
    obtain ⟨⟨content, behind⟩, hfound, h⟩ := h
    split at h
    · next hword =>
      cases h
      obtain ⟨passed, hcontent, hpassed, hends⟩ := untilBracket_eq_some hfound
      obtain rfl : content = passed := hcontent
      obtain ⟨kept, hkept⟩ := Option.isSome_iff_exists.1 hends
      obtain rfl := dropEnd?_eq_some hkept
      rw [List.length_append, List.length_cons, List.length_singleton, Nat.add_sub_cancel,
        List.take_left] at hword
      exact ⟨kept ++ [']', ']', '>'], by rw [hpassed]; simp, .verbatim hword⟩
    · cases h
  · split at h
    · cases h
    · simp only [Option.bind_eq_bind, Option.bind_eq_some_iff] at h
      obtain ⟨⟨content, behind⟩, hfound, h⟩ := h
      split at h
      · cases h
        obtain ⟨passed, -, hpassed, -⟩ := untilBracket_eq_some hfound
        exact ⟨passed ++ ['>'], by rw [hpassed, hclosed], .declaration passed⟩
      · cases h
  · cases h

/-- Markup that is read spells its token, and what follows it is left. -/
theorem readMarkup_eq_some (h : readMarkup text = some (token, rest)) :
    ∃ passed, text = passed ++ rest ∧ IsSpelled token ('<' :: passed) := by
  have hopen {c : Char} {behind inside rest : Text} (h : behind = inside ++ '>' :: rest) :
      c :: behind = c :: (inside ++ ['>']) ++ rest := by
    rw [h, List.cons_append, List.append_assoc]
    rfl
  have hlast {c : Char} {behind inside rest : Text} (h : behind = inside) (hrest : rest = []) :
      c :: behind = c :: inside ++ rest := by
    rw [hrest, List.append_nil, h]
  unfold readMarkup at h
  split at h
  · obtain ⟨passed, rfl, hspelled⟩ := readDeclaration_eq_some h
    exact ⟨'!' :: passed, rfl, hspelled⟩
  · next behind =>
    simp only [readInstruction] at h
    split at h
    · cases h
      rcases toBracket_cases behind with hfound | ⟨hall, hrest⟩
      · exact ⟨'?' :: ((toBracket behind).1 ++ ['>']), hopen hfound, .instruction _⟩
      · exact ⟨'?' :: (toBracket behind).1, hlast hall hrest, .lastInstruction _⟩
    · cases h
  · next behind =>
    cases h
    have hnot := not_mem_toBracket behind
    rcases toBracket_cases behind with hfound | ⟨hall, hrest⟩
    · exact ⟨'/' :: ((toBracket behind).1 ++ ['>']), hopen hfound, .closing hnot⟩
    · exact ⟨'/' :: (toBracket behind).1, hlast hall hrest, .lastClosing hnot⟩
  · next hdeclaration hinstruction hclosing =>
    obtain ⟨⟨inside, behind⟩, hfound, he⟩ := Option.map_eq_some_iff.1 h
    obtain ⟨rfl, rfl⟩ := Prod.mk.inj he
    obtain ⟨rfl, hend⟩ := untilTagEnd_eq_some hfound
    refine ⟨inside ++ ['>'], by simp, .tag (fun c hc => ?_) hend⟩
    obtain ⟨cs, rfl⟩ := List.head?_eq_some_iff.1 hc
    refine ⟨?_, ?_, ?_⟩
    · rintro rfl
      exact hdeclaration _ rfl
    · rintro rfl
      exact hinstruction _ rfl
    · rintro rfl
      exact hclosing _ rfl

/-! ### Pieces side by side -/

/-- A token with the text that spells it. -/
structure Piece where
  token : Token
  text : Text
  deriving DecidableEq, Repr

/-- The text of pieces side by side. -/
def textOf (pieces : List Piece) : Text := pieces.flatMap (·.text)

@[simp]
theorem textOf_nil : textOf [] = [] := rfl

@[simp]
theorem textOf_cons (piece : Piece) (pieces : List Piece) :
    textOf (piece :: pieces) = piece.text ++ textOf pieces := List.flatMap_cons

@[simp]
theorem textOf_append (a b : List Piece) : textOf (a ++ b) = textOf a ++ textOf b :=
  List.flatMap_append

/-- The tokens of pieces with the bytes they take up, the first of which begins at byte `start`. -/
def placed (start : Nat) : List Piece → List Lexeme
  | [] => []
  | piece :: pieces =>
    let stop := start + utf8Length piece.text
    ⟨piece.token, start, stop⟩ :: placed stop pieces

/-- The text is these pieces side by side, with a lone opening bracket behind them or nothing. -/
structure IsCutInto (text : Text) (pieces : List Piece) : Prop where
  spelled : ∀ piece ∈ pieces, IsSpelled piece.token piece.text
  whole : text = textOf pieces ∨ text = textOf pieces ++ ['<']

theorem IsCutInto.cons {pieces : List Piece} (h : IsCutInto rest pieces)
    (hspelled : IsSpelled token text) : IsCutInto (text ++ rest) (⟨token, text⟩ :: pieces) where
  spelled := List.forall_mem_cons.2 ⟨hspelled, h.spelled⟩
  whole := by
    rw [textOf_cons, List.append_assoc]
    exact h.whole.imp (congrArg (text ++ ·)) (congrArg (text ++ ·))

theorem IsCutInto.exists_loose {pieces : List Piece} (h : IsCutInto text pieces) :
    ∃ loose, text = textOf pieces ++ loose := by
  rcases h.whole with hwhole | hwhole
  · exact ⟨[], by rw [List.append_nil]; exact hwhole⟩
  · exact ⟨['<'], hwhole⟩

/-- The tokens of a text are those of pieces that it is cut into, at their bytes. -/
theorem exists_pieces {start : Nat} {tokens : List Lexeme} (h : lexemes start text = some tokens) :
    ∃ pieces, IsCutInto text pieces ∧ tokens = placed start pieces := by
  fun_induction lexemes start text generalizing tokens with
  | case1 =>
    cases h
    exact ⟨[], ⟨by simp, .inl rfl⟩, rfl⟩
  | case2 start cs hcs =>
    cases h
    rw [List.isEmpty_iff.1 hcs]
    exact ⟨[], ⟨by simp, .inr rfl⟩, rfl⟩
  | case3 => cases h
  | case4 start cs hcs token rest hread stop =>
    rename_i ih
    obtain ⟨passed, hpassed, hspelled⟩ := readMarkup_eq_some hread
    have hstop : stop = start + utf8Length ('<' :: passed) := by
      simp only [stop, hpassed, utf8Length_cons, utf8Length_append]
      omega
    obtain ⟨later, hlater, rfl⟩ := Option.map_eq_some_iff.1 h
    obtain ⟨pieces, hcut, rfl⟩ := ih hlater
    refine ⟨⟨token, '<' :: passed⟩ :: pieces, ?_, by rw [placed, ← hstop]⟩
    rw [hpassed]
    exact hcut.cons hspelled
  | case5 start c cs hc content stop =>
    rename_i ih
    have hnot : '<' ∉ content := by
      rw [List.mem_cons, not_or]
      refine ⟨Ne.symm hc, fun hmem => ?_⟩
      simpa using List.mem_takeWhile_imp hmem
    have hwhole : c :: cs = content ++ cs.dropWhile (· != '<') := by
      rw [List.cons_append, List.takeWhile_append_dropWhile]
    obtain ⟨later, hlater, rfl⟩ := Option.map_eq_some_iff.1 h
    obtain ⟨pieces, hcut, rfl⟩ := ih hlater
    refine ⟨⟨.characters content, content⟩ :: pieces, ?_, rfl⟩
    rw [hwhole]
    exact hcut.cons (.characters (List.cons_ne_nil _ _) hnot)

end Testbook.Html
