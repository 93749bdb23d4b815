import Testbook.Proofs.Python.Literal
import Testbook.Proofs.Python.Operand
import Testbook.Proofs.Python.Tree

/-!
String literals in normal form as operands. The reader goes along stretches of characters and escape
sequences up to the closing quote, each of which takes at least one character of the body
(`exists_reads_pieces`), so a written literal is read back as it stands (`isOperand_written`). It stands
for the text or the bytes that it was written for (`literal_writeText`, `literal_writeBytes`).
-/

namespace Testbook.Python

open Testbook.Text

variable {body rest text gap : Text} {quote : Char} {isBytes : Bool} {g : Grammar}

/-- The opening of a written literal: neither raw nor with interpolations, and with one quote. -/
def Opening.written (isBytes : Bool) (quote : Char) : Opening := ⟨false, isBytes, false, quote, false⟩

/-! ### Bodies -/

theorem readStretch_written (isNonempty : Bool) (c : Char) (cs : Text) :
    readStretch (.written isBytes quote) isNonempty (c :: cs)
      = if c = '\\' then
          if isBytes && cs.head?.any (· ∈ ['N', 'u', 'U']) then
            readStretch (.written isBytes quote) true (cs.drop 1)
          else .upTo isNonempty (c :: cs)
        else if c = quote then if isNonempty then .content (c :: cs) else .finish cs
        else if c = '\n' && isNonempty then .stop
        else readStretch (.written isBytes quote) true cs := by
  rw [readStretch.eq_def]
  simp [Opening.written]

/-- There is no content in front of an escape sequence. -/
theorem readStretch_escape {code : Text} (h : IsEscape code) (isNonempty : Bool) (rest : Text) :
    readStretch (.written isBytes quote) isNonempty ('\\' :: (code ++ rest))
      = .upTo isNonempty ('\\' :: (code ++ rest)) := by
  obtain ⟨c, cs, rfl, hc⟩ := h.head
  have hhead : ((c :: cs ++ rest).head?.any fun d => d ∈ ['N', 'u', 'U']) = false := by
    simpa using hc
  rw [readStretch_written, if_pos rfl, hhead, Bool.and_false]
  rfl

/-- A stretch of content ends at an escape sequence or at the closing quote. -/
theorem exists_readStretch (isBytes : Bool) (h : IsBody quote body) (hback : quote ≠ '\\') (rest : Text) :
    ∃ body', IsBody quote body' ∧ body'.length ≤ body.length
      ∧ readStretch (.written isBytes quote) true (body ++ quote :: rest)
        = .content (body' ++ quote :: rest) := by
  induction h with
  | nil =>
    refine ⟨[], .nil, Nat.le_refl _, ?_⟩
    rw [List.nil_append, readStretch_written, if_neg hback, if_pos rfl]
    rfl
  | @plain c body hc hbody ih =>
    obtain ⟨body', hbody', hlength, hstretch⟩ := ih
    simp only [List.mem_cons, List.not_mem_nil, or_false, not_or] at hc
    refine ⟨body', hbody', Nat.le_succ_of_le hlength, ?_⟩
    rw [List.cons_append, readStretch_written, if_neg hc.1, if_neg hc.2.2, decide_eq_false hc.2.1]
    exact hstretch
  | @escape code body hcode hbody _ =>
    refine ⟨_, .escape hcode hbody, Nat.le_refl _, ?_⟩
    rw [List.cons_append, List.append_assoc, readStretch_escape hcode]
    rfl

/-- The pieces when reading has gone on from a text to a rest of it. -/
def Pieces.keep (p : Pieces) (text rest : Text) : Pieces :=
  { p with content := p.content ++ text.take (text.length - rest.length) }

/-- One step takes off a stretch or an escape sequence, or ends at the closing quote. -/
theorem exists_reads_readPiece (h : IsBody quote body) (hback : quote ≠ '\\') (rest : Text)
    (p : Pieces) :
    (∃ pieces, Reads (readPiece g (.written isBytes quote) p) (body ++ quote :: rest) (.inr pieces) rest)
      ∨ ∃ p' body', IsBody quote body' ∧ body'.length < body.length
        ∧ Reads (readPiece g (.written isBytes quote) p) (body ++ quote :: rest) (.inl p')
          (body' ++ quote :: rest) := by
  cases h with
  | nil =>
    left
    have hstretch : readStretch (.written isBytes quote) false (quote :: rest) = .finish rest := by
      rw [readStretch_written, if_neg hback, if_pos rfl]
      rfl
    refine ⟨p.flush.reverse, (Reads.get _).bind ?_⟩
    dsimp only [Cursor.plain, List.nil_append]
    rw [hstretch]
    exact (Reads.set _ _).bind (Reads.pure _ _)
  | @plain c body hc hbody =>
    right
    obtain ⟨body', hbody', hlength, hstretch⟩ :=
      exists_readStretch isBytes hbody hback rest
    simp only [List.mem_cons, List.not_mem_nil, or_false, not_or] at hc
    have hfirst : readStretch (.written isBytes quote) false (c :: (body ++ quote :: rest))
        = .content (body' ++ quote :: rest) := by
      rw [readStretch_written, if_neg hc.1, if_neg hc.2.2, Bool.and_false]
      exact hstretch
    refine ⟨p.keep (c :: body ++ quote :: rest) (body' ++ quote :: rest), body', hbody',
      Nat.lt_succ_of_le hlength, (Reads.get _).bind ?_⟩
    dsimp only [Cursor.plain, List.cons_append]
    rw [hfirst]
    exact (Reads.set _ _).bind (Reads.pure _ _)
  | @escape code body hcode hbody =>
    right
    have hstretch : readStretch (.written isBytes quote) false ('\\' :: (code ++ (body ++ quote :: rest)))
        = .stop := readStretch_escape hcode _ _
    have hlength : 0 < code.length := by
      obtain ⟨c, cs, rfl, -⟩ := hcode.head
      exact Nat.succ_pos _
    refine ⟨p.keep ('\\' :: (code ++ body) ++ quote :: rest) (body ++ quote :: rest), body, hbody,
      by rw [List.length_cons, List.length_append]; omega, (Reads.get _).bind ?_⟩
    rw [List.cons_append, List.append_assoc]
    dsimp only [Cursor.plain]
    rw [hstretch, hcode.length, List.drop_left]
    exact (Reads.set _ _).bind (Reads.pure _ _)

/-- A body is read up to and with its closing quote. -/
theorem exists_reads_pieces (g : Grammar) (isBytes : Bool) (h : IsBody quote body) (hback : quote ≠ '\\')
    (rest : Text) {n : Nat} (hn : body.length < n) (p : Pieces) : ∃ pieces,
      Reads (iterate (readPiece g (.written isBytes quote)) n p) (body ++ quote :: rest) pieces rest := by
  induction n generalizing body p with
  | zero => exact absurd hn (Nat.not_lt_zero _)
  | succ n ih =>
    rcases exists_reads_readPiece h hback rest p with ⟨pieces, hread⟩ | ⟨p', body', hbody', hlength, hread⟩
    · exact ⟨pieces, Reads.iterate_done hread⟩
    · obtain ⟨pieces, hlater⟩ := ih hbody' (by omega) p'
      exact ⟨pieces, Reads.iterate_next hread hlater⟩

/-! ### Literals -/

/-- The letters in front of a written literal, if any. -/
def writtenLetters (isBytes : Bool) : List Text := if isBytes then [['b']] else [[], ['u']]

/-- A text that is written as a literal: letters, and a body between quotes. -/
structure IsWritten (text : Text) (isBytes : Bool) : Prop where
  exists_body : ∃ letters quote body, text = letters ++ quote :: (body ++ [quote])
    ∧ letters ∈ writtenLetters isBytes ∧ StringLiteral.isQuote quote = true
    ∧ IsBody quote body

theorem isWritten_writeText {letters : Text} (hletters : letters ∈ [[], ['u']]) (text : Text) :
    IsWritten (letters ++ writeText text) false :=
  have hquote := isQuote_quoteFor '\'' '"' text
  ⟨letters, _, _, rfl, hletters, hquote, isBody_writeChar hquote text⟩

theorem isWritten_writeBytes (bytes : List UInt8) : IsWritten (writeBytes bytes) true :=
  have hquote := isQuote_quoteFor 0x27 0x22 bytes
  ⟨['b'], _, _, rfl, by decide, hquote, isBody_writeByte hquote bytes⟩

/-- The letters and the quote in front of a body that does not begin with the quote. Three quotes would
stand behind one another only in front of another quote. -/
theorem readOpening_letters {letters : Text} (hletters : letters.all isStringLetter = true)
    (hquote : StringLiteral.isQuote quote = true) (hbody : body.head? ≠ some quote) (hrest : IsDelimited rest) :
    readOpening (letters ++ quote :: (body ++ quote :: rest))
      = some (⟨letters.any (·.toLower = 'r'), letters.any (·.toLower = 'b'), letters.any (·.toLower = 'f'),
          quote, false⟩, body ++ quote :: rest) := by
  have hstring : isStringQuote quote = true ∧ isStringLetter quote = false := by
    rcases quote_cases hquote with rfl | rfl <;> decide
  have htake := takeWhile_delimited hletters hstring.2 (body ++ quote :: rest)
  have hdrop := dropWhile_delimited hletters hstring.2 (body ++ quote :: rest)
  obtain ⟨c, cs, rfl, hc⟩ := hrest
  have hne : c ≠ quote := by
    rintro rfl
    rw [isStringQuote_of_isDelimiter hc] at hstring
    exact absurd hstring.1 (by decide)
  rw [readOpening, htake, hdrop]
  cases body with
  | nil => simp [hstring.1, hne]
  | cons d ds =>
    have hd : d ≠ quote := fun heq => hbody (congrArg some heq)
    cases ds <;> simp [hstring.1, hd]

theorem readOpening_quoted {letters : Text} (hletters : letters ∈ writtenLetters isBytes)
    (hquote : StringLiteral.isQuote quote = true) (hbody : IsBody quote body) (hrest : IsDelimited rest) :
    readOpening (letters ++ quote :: (body ++ quote :: rest))
      = some (.written isBytes quote, body ++ quote :: rest) := by
  have hchecks : ∀ b, ∀ l ∈ writtenLetters b, l.all isStringLetter = true
      ∧ l.any (fun c => c.toLower = 'r') = false ∧ l.any (fun c => c.toLower = 'b') = b
      ∧ l.any (fun c => c.toLower = 'f') = false := by decide
  obtain ⟨hall, hraw, hbytes, hformat⟩ := hchecks isBytes letters hletters
  have hhead : body.head? ≠ some quote := by
    cases hbody with
    | nil => exact fun hnone => absurd hnone (by simp)
    | @plain d body hd _ => exact fun heq => hd (by simp [Option.some.inj heq])
    | @escape code body _ _ =>
      intro heq
      rw [← Option.some.inj heq] at hquote
      exact absurd hquote (by decide)
  rw [readOpening_letters hall hquote hhead hrest, hraw, hbytes, hformat]
  rfl

theorem IsWritten.head (h : IsWritten text isBytes) : ∃ c cs, text = c :: cs ∧ isSolid c = true
    ∧ ['*', '/', '=', 'n'].contains c = false := by
  obtain ⟨letters, quote, body, rfl, hletters, hquote, -⟩ := h.exists_body
  have hmem : letters ∈ [['b'], [], ['u']] :=
    (by decide : ∀ b, ∀ l ∈ writtenLetters b, l ∈ [['b'], [], ['u']]) isBytes letters hletters
  simp only [List.mem_cons, List.not_mem_nil, or_false] at hmem
  rcases hmem with rfl | rfl | rfl
  · exact ⟨'b', _, rfl, by decide, by decide⟩
  · rcases quote_cases hquote with rfl | rfl <;> exact ⟨_, _, rfl, by decide, by decide⟩
  · exact ⟨'u', _, rfl, by decide, by decide⟩

/-- A literal is an operand, given how it opens and that its pieces are read to its end. -/
theorem isOperand_literal (inner : Text) (o : Opening) {part : Expr}
    (hhead : ∃ c cs, text = c :: cs ∧ isSolid c = true ∧ ['*', '/', '=', 'n'].contains c = false)
    (hopening : ∀ rest, IsDelimited rest → readOpening (text ++ rest) = some (o, inner ++ rest))
    (hreads : ∀ (source : Text) (d : Nat) (rest : Text), 4 * text.length + 8 ≤ d → ∃ pieces,
      Reads (iterate (readPiece (grammar source d) o) (grammar source d).steps ⟨[], []⟩) (inner ++ rest)
          pieces rest ∧ (if o.format then .format text pieces else .plain text) = part) :
    IsOperand text (.strings [part]) := by
  obtain ⟨first, others, hfirst, hsolid, hother⟩ := hhead
  have hnext {e : Expect} {gap rest : Text} (he : e.string = true) (hgap : IsGap gap)
      (hrest : IsDelimited rest) : next e (.plain (gap ++ (text ++ rest)))
        = ⟨[], .opening o, text ++ rest, .plain (inner ++ rest)⟩ := by
    have hopen := hopening rest hrest
    rw [hfirst, List.cons_append] at hopen ⊢
    exact next_opening hgap hsolid he hopen
  refine .of_atom (.other (by rw [hfirst]; simpa [hsolid] using hother) fun e gap rest he hgap hrest =>
    ⟨_, _, _, hnext he hgap hrest, rfl, by simp⟩) rfl fun {source d n opening after gap rest token behind}
    hgap hd hn hfollows hopens _ => ?_
  obtain ⟨m, hm⟩ : ∃ m, (grammar source d).steps = m + 1 := ⟨d - 2, by rw [steps_grammar]; omega⟩
  obtain ⟨pieces, hpieces, hpart⟩ := hreads source d rest hd
  have hstring : Reads (readString (grammar source d) ⟨[], .opening o, text ++ rest, .plain (inner ++ rest)⟩ o)
      (gap ++ (text ++ rest)) part rest := by
    rw [← hpart]
    exact (Reads.take rfl).bind (hpieces.bind ((Reads.textSince text rest).bind (Reads.pure _ _)))
  obtain ⟨start, hbehind⟩ := hfollows.next_eq after.orOperand id
  refine (Reads.peek (hnext rfl hgap hfollows.delimited)).bind (hstring.bind ?_)
  rw [hm]
  refine Reads.iterate_done ((Reads.peek hbehind).bind ?_)
  cases token with
  | opening o => exact absurd hopens (by simp [Token.opens])
  | _ => exact Reads.pure _ _

theorem isOperand_written (h : IsWritten text isBytes) : IsOperand text (.strings [.plain text]) := by
  obtain ⟨letters, quote, body, htext, hletters, hquote, hbody⟩ := h.exists_body
  have hback : quote ≠ '\\' := by
    rintro rfl
    exact absurd hquote (by decide)
  have hbodyLength : body.length < text.length := by
    rw [htext, List.length_append, List.length_cons, List.length_append]
    omega
  refine isOperand_literal (body ++ [quote]) (.written isBytes quote) h.head
    (fun rest hrest => ?_) fun source d rest hd => ?_
  · rw [htext, List.append_assoc, List.append_assoc]
    simpa using readOpening_quoted hletters hquote hbody hrest
  · obtain ⟨pieces, hpieces⟩ := exists_reads_pieces (grammar source d) isBytes hbody hback
      rest (n := (grammar source d).steps) (by rw [steps_grammar]; omega) ⟨[], []⟩
    rw [List.append_assoc]
    exact ⟨pieces, hpieces, rfl⟩

/-! ### Rows of literals -/

/-- A row of literals without interpolations: its value in bytes or as a text, and how it is written. -/
theorem writeStrings_cases {sources : List Text}
    (h : (sources.filterMap StringLiteral.split?).any StringLiteral.isFormat = false) :
    (∃ bytes, stringsValue sources = .bytes bytes
        ∧ writeStrings (sources.map plainPiece) = writeBytes bytes)
      ∨ ∃ letters ∈ [[], ['u']], ∃ text, stringsValue sources = .text text
        ∧ writeStrings (sources.map plainPiece) = letters ++ writeText text := by
  have hliterals : (sources.map plainPiece).filterMap (fun p => StringLiteral.split? p.source)
      = sources.filterMap StringLiteral.split? := by
    rw [List.filterMap_map]
    rfl
  rw [writeStrings, hliterals, stringsValue]
  generalize sources.filterMap StringLiteral.split? = literals at h ⊢
  dsimp only
  rw [h, if_neg Bool.false_ne_true]
  split
  · exact .inl ⟨_, rfl, rfl⟩
  · right
    match literals with
    | [literal] =>
      cases hunicode : literal.isUnicode with
      | true => exact ⟨['u'], by decide, _, rfl, by simp [hunicode]⟩
      | false => exact ⟨[], by decide, _, rfl, by simp [hunicode]⟩
    | [] => exact ⟨[], by decide, _, rfl, rfl⟩
    | _ :: _ :: _ => exact ⟨[], by decide, _, rfl, rfl⟩

theorem stringsValue_writeBytes (bytes : List UInt8) :
    stringsValue [writeBytes bytes] = .bytes bytes
      ∧ writeStrings [plainPiece (writeBytes bytes)] = writeBytes bytes := by
  obtain ⟨body, hsplit, hbody⟩ := split?_writeBytes bytes
  have hletters : StringLiteral.isBytes ⟨['b'], body⟩ = true
      ∧ StringLiteral.isFormat ⟨['b'], body⟩ = false ∧ StringLiteral.isRaw ⟨['b'], body⟩ = false :=
    ⟨rfl, rfl, rfl⟩
  have hbytes : StringLiteral.bytes ⟨['b'], body⟩ = bytes := by
    rw [StringLiteral.bytes, hletters.2.2, if_neg Bool.false_ne_true, hbody]
  simp [stringsValue, writeStrings, plainPiece, hsplit, hletters, hbytes]

theorem stringsValue_writeText {letters : Text} (h : letters ∈ [[], ['u']]) (text : Text) :
    stringsValue [letters ++ writeText text] = .text text
      ∧ writeStrings [plainPiece (letters ++ writeText text)] = letters ++ writeText text := by
  have hchecks := (by decide : ∀ l ∈ [[], ['u']], l.all (!StringLiteral.isQuote ·) = true) letters h
  obtain ⟨body, hsplit, hbody⟩ := split?_writeText hchecks text
  have hletters : StringLiteral.isBytes ⟨letters, body⟩ = false
      ∧ StringLiteral.isFormat ⟨letters, body⟩ = false ∧ StringLiteral.isRaw ⟨letters, body⟩ = false := by
    simp only [List.mem_cons, List.not_mem_nil, or_false] at h
    rcases h with rfl | rfl <;> exact ⟨rfl, rfl, rfl⟩
  have htext : StringLiteral.text ⟨letters, body⟩ = text := by
    rw [StringLiteral.text, hletters.2.2, if_neg Bool.false_ne_true, hbody]
  have hunicode : (if StringLiteral.isUnicode ⟨letters, body⟩ then 'u' :: writeText text
      else writeText text) = letters ++ writeText text := by
    simp only [List.mem_cons, List.not_mem_nil, or_false] at h
    rcases h with rfl | rfl <;> rfl
  refine ⟨by simp [stringsValue, hsplit, hletters, htext], ?_⟩
  simpa [writeStrings, plainPiece, hsplit, hletters, htext] using hunicode

/-- A row of literals without interpolations is written as one literal, which has its value and is
written as it stands. -/
theorem writeStrings_plain {sources : List Text}
    (h : (sources.filterMap StringLiteral.split?).any StringLiteral.isFormat = false) :
    let written := writeStrings (sources.map plainPiece)
    IsOperand written (.strings [.plain written]) ∧ stringsValue [written] = stringsValue sources
      ∧ writeStrings [plainPiece written] = written := by
  rcases writeStrings_cases h with ⟨bytes, hvalue, hwritten⟩ | ⟨letters, hletters, text, hvalue, hwritten⟩
  · rw [hwritten, hvalue]
    exact ⟨isOperand_written (isWritten_writeBytes bytes), stringsValue_writeBytes bytes⟩
  · rw [hwritten, hvalue]
    exact ⟨isOperand_written (isWritten_writeText hletters text), stringsValue_writeText hletters text⟩

/-! ### Reading back what was written -/

/-- What is written as a literal that decodes to it is written like nothing else. -/
theorem injective_of_split? {α : Type} {letters : Text} {write : α → Text} {decode : Text → α}
    (h : ∀ a, ∃ body, StringLiteral.split? (write a) = some ⟨letters, body⟩ ∧ decode body = a) :
    Function.Injective write := by
  intro a b hab
  obtain ⟨body, hsplit, hbody⟩ := h a
  obtain ⟨body', hsplit', hbody'⟩ := h b
  rw [hab, hsplit'] at hsplit
  cases hsplit
  exact hbody.symm.trans hbody'

theorem render_plain (source : Text) :
    (Expr.plain source).render = writeStrings [plainPiece source] := rfl

/-- The body between the quotes of a written text decodes to it. So different texts are written
differently, and the normal form of a written text is that text. -/
theorem literal_writeText :
    (∀ text, ∃ body, StringLiteral.split? (writeText text) = some ⟨[], body⟩ ∧ decodeText body = text)
      ∧ Function.Injective writeText
      ∧ ∀ text, (Expr.plain (writeText text)).render = writeText text := by
  have hread (text : Text) : ∃ body,
      StringLiteral.split? (writeText text) = some ⟨[], body⟩ ∧ decodeText body = text :=
    @split?_writeText [] rfl text
  refine ⟨hread, injective_of_split? hread, fun text => ?_⟩
  obtain ⟨-, hwritten⟩ := stringsValue_writeText List.mem_cons_self text
  exact (render_plain _).trans hwritten

/-- The body between the quotes of written bytes decodes to them. So different bytes are written
differently, and the normal form of written bytes is that text. -/
theorem literal_writeBytes :
    (∀ bytes, ∃ body, StringLiteral.split? (writeBytes bytes) = some ⟨['b'], body⟩
        ∧ StringLiteral.bytes ⟨['b'], body⟩ = bytes)
      ∧ Function.Injective writeBytes
      ∧ ∀ bytes, (Expr.plain (writeBytes bytes)).render = writeBytes bytes := by
  refine ⟨split?_writeBytes, injective_of_split? split?_writeBytes, fun bytes => ?_⟩
  obtain ⟨-, hwritten⟩ := stringsValue_writeBytes bytes
  exact (render_plain _).trans hwritten

end Testbook.Python
