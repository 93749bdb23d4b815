import Testbook.Html.Fragment
import Testbook.Proofs.Html.Tree

/-!
Reading written trees back. Whatever the texts in a tree are, the fragment reader finds just the
elements of the tree, each with the bytes between its tags (`parseFragment_write`), because texts
are written without brackets and attribute values without quotes. The invariant is about the
outline: reading the nodes within an element adds their elements to the innermost open one and
leaves the others as they are (`readFrom_writeAll`).
-/

namespace Testbook.Text

/-! ### Bytes -/

@[simp]
theorem utf8Length_nil : utf8Length [] = 0 := rfl

@[simp]
theorem utf8Length_cons (c : Char) (cs : Text) :
    utf8Length (c :: cs) = c.utf8Size + utf8Length cs := rfl

@[simp]
theorem utf8Length_append (a b : Text) : utf8Length (a ++ b) = utf8Length a + utf8Length b := by
  induction a with
  | nil => rw [List.nil_append, utf8Length_nil, Nat.zero_add]
  | cons c cs ih => rw [List.cons_append, utf8Length_cons, utf8Length_cons, ih, Nat.add_assoc]

end Testbook.Text

namespace Testbook.Html

open Testbook.Text

/-- Nothing of a text lies before the byte where it begins. -/
theorem slice_of_le {start stop position : Nat} (h : stop ≤ position) (text : Text) :
    slice start stop position text = [] := by
  induction text generalizing position with
  | nil => rfl
  | cons c cs ih =>
    rw [slice, if_neg (by simp; omega)]
    exact ih (Nat.le_add_right_of_le h)

theorem slice_front {start position : Nat} (h : start ≤ position) (part behind : Text) :
    slice start (position + utf8Length part) position (part ++ behind) = part := by
  induction part generalizing position with
  | nil => exact slice_of_le (Nat.le_refl _) _
  | cons c cs ih =>
    have hpos := c.utf8Size_pos
    rw [List.cons_append, slice, if_pos (by simp; omega), utf8Length_cons, ← Nat.add_assoc,
      ih (Nat.le_add_right_of_le h)]

theorem slice_skip {start stop position : Nat} {before : Text}
    (h : position + utf8Length before ≤ start) (text : Text) :
    slice start stop position (before ++ text)
      = slice start stop (position + utf8Length before) text := by
  induction before generalizing position with
  | nil => rfl
  | cons c cs ih =>
    have hpos := c.utf8Size_pos
    rw [utf8Length_cons] at h
    rw [List.cons_append, slice, if_neg (by simp; omega), utf8Length_cons, ← Nat.add_assoc,
      ih (by omega)]

/-- The part of a text between two others, by its bytes. -/
theorem slice_middle (before part behind : Text) :
    slice (utf8Length before) (utf8Length before + utf8Length part) 0 (before ++ part ++ behind)
      = part := by
  rw [List.append_assoc, slice_skip (Nat.le_of_eq (Nat.zero_add _)), Nat.zero_add]
  exact slice_front (Nat.le_refl _) part behind

/-! ### Tags -/

/-- A tag that can be read back: letters make up its name and the names of its attributes, and no
quote stands in a value. -/
structure Tag.IsReadable (tag : Tag) : Prop where
  ne_nil : tag.name ≠ []
  name_alpha : ∀ c ∈ tag.name, c.isAlpha = true
  key_alpha : ∀ a ∈ tag.attributes, ∀ c ∈ a.1, c.isAlpha = true
  value_plain : ∀ a ∈ tag.attributes, '"' ∉ a.2

instance (tag : Tag) : Decidable tag.IsReadable :=
  decidable_of_iff (tag.name ≠ [] ∧ tag.name.all Char.isAlpha = true
      ∧ (∀ a ∈ tag.attributes, a.1.all Char.isAlpha = true) ∧ ∀ a ∈ tag.attributes, '"' ∉ a.2)
    ⟨fun ⟨hname, halpha, hkeys, hvalues⟩ =>
      ⟨hname, List.all_eq_true.1 halpha, fun a ha => List.all_eq_true.1 (hkeys a ha), hvalues⟩,
    fun h => ⟨h.ne_nil, List.all_eq_true.2 h.name_alpha,
      fun a ha => List.all_eq_true.2 (h.key_alpha a ha), h.value_plain⟩⟩

theorem ne_of_isAlpha {c d : Char} (hc : c.isAlpha = true) (hd : d.isAlpha = false) : c ≠ d := by
  rintro rfl
  rw [hc] at hd
  exact absurd hd (by decide)

theorem isTagBlank_of_isAlpha {c : Char} (h : c.isAlpha = true) : isTagBlank c = false := by
  simp only [isTagBlank, Bool.or_eq_false_iff, decide_eq_false_iff_not]
  exact ⟨⟨⟨ne_of_isAlpha h (by decide), ne_of_isAlpha h (by decide)⟩, ne_of_isAlpha h (by decide)⟩,
    ne_of_isAlpha h (by decide)⟩

/-- Text that the search for the end of a tag passes over, whatever follows. -/
def PassedOver (text : Text) : Prop :=
  ∀ rest, untilTagEnd none (text ++ rest)
    = (untilTagEnd none rest).map fun found => (text ++ found.1, found.2)

namespace PassedOver

theorem nil : PassedOver [] := fun _ => Option.map_id_apply.symm

theorem append {a b : Text} (ha : PassedOver a) (hb : PassedOver b) : PassedOver (a ++ b) :=
  fun rest => by
    rw [List.append_assoc, ha, hb, Option.map_map]
    simp only [Function.comp_def, List.append_assoc]

theorem singleton {c : Char} (h : c ≠ '>') (h' : c ≠ '\'') (h'' : c ≠ '"') : PassedOver [c] :=
  fun rest => by
    rw [List.singleton_append, untilTagEnd]
    simp [h, h', h'']

theorem of_alpha {text : Text} (h : ∀ c ∈ text, c.isAlpha = true) : PassedOver text := by
  induction text with
  | nil => exact nil
  | cons c cs ih =>
    have hc := h c List.mem_cons_self
    have hone : PassedOver [c] := singleton (ne_of_isAlpha hc (by decide))
      (ne_of_isAlpha hc (by decide)) (ne_of_isAlpha hc (by decide))
    exact hone.append (ih fun d hd => h d (List.mem_cons_of_mem _ hd))

/-- Within quotes only the quote counts. -/
theorem untilTagEnd_quoted {value : Text} (h : '"' ∉ value) (rest : Text) :
    untilTagEnd (some '"') (value ++ '"' :: rest)
      = (untilTagEnd none rest).map fun found => (value ++ '"' :: found.1, found.2) := by
  induction value with
  | nil => simp [untilTagEnd]
  | cons c cs ih =>
    rw [List.mem_cons, not_or] at h
    rw [List.cons_append, untilTagEnd, if_neg (Ne.symm h.1)]
    simp only [ih h.2, Option.map_map]
    rfl

theorem quoted {value : Text} (h : '"' ∉ value) : PassedOver ('"' :: value ++ ['"']) :=
  fun rest => by
    rw [List.append_assoc, List.cons_append, List.singleton_append, untilTagEnd]
    simp [untilTagEnd_quoted h, Function.comp_def]

theorem writeAttribute {a : Text × Text} (hkey : ∀ c ∈ a.1, c.isAlpha = true) (hvalue : '"' ∉ a.2) :
    PassedOver (writeAttribute a) := by
  have hspace : PassedOver [' '] := singleton (by decide) (by decide) (by decide)
  have hsign : PassedOver ['='] := singleton (by decide) (by decide) (by decide)
  have := ((hspace.append (of_alpha hkey)).append hsign).append (quoted hvalue)
  simpa [Html.writeAttribute] using this

theorem inside {tag : Tag} (h : tag.IsReadable) : PassedOver tag.inside := by
  refine (of_alpha h.name_alpha).append ?_
  have hkey := h.key_alpha
  have hvalue := h.value_plain
  generalize tag.attributes = attributes at hkey hvalue
  induction attributes with
  | nil => exact nil
  | cons a as ih =>
    have ha := writeAttribute (hkey a List.mem_cons_self) (hvalue a List.mem_cons_self)
    exact ha.append (ih (fun b hb => hkey b (List.mem_cons_of_mem _ hb))
      (fun b hb => hvalue b (List.mem_cons_of_mem _ hb)))

end PassedOver

theorem untilTagEnd_inside {tag : Tag} (h : tag.IsReadable) (rest : Text) :
    untilTagEnd none (tag.inside ++ '>' :: rest) = some (tag.inside, rest) := by
  rw [PassedOver.inside h]
  simp [untilTagEnd]

theorem takeWhile_name {name behind : Text} (h : ∀ c ∈ name, c.isAlpha = true)
    (hb : ∀ c, behind.head? = some c → isTagBlank c = true) :
    (name ++ behind).takeWhile (!isTagBlank ·) = name := by
  rw [List.takeWhile_append_of_pos fun c hc => by simp [isTagBlank_of_isAlpha (h c hc)]]
  cases behind with
  | nil => exact List.append_nil _
  | cons c cs => simp [hb c rfl]

theorem getLast?_inside {tag : Tag} (h : tag.IsReadable) : tag.inside.getLast? ≠ some '/' := by
  intro hlast
  rw [Tag.inside, List.getLast?_append] at hlast
  cases hr : tag.attributes.reverse with
  | nil =>
    rw [List.reverse_eq_nil_iff.1 hr, List.flatMap_nil, List.getLast?_nil, Option.none_or] at hlast
    have := h.name_alpha _ (List.mem_of_getLast? hlast)
    exact absurd this (by decide)
  | cons a as =>
    have ha : tag.attributes = as.reverse ++ [a] := by
      rw [← List.reverse_reverse tag.attributes, hr, List.reverse_cons]
    rw [ha, List.flatMap_append, List.flatMap_singleton, writeAttribute, List.getLast?_append,
      List.getLast?_concat] at hlast
    simp at hlast

/-- A start tag is read as one. -/
theorem readTag_inside {tag : Tag} (h : tag.IsReadable) :
    readTag tag.inside = .opening tag.name := by
  have hname : tag.inside.takeWhile (!isTagBlank ·) = tag.name := by
    refine takeWhile_name h.name_alpha fun c hc => ?_
    cases ha : tag.attributes with
    | nil => rw [ha] at hc; simp at hc
    | cons a as =>
      rw [ha, List.flatMap_cons, writeAttribute] at hc
      simp only [List.cons_append, List.head?_cons, Option.some.injEq] at hc
      rw [← hc]
      rfl
  simp only [readTag, if_neg (getLast?_inside h), hname]

theorem readMarkup_opening {tag : Tag} (h : tag.IsReadable) (rest : Text) :
    readMarkup (tag.inside ++ '>' :: rest) = some (.opening tag.name, rest) := by
  have hread : (untilTagEnd none (tag.inside ++ '>' :: rest)).map
      (fun read => (readTag read.1, read.2)) = some (.opening tag.name, rest) := by
    simp only [untilTagEnd_inside h, Option.map_some, readTag_inside h]
  have hne := h.ne_nil
  have halpha := h.name_alpha
  rw [Tag.inside] at hread ⊢
  cases hname : tag.name with
  | nil => exact absurd hname hne
  | cons c cs =>
    have hc : c.isAlpha = true := halpha c (hname ▸ List.mem_cons_self)
    rw [hname] at hread
    simp only [List.cons_append] at hread ⊢
    unfold readMarkup
    split
    · next heq => rw [(List.cons.inj heq).1] at hc; exact absurd hc (by decide)
    · next heq => rw [(List.cons.inj heq).1] at hc; exact absurd hc (by decide)
    · next heq => rw [(List.cons.inj heq).1] at hc; exact absurd hc (by decide)
    · exact hread

theorem dropWhile_isTagBlank_of_alpha {name : Text} (h : ∀ c ∈ name, c.isAlpha = true) :
    name.dropWhile isTagBlank = name := by
  cases name with
  | nil => rfl
  | cons c cs =>
    rw [List.dropWhile_cons_of_neg]
    rw [isTagBlank_of_isAlpha (h c List.mem_cons_self)]
    decide

/-- An end tag is read as one. -/
theorem readMarkup_closing {name : Text} (h : ∀ c ∈ name, c.isAlpha = true) (rest : Text) :
    readMarkup ('/' :: name ++ '>' :: rest) = some (.closing name, rest) := by
  have hpass : ∀ c ∈ name, (c != '>') = true := fun c hc =>
    bne_iff_ne.2 (ne_of_isAlpha (h c hc) (by decide))
  have htake : (name ++ '>' :: rest).takeWhile (· != '>') = name := by
    rw [List.takeWhile_append_of_pos hpass, List.takeWhile_cons_of_neg (by decide), List.append_nil]
  have hdrop : (name ++ '>' :: rest).dropWhile (· != '>') = '>' :: rest := by
    rw [List.dropWhile_append_of_pos hpass, List.dropWhile_cons_of_neg (by decide)]
  have htrim : closingName name = name := by
    rw [closingName, dropWhile_isTagBlank_of_alpha fun c hc => h c (List.mem_reverse.1 hc),
      List.reverse_reverse, ite_self]
  change some (readClosing (name ++ '>' :: rest)) = _
  simp only [readClosing, toBracket, htake, hdrop, htrim, List.drop_one, List.tail_cons]

/-! ### Tokens -/

theorem lexemes_opening {tag : Tag} (h : tag.IsReadable) (start : Nat) (rest : Text) :
    lexemes start (tag.opening ++ rest)
      = (lexemes (start + utf8Length tag.opening) rest).map
          (⟨.opening tag.name, start, start + utf8Length tag.opening⟩ :: ·) := by
  have hne : (tag.inside ++ '>' :: rest).isEmpty = false := by simp
  have hread := readMarkup_opening h rest
  have hstop : start + utf8Length ('<' :: (tag.inside ++ '>' :: rest)) - utf8Length rest
      = start + utf8Length tag.opening := by
    simp only [Tag.opening, utf8Length_cons, utf8Length_append, List.cons_append, utf8Length_nil]
    omega
  have htext : tag.opening ++ rest = '<' :: (tag.inside ++ '>' :: rest) := by simp [Tag.opening]
  rw [htext, lexemes, if_pos rfl, hne]
  simp only [Bool.false_eq_true, if_false]
  split
  · next hr => rw [hread] at hr; simp at hr
  · next token behind hr =>
    rw [hread] at hr
    obtain ⟨rfl, rfl⟩ := Prod.mk.inj (Option.some.inj hr)
    rw [hstop]

theorem lexemes_closing {tag : Tag} (h : tag.IsReadable) (start : Nat) (rest : Text) :
    lexemes start (tag.closing ++ rest)
      = (lexemes (start + utf8Length tag.closing) rest).map
          (⟨.closing tag.name, start, start + utf8Length tag.closing⟩ :: ·) := by
  have hread := readMarkup_closing h.name_alpha rest
  have hstop : start + utf8Length ('<' :: ('/' :: tag.name ++ '>' :: rest)) - utf8Length rest
      = start + utf8Length tag.closing := by
    simp only [Tag.closing, utf8Length_cons, utf8Length_append, List.cons_append, utf8Length_nil]
    omega
  have htext : tag.closing ++ rest = '<' :: ('/' :: tag.name ++ '>' :: rest) := by
    simp [Tag.closing]
  rw [htext, lexemes, if_pos rfl, if_neg (by simp)]
  split
  · next hr => rw [hread] at hr; simp at hr
  · next token behind hr =>
    rw [hread] at hr
    obtain ⟨rfl, rfl⟩ := Prod.mk.inj (Option.some.inj hr)
    rw [hstop]

/-! ### Outlines -/

/-- The outline after the rest of a text, which begins at byte `start`. -/
def readFrom (start : Nat) (text : Text) (o : Outline) : Option Outline :=
  (lexemes start text).bind fun tokens => tokens.foldlM Outline.read o

@[simp]
theorem readFrom_nil (start : Nat) (o : Outline) : readFrom start [] o = some o := by
  rw [readFrom, lexemes]
  rfl

theorem readFrom_opening {tag : Tag} (h : tag.IsReadable) (start : Nat) (rest : Text)
    (o : Outline) :
    readFrom start (tag.opening ++ rest) o
      = readFrom (start + utf8Length tag.opening) rest
          { o with stack := ⟨tag.name, start + utf8Length tag.opening, []⟩ :: o.stack } := by
  rw [readFrom, lexemes_opening h, Option.bind_map]
  rfl

theorem readFrom_closing {tag : Tag} (h : tag.IsReadable) (start : Nat) (rest : Text)
    (e : OpenElement) (he : e.name = tag.name) (stack : List OpenElement) (root : Option Element) :
    readFrom start (tag.closing ++ rest) ⟨e :: stack, root⟩
      = (Outline.add ⟨stack, root⟩ (.mk tag.name e.start start e.children.reverse)).bind
          (readFrom (start + utf8Length tag.closing) rest) := by
  rw [readFrom, lexemes_closing h, Option.bind_map]
  simp only [Function.comp_def, List.foldlM_cons, Outline.read, if_pos he]
  cases Outline.add ⟨stack, root⟩ (.mk tag.name e.start start e.children.reverse) with
  | none => exact Option.bind_fun_none _
  | some o => rfl

/-- Characters within an element change nothing. -/
theorem readFrom_text {text : Text} (h : '<' ∉ text) (start : Nat) (rest : Text) {o : Outline}
    (ho : o.stack ≠ []) :
    readFrom start (text ++ rest) o = readFrom (start + utf8Length text) rest o := by
  have hread (content : Text) (a b : Nat) : o.read ⟨.characters content, a, b⟩ = some o := by
    simp [Outline.read, ho]
  have hone (c : Char) (cs : Text) (position : Nat) (hc : c ≠ '<') :
      readFrom position (c :: cs) o
        = readFrom (position + utf8Length (c :: cs.takeWhile (· != '<')))
            (cs.dropWhile (· != '<')) o := by
    rw [readFrom, lexemes, if_neg hc, Option.bind_map]
    simp only [Function.comp_def, List.foldlM_cons, hread]
    rfl
  -- one token reaches to the next bracket, so the text and what follows it may be one token
  cases text with
  | nil => rfl
  | cons c cs =>
    rw [List.mem_cons, not_or] at h
    have hcs : ∀ d ∈ cs, (d != '<') = true := fun d hd => bne_iff_ne.2 (by rintro rfl; exact h.2 hd)
    rw [List.cons_append, hone c _ start (Ne.symm h.1), List.takeWhile_append_of_pos hcs,
      List.dropWhile_append_of_pos hcs]
    cases rest with
    | nil => simp
    | cons d ds =>
      by_cases hd : d = '<'
      · simp [hd]
      · rw [hone d ds _ hd, List.takeWhile_cons_of_pos (by simpa using hd),
          List.dropWhile_cons_of_pos (by simpa using hd), ← List.cons_append, utf8Length_append,
          ← Nat.add_assoc]

mutual

/-- The elements outermost in a node that is written at a byte. -/
def Node.elements (position : Nat) : Node → List Element
  | .text _ => []
  | .element tag children =>
    let start := position + utf8Length tag.opening
    [.mk tag.name start (start + utf8Length (writeAll children)) (elementsAll start children)]

/-- The elements outermost in nodes that are written at a byte. -/
def elementsAll (position : Nat) : List Node → List Element
  | [] => []
  | node :: nodes => node.elements position ++ elementsAll (position + utf8Length node.write) nodes

end

theorem not_mem_writeText (text : Text) : '<' ∉ writeText text := by
  rw [writeText, List.mem_flatMap]
  rintro ⟨c, -, hc⟩
  unfold entity? at hc
  split at hc
  · revert hc; decide
  · revert hc; decide
  · revert hc; decide
  · revert hc; decide
  · revert hc; decide
  · next h _ _ _ => exact h (List.mem_singleton.1 hc).symm

mutual

theorem readFrom_write (start : Nat) (rest : Text) (parent : OpenElement) (stack : List OpenElement)
    (root : Option Element) : ∀ node : Node, (∀ tag ∈ node.tags, tag.IsReadable) →
    readFrom start (node.write ++ rest) ⟨parent :: stack, root⟩
      = readFrom (start + utf8Length node.write) rest
          ⟨{ parent with children := (node.elements start).reverse ++ parent.children } :: stack,
            root⟩
  | .text content, _ => readFrom_text (not_mem_writeText content) start rest (by simp)
  | .element tag children, h => by
    rw [Node.tags, List.forall_mem_cons] at h
    have hchildren := readFrom_writeAll (start + utf8Length tag.opening) (tag.closing ++ rest)
      ⟨tag.name, start + utf8Length tag.opening, []⟩ (parent :: stack) root children h.2
    rw [write_element, List.append_assoc, List.append_assoc, readFrom_opening h.1, hchildren,
      readFrom_closing h.1 _ _ _ rfl]
    simp [Outline.add, Node.elements, Nat.add_assoc]

/-- Reading nodes within an element adds their elements to it. -/
theorem readFrom_writeAll (start : Nat) (rest : Text) (parent : OpenElement)
    (stack : List OpenElement) (root : Option Element) :
    ∀ nodes : List Node, (∀ tag ∈ tagsAll nodes, tag.IsReadable) →
    readFrom start (writeAll nodes ++ rest) ⟨parent :: stack, root⟩
      = readFrom (start + utf8Length (writeAll nodes)) rest
        ⟨{ parent with children := (elementsAll start nodes).reverse ++ parent.children } :: stack,
          root⟩
  | [], _ => rfl
  | node :: nodes, h => by
    rw [tagsAll, List.forall_mem_append] at h
    rw [writeAll_cons, List.append_assoc, readFrom_write start _ parent stack root node h.1,
      readFrom_writeAll _ rest _ stack root nodes h.2]
    simp [elementsAll, Nat.add_assoc]

end

/-- The element that is read for the outermost element of a tree. -/
def rootElement (tag : Tag) (children : List Node) : Element :=
  .mk tag.name (utf8Length tag.opening) (utf8Length tag.opening + utf8Length (writeAll children))
    (elementsAll (utf8Length tag.opening) children)

/-- A written tree is read as its root element, also with a line feed behind it. -/
theorem parseFragment_write {tag : Tag} {children : List Node}
    (h : ∀ t ∈ (Node.element tag children).tags, t.IsReadable) :
    parseFragment ((Node.element tag children).write ++ ['\n'])
      = some (rootElement tag children) := by
  rw [Node.tags, List.forall_mem_cons] at h
  have hmark : withoutMark ((Node.element tag children).write ++ ['\n'])
      = (Node.element tag children).write ++ ['\n'] := by
    rw [write_element, Tag.opening]
    rfl
  have hchildren := readFrom_writeAll (utf8Length tag.opening) (tag.closing ++ ['\n'])
    ⟨tag.name, utf8Length tag.opening, []⟩ [] none children h.2
  have hread : readFrom 0 ((Node.element tag children).write ++ ['\n']) ⟨[], none⟩
      = some ⟨[], some (rootElement tag children)⟩ := by
    rw [write_element, List.append_assoc, List.append_assoc, readFrom_opening h.1, Nat.zero_add,
      hchildren, readFrom_closing h.1 _ _ _ rfl]
    simp [Outline.add, readFrom, lexemes, Outline.read, rootElement, isAsciiBlank]
  have hsplit : parseFragment ((Node.element tag children).write ++ ['\n'])
      = (readFrom 0 ((Node.element tag children).write ++ ['\n']) ⟨[], none⟩).bind fun outline =>
          if outline.stack.isEmpty then outline.root else none := by
    rw [parseFragment, hmark, readFrom, Option.bind_assoc]
    rfl
  rw [hsplit, hread]
  rfl

/-! ### Items -/

/-- What is in a list item, without outer blanks; other nodes are no items. -/
def Node.item? : Node → Option Text
  | .text _ => none
  | .element tag children =>
    if tag.name = "li".toList then some (trim (writeAll children)) else none

theorem filter_item {name : Text} {start stop : Nat} {children : List Element}
    (h : name = "li".toList) : [Element.mk name start stop children].filter (·.name = "li".toList)
      = [Element.mk name start stop children] :=
  List.filter_eq_self.2 fun _ he => decide_eq_true (List.mem_singleton.1 he ▸ h)

theorem filter_other {name : Text} {start stop : Nat} {children : List Element}
    (h : name ≠ "li".toList) :
    [Element.mk name start stop children].filter (·.name = "li".toList) = [] :=
  List.filter_eq_nil_iff.2 fun e he hn => by
    rw [List.mem_singleton.1 he] at hn
    exact h (of_decide_eq_true hn)

theorem items_elementsAll (before behind : Text) (nodes : List Node) :
    ((elementsAll (utf8Length before) nodes).filter (·.name = "li".toList)).map
        (fun item => trim (slice item.inner.1 item.inner.2 0 (before ++ writeAll nodes ++ behind)))
      = nodes.filterMap Node.item? := by
  induction nodes generalizing before with
  | nil => rfl
  | cons node nodes ih =>
    have hrest := ih (before ++ node.write)
    rw [utf8Length_append, List.append_assoc before, ← writeAll_cons] at hrest
    rw [elementsAll, List.filter_append, List.map_append, hrest]
    cases node with
    | text content => rfl
    | element tag children =>
      have hslice := slice_middle (before ++ tag.opening) (writeAll children)
        (tag.closing ++ (writeAll nodes ++ behind))
      have hsource : before ++ tag.opening ++ writeAll children
            ++ (tag.closing ++ (writeAll nodes ++ behind))
          = before ++ writeAll (.element tag children :: nodes) ++ behind := by
        simp only [writeAll_cons, write_element, List.append_assoc]
      rw [hsource, utf8Length_append] at hslice
      rw [Node.elements]
      by_cases hli : tag.name = "li".toList
      · have hitem : (Node.element tag children).item? = some (trim (writeAll children)) :=
          if_pos hli
        rw [filter_item hli, List.filterMap_cons_some hitem, List.map_singleton, Element.inner,
          hslice, List.singleton_append]
      · have hitem : (Node.element tag children).item? = none := if_neg hli
        rw [filter_other hli, List.filterMap_cons_none hitem]
        rfl

/-- The items of a written list are found in it, each without outer blanks. -/
theorem orderedItems?_write {tag : Tag} {children : List Node} (hname : tag.name = "ol".toList)
    (h : ∀ t ∈ (Node.element tag children).tags, t.IsReadable) :
    orderedItems? ((Node.element tag children).write ++ ['\n'])
      = some (children.filterMap Node.item?) := by
  have hitems := items_elementsAll tag.opening (tag.closing ++ ['\n']) children
  have hsource : (Node.element tag children).write ++ ['\n']
      = tag.opening ++ writeAll children ++ (tag.closing ++ ['\n']) := by
    simp only [write_element, List.append_assoc]
  have hroot : (rootElement tag children).name = "ol".toList := hname
  rw [orderedItems?, parseFragment_write h, Option.bind_some, if_pos hroot, Element.items, hsource]
  exact congrArg some hitems

end Testbook.Html
