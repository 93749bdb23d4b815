import Testbook.Registry.Apply
import Testbook.Registry.Builtin
import Testbook.Proofs.Text.Decimal
import Testbook.Proofs.Text.Replace

/-!
Filling in script formats. To fill in all values at once is to pass over the format and to put a
value in place of each placeholder, without a look at what was put in (`substitute`). Replacing one
name after the other comes to the same as long as no value brings in a placeholder of a later name,
on its own or together with what stands around it (`replaceAll_substitute`). That a placeholder was
brought in shows in their number; values without braces that have a character which no name has
never bring one in (`occurrences_substitute`).
-/

namespace Testbook

open Testbook.Text

/-- A name without braces, so that its placeholder has only those that enclose the name. -/
structure IsKey (name : Text) : Prop where
  opening : '{' ∉ name
  closing : '}' ∉ name

/-- The name and value whose placeholder stands at the front of a text. -/
def bindingAt? (bindings : List (Text × Text)) (text : Text) : Option (Text × Text) :=
  bindings.find? fun binding => (placeholder binding.1).isPrefixOf text

/-- A text with a value in place of every placeholder, all at once; `skip` counts the characters of
a placeholder that are still to be passed over. -/
def substituteFrom (bindings : List (Text × Text)) : Nat → Text → Text
  | _, [] => []
  | skip + 1, _ :: cs => substituteFrom bindings skip cs
  | 0, c :: cs =>
    match bindingAt? bindings (c :: cs) with
    | some (name, value) => value ++ substituteFrom bindings (name.length + 1) cs
    | none => c :: substituteFrom bindings 0 cs

/-- A text with a value in place of every placeholder, all at once. -/
def substitute (bindings : List (Text × Text)) (text : Text) : Text :=
  substituteFrom bindings 0 text

/-- How often the placeholder of a name occurs in a text. -/
def occurrences (name text : Text) : Nat := text.tails.countP (placeholder name).isPrefixOf

variable {bindings : List (Text × Text)} {name other value text front rest cs : Text} {c : Char}

/-! ### Placeholders at the front of a text -/

theorem placeholder_append (name rest : Text) :
    placeholder name ++ rest = '{' :: (name ++ '}' :: rest) := by
  simp [placeholder]

theorem isPrefixOf_placeholder_append (name rest : Text) :
    (placeholder name).isPrefixOf (placeholder name ++ rest) = true :=
  List.isPrefixOf_iff_prefix.2 (List.prefix_append _ rest)

theorem isPrefixOf_of_ne (h : c ≠ '{') (name cs : Text) :
    (placeholder name).isPrefixOf (c :: cs) = false := by
  rw [placeholder, List.cons_append, List.isPrefixOf, beq_false_of_ne (Ne.symm h), Bool.false_and]

/-- At most one name has its placeholder at the front of a text. -/
theorem eq_of_isPrefixOf (hname : IsKey name) (hother : IsKey other)
    (h : (placeholder name).isPrefixOf (placeholder other ++ rest) = true) : name = other := by
  rw [List.isPrefixOf_iff_prefix] at h
  obtain ⟨more, hmore⟩ := h
  rw [placeholder_append, placeholder_append] at hmore
  have htake (key tail : Text) (hkey : IsKey key) :
      (key ++ '}' :: tail).takeWhile (· != '}') = key := by
    have hkeep : ∀ c ∈ key, (c != '}') = true := fun c hc =>
      bne_iff_ne.2 (ne_of_mem_of_not_mem hc hkey.closing)
    rw [List.takeWhile_append_of_pos hkeep, List.takeWhile_cons_of_neg (by decide), List.append_nil]
  rw [← htake name more hname, (List.cons.inj hmore).2, htake other rest hother]

theorem bindingAt?_of_ne (h : c ≠ '{') (cs : Text) : bindingAt? bindings (c :: cs) = none :=
  List.find?_eq_none.2 fun binding _ => by rw [isPrefixOf_of_ne h]; decide

theorem bindingAt?_singleton (name value text : Text) : bindingAt? [(name, value)] text
    = if (placeholder name).isPrefixOf text then some (name, value) else none := by
  rw [bindingAt?, List.find?_cons]
  split <;> simp [*]

theorem exists_of_bindingAt? (h : bindingAt? bindings text = some (name, value)) :
    (name, value) ∈ bindings ∧ ∃ rest, text = placeholder name ++ rest := by
  have hfront := List.find?_some h
  obtain ⟨rest, hrest⟩ := List.isPrefixOf_iff_prefix.1 hfront
  exact ⟨List.mem_of_find?_eq_some h, rest, hrest.symm⟩

/-! ### Passing over a text -/

theorem substitute_nil : substitute bindings [] = [] := by
  rw [substitute, substituteFrom]

theorem substituteFrom_append (bindings : List (Text × Text)) (front rest : Text) :
    substituteFrom bindings front.length (front ++ rest) = substitute bindings rest := by
  induction front with
  | nil => rfl
  | cons c front ih => rw [List.length_cons, List.cons_append, substituteFrom, ih]

theorem substitute_bound (h : bindingAt? bindings (placeholder name ++ rest) = some (name, value)) :
    substitute bindings (placeholder name ++ rest) = value ++ substitute bindings rest := by
  have hskip := substituteFrom_append bindings (name ++ ['}']) rest
  rw [List.length_append, List.length_singleton, List.append_assoc, List.singleton_append] at hskip
  rw [placeholder_append] at h ⊢
  rw [substitute, substituteFrom, h]
  dsimp only
  rw [hskip]

theorem substitute_cons (h : bindingAt? bindings (c :: cs) = none) :
    substitute bindings (c :: cs) = c :: substitute bindings cs := by
  rw [substitute, substituteFrom, h, substitute]

/-- What has no opening brace stays as it is. -/
theorem substitute_append (h : '{' ∉ front) (rest : Text) :
    substitute bindings (front ++ rest) = front ++ substitute bindings rest := by
  induction front with
  | nil => rfl
  | cons c front ih =>
    obtain ⟨hc, hfront⟩ := not_or.1 (mt List.mem_cons.2 h)
    rw [List.cons_append, substitute_cons (bindingAt?_of_ne (Ne.symm hc) _), ih hfront]
    rfl

/-- A placeholder of no binding stays as it is. -/
theorem substitute_placeholder (hname : IsKey name)
    (h : bindingAt? bindings (placeholder name ++ rest) = none) :
    substitute bindings (placeholder name ++ rest)
      = placeholder name ++ substitute bindings rest := by
  have hinner : '{' ∉ name ++ ['}'] := by simp [hname.opening]
  rw [placeholder, List.cons_append, List.cons_append] at h ⊢
  rw [substitute_cons h, substitute_append hinner, List.cons_append]

/-- Replacing a placeholder is to substitute for its name. -/
theorem replace_placeholder (name value text : Text) :
    replace (placeholder name) value text = substitute [(name, value)] text := by
  rw [replace, substitute]
  generalize 0 = skip
  induction text generalizing skip with
  | nil => cases skip <;> rfl
  | cons c cs ih =>
    cases skip with
    | succ skip => exact ih skip
    | zero =>
      have hlength : (placeholder name).length - 1 = name.length + 1 := by simp [placeholder]
      rw [replaceFrom, substituteFrom, bindingAt?_singleton, hlength, ih, ih]
      split <;> rfl

/-! ### Counting placeholders -/

theorem occurrences_cons (name : Text) (c : Char) (cs : Text) : occurrences name (c :: cs)
    = occurrences name cs + if (placeholder name).isPrefixOf (c :: cs) then 1 else 0 := by
  rw [occurrences, List.tails_cons, List.countP_cons, occurrences]

theorem occurrences_le_append (name front rest : Text) :
    occurrences name rest ≤ occurrences name (front ++ rest) := by
  induction front with
  | nil => exact Nat.le_refl _
  | cons c front ih =>
    rw [List.cons_append, occurrences_cons]
    omega

theorem occurrences_append (h : '{' ∉ front) (name rest : Text) :
    occurrences name (front ++ rest) = occurrences name rest := by
  induction front with
  | nil => rfl
  | cons c front ih =>
    obtain ⟨hc, hfront⟩ := not_or.1 (mt List.mem_cons.2 h)
    rw [List.cons_append, occurrences_cons, isPrefixOf_of_ne (Ne.symm hc), ih hfront]
    rfl

theorem occurrences_placeholder (hother : IsKey other) (name rest : Text) :
    occurrences name (placeholder other ++ rest) = occurrences name rest
      + if (placeholder name).isPrefixOf (placeholder other ++ rest) then 1 else 0 := by
  have hinner : '{' ∉ other ++ ['}'] := by simp [hother.opening]
  rw [placeholder, List.cons_append, List.cons_append, occurrences_cons, occurrences_append hinner]

/-- Where no placeholder begins at a character, it stays. -/
theorem substitute_cons_of_occurrences (h : occurrences name (c :: cs) = occurrences name cs) :
    substitute [(name, value)] (c :: cs) = c :: substitute [(name, value)] cs := by
  refine substitute_cons ?_
  rw [occurrences_cons] at h
  rw [bindingAt?_singleton, if_neg]
  intro hfront
  rw [if_pos hfront] at h
  omega

/-- Where no placeholder begins in the front of a text, nothing is replaced there. -/
theorem substitute_append_of_occurrences
    (h : occurrences name (front ++ rest) = occurrences name rest) :
    substitute [(name, value)] (front ++ rest) = front ++ substitute [(name, value)] rest := by
  induction front with
  | nil => rfl
  | cons c front ih =>
    have hfront := occurrences_le_append name front rest
    have hc : occurrences name (front ++ rest) ≤ occurrences name (c :: (front ++ rest)) :=
      occurrences_le_append name [c] (front ++ rest)
    rw [List.cons_append] at h ⊢
    rw [substitute_cons_of_occurrences (by omega), ih (by omega), List.cons_append]

/-! ### One name more -/

/-- Induction on what stands at the front of a text: the placeholder of a binding, that of another
name, or any other character. -/
theorem placeholder_induction (bindings : List (Text × Text)) (name : Text) {motive : Text → Prop}
    (nil : motive [])
    (bound : ∀ other value rest,
      bindingAt? bindings (placeholder other ++ rest) = some (other, value) →
      motive rest → motive (placeholder other ++ rest))
    (key : ∀ rest, bindingAt? bindings (placeholder name ++ rest) = none →
      motive rest → motive (placeholder name ++ rest))
    (char : ∀ c cs, bindingAt? bindings (c :: cs) = none →
      (placeholder name).isPrefixOf (c :: cs) = false → motive cs → motive (c :: cs))
    (text : Text) : motive text := by
  induction hn : text.length using Nat.strongRecOn generalizing text with
  | ind n ih =>
    have hshort (other rest : Text) (h : text = placeholder other ++ rest) : rest.length < n := by
      rw [← hn, h, placeholder_append]
      simp only [List.length_cons, List.length_append]
      omega
    cases hat : bindingAt? bindings text with
    | some binding =>
      obtain ⟨other, value⟩ := binding
      obtain ⟨-, rest, hrest⟩ := exists_of_bindingAt? hat
      rw [hrest] at hat ⊢
      exact bound other value rest hat (ih rest.length (hshort other rest hrest) rest rfl)
    | none =>
      cases hkey : (placeholder name).isPrefixOf text with
      | true =>
        obtain ⟨rest, hrest⟩ := List.isPrefixOf_iff_prefix.1 hkey
        rw [← hrest] at hat ⊢
        exact key rest hat (ih rest.length (hshort name rest hrest.symm) rest rfl)
      | false =>
        cases text with
        | nil => exact nil
        | cons c cs => exact char c cs hat hkey (ih cs.length (hn ▸ Nat.lt_succ_self _) cs rfl)

section

variable (hbindings : ∀ binding ∈ bindings, IsKey binding.1 ∧ binding.1 ≠ name) (hname : IsKey name)

include hbindings hname

/-- The placeholder of a binding is not that of the other name. -/
theorem occurrences_bound
    (h : bindingAt? bindings (placeholder other ++ rest) = some (other, value)) :
    occurrences name (placeholder other ++ rest) = occurrences name rest := by
  obtain ⟨hkey, hne⟩ := hbindings _ (exists_of_bindingAt? h).1
  rw [occurrences_placeholder hkey,
    if_neg fun hfront => hne (eq_of_isPrefixOf hname hkey hfront).symm]
  rfl

/-- Substitution keeps the placeholders of other names. -/
theorem occurrences_le_substitute (text : Text) :
    occurrences name text ≤ occurrences name (substitute bindings text) := by
  induction text using placeholder_induction bindings name with
  | nil => rw [substitute_nil]
  | bound other value rest h ih =>
    rw [occurrences_bound hbindings hname h, substitute_bound h]
    exact ih.trans (occurrences_le_append name value _)
  | key rest h ih =>
    rw [substitute_placeholder hname h, occurrences_placeholder hname,
      occurrences_placeholder hname, isPrefixOf_placeholder_append, isPrefixOf_placeholder_append]
    exact Nat.add_le_add_right ih _
  | char c cs h hother ih =>
    rw [substitute_cons h, occurrences_cons, hother]
    exact ih.trans (occurrences_le_append name [c] _)

/-- As long as no placeholder of a name was brought in, replacing it later is the same as replacing
it together with the others. -/
theorem substitute_substitute (value : Text)
    (h : occurrences name (substitute bindings text) = occurrences name text) :
    substitute [(name, value)] (substitute bindings text)
      = substitute (bindings ++ [(name, value)]) text := by
  have hlast (text : Text) : bindingAt? (bindings ++ [(name, value)]) text
      = (bindingAt? bindings text).or (bindingAt? [(name, value)] text) := List.find?_append ..
  induction text using placeholder_induction bindings name with
  | nil => simp only [substitute_nil]
  | bound other inserted rest hat ih =>
    have hboth : bindingAt? (bindings ++ [(name, value)]) (placeholder other ++ rest)
        = some (other, inserted) := by
      rw [hlast, hat, Option.some_or]
    rw [substitute_bound hat, occurrences_bound hbindings hname hat] at h
    -- neither what was inserted nor what follows has brought a placeholder in
    have hle := occurrences_le_substitute hbindings hname rest
    have hinserted := occurrences_le_append name inserted (substitute bindings rest)
    rw [substitute_bound hat, substitute_bound hboth, substitute_append_of_occurrences (by omega),
      ih (by omega)]
  | key rest hat ih =>
    have hfront := isPrefixOf_placeholder_append name
    have hboth : bindingAt? (bindings ++ [(name, value)]) (placeholder name ++ rest)
        = some (name, value) := by
      rw [hlast, hat, Option.none_or, bindingAt?_singleton, if_pos (hfront rest)]
    have hsingle (text : Text) : bindingAt? [(name, value)] (placeholder name ++ text)
        = some (name, value) := by
      rw [bindingAt?_singleton, if_pos (hfront text)]
    rw [substitute_placeholder hname hat, occurrences_placeholder hname,
      occurrences_placeholder hname, hfront, hfront] at h
    rw [substitute_placeholder hname hat, substitute_bound (hsingle _), substitute_bound hboth,
      ih (by omega)]
  | char c cs hat hother ih =>
    have hboth : bindingAt? (bindings ++ [(name, value)]) (c :: cs) = none := by
      rw [hlast, hat, Option.none_or, bindingAt?_singleton, hother]
      rfl
    have hle := occurrences_le_substitute hbindings hname cs
    have hchar : occurrences name (substitute bindings cs)
        ≤ occurrences name (c :: substitute bindings cs) := occurrences_le_append name [c] _
    rw [substitute_cons hat, occurrences_cons name c cs, hother, if_neg (by decide)] at h
    rw [substitute_cons hat, substitute_cons hboth, substitute_cons_of_occurrences (by omega),
      ih (by omega)]

end

/-! ### One name after the other -/

/-- Whether no value brings in the placeholder of a later name when the names are filled in one
after the other, the `done` ones already. -/
def keepsPlaceholders (format : Text) (done : List (Text × Text)) : List (Text × Text) → Bool
  | [] => true
  | binding :: later =>
    occurrences binding.1 (substitute done format) = occurrences binding.1 format
      && keepsPlaceholders format (done ++ [binding]) later

variable {done later : List (Text × Text)} {format : Text}

theorem substitute_no_bindings (text : Text) : substitute [] text = text := by
  induction text with
  | nil => exact substitute_nil
  | cons c cs ih => rw [substitute_cons rfl, ih]

/-- The bindings that were filled in have other names than the next. -/
theorem isKey_and_ne {binding : Text × Text}
    (hkeys : ∀ b ∈ done ++ binding :: later, IsKey b.1)
    (hdistinct : ((done ++ binding :: later).map (·.1)).Nodup) :
    ∀ b ∈ done, IsKey b.1 ∧ b.1 ≠ binding.1 := by
  intro b hb
  rw [List.map_append, List.nodup_append] at hdistinct
  exact ⟨hkeys b (List.mem_append_left _ hb),
    hdistinct.2.2 _ (List.mem_map_of_mem hb) _ List.mem_cons_self⟩

/-- Replacing one name after the other is to substitute for all of them at once, as long as no value
brings in a placeholder. -/
theorem replaceAll_substitute (hkeys : ∀ b ∈ done ++ later, IsKey b.1)
    (hdistinct : ((done ++ later).map (·.1)).Nodup)
    (h : keepsPlaceholders format done later = true) :
    replaceAll (later.map fun b => (placeholder b.1, b.2)) (substitute done format)
      = substitute (done ++ later) format := by
  induction later generalizing done with
  | nil =>
    rw [List.append_nil]
    rfl
  | cons binding later ih =>
    obtain ⟨hcount, hlater⟩ := Bool.and_eq_true_iff.1 h
    have hstep := substitute_substitute (isKey_and_ne hkeys hdistinct)
      (hkeys binding (List.mem_append_right _ List.mem_cons_self)) binding.2
      (of_decide_eq_true hcount)
    rw [List.append_cons] at hkeys hdistinct ⊢
    rw [← ih hkeys hdistinct hlater, ← hstep, ← replace_placeholder]
    rfl

/-! ### Values that bring nothing in -/

/-- Whether a value can be no part of a placeholder of the given names: it has no brace, and a
character that is in none of the names. -/
structure IsInert (names : List Text) (value : Text) : Prop where
  opening : '{' ∉ value
  closing : '}' ∉ value
  foreign : ∃ c ∈ value, ∀ name ∈ names, c ∉ name

section

variable {names : List Text} (hvalues : ∀ binding ∈ bindings, IsInert names binding.2)
  (hmem : name ∈ names) (hname : IsKey name)

include hvalues hmem hname

/-- The end of a placeholder that stands at the front of a text filled in stood there before. -/
theorem isPrefix_of_isPrefix_substitute (hfront : front ⊆ name)
    (h : front ++ ['}'] <+: substitute bindings text) : front ++ ['}'] <+: text := by
  induction text using placeholder_induction bindings name generalizing front with
  | nil =>
    rw [substitute_nil, List.prefix_nil] at h
    simp at h
  | bound other value rest hat ih =>
    -- the value would end in the placeholder or lie within it
    have hinert := hvalues _ (exists_of_bindingAt? hat).1
    obtain ⟨c, hc, hforeign⟩ := hinert.foreign
    rw [substitute_bound hat] at h
    rcases List.prefix_or_prefix_of_prefix h (List.prefix_append value _) with hwithin | hwithin
    · exact absurd (hwithin.subset (by simp)) hinert.closing
    · rcases List.mem_append.1 (hwithin.subset hc) with hcfront | hclosing
      · exact absurd (hfront hcfront) (hforeign name hmem)
      · exact absurd (List.mem_singleton.1 hclosing ▸ hc) hinert.closing
  | key rest hat ih =>
    rw [substitute_placeholder hname hat, placeholder_append] at h
    cases front with
    | nil => simp at h
    | cons d front =>
      have hd : d = '{' := (List.cons_prefix_cons.1 h).1
      exact absurd (hfront (hd ▸ List.mem_cons_self)) hname.opening
  | char c cs hat hother ih =>
    rw [substitute_cons hat] at h
    cases front with
    | nil =>
      obtain ⟨hc, -⟩ := List.cons_prefix_cons.1 h
      exact List.cons_prefix_cons.2 ⟨hc, List.nil_prefix⟩
    | cons d front =>
      obtain ⟨hd, hrest⟩ := List.cons_prefix_cons.1 h
      exact List.cons_prefix_cons.2
        ⟨hd, ih (fun c hc => hfront (List.mem_cons_of_mem d hc)) hrest⟩

/-- Such values bring in no placeholder, whatever stands around them. -/
theorem occurrences_substitute
    (hbindings : ∀ binding ∈ bindings, IsKey binding.1 ∧ binding.1 ≠ name) (text : Text) :
    occurrences name (substitute bindings text) = occurrences name text := by
  induction text using placeholder_induction bindings name with
  | nil => rw [substitute_nil]
  | bound other value rest hat ih =>
    have hinert := hvalues _ (exists_of_bindingAt? hat).1
    rw [substitute_bound hat, occurrences_append hinert.opening, ih,
      occurrences_bound hbindings hname hat]
  | key rest hat ih =>
    rw [substitute_placeholder hname hat, occurrences_placeholder hname,
      occurrences_placeholder hname, ih, isPrefixOf_placeholder_append,
      isPrefixOf_placeholder_append]
  | char c cs hat hother ih =>
    have hnone : (placeholder name).isPrefixOf (c :: substitute bindings cs) = false := by
      rw [Bool.eq_false_iff, ne_eq, List.isPrefixOf_iff_prefix] at hother ⊢
      intro hfront
      obtain ⟨hc, hrest⟩ := List.cons_prefix_cons.1 hfront
      exact hother (List.cons_prefix_cons.2 ⟨hc,
        isPrefix_of_isPrefix_substitute hvalues hmem hname (List.Subset.refl name) hrest⟩)
    rw [substitute_cons hat, occurrences_cons, occurrences_cons, hnone, hother, ih]

end

/-- If all values are such, the last perhaps not, no placeholder is brought in. -/
theorem keepsPlaceholders_of_isInert {names : List Text}
    (hkeys : ∀ b ∈ done ++ later, IsKey b.1) (hnames : ∀ b ∈ later, b.1 ∈ names)
    (hdistinct : ((done ++ later).map (·.1)).Nodup) (hdone : ∀ b ∈ done, IsInert names b.2)
    (hlater : ∀ b ∈ later.dropLast, IsInert names b.2) :
    keepsPlaceholders format done later = true := by
  induction later generalizing done with
  | nil => rfl
  | cons binding later ih =>
    obtain ⟨hmem, hnames⟩ := List.forall_mem_cons.1 hnames
    have hcount := occurrences_substitute hdone hmem
      (hkeys binding (List.mem_append_right _ List.mem_cons_self))
      (isKey_and_ne hkeys hdistinct) format
    refine Bool.and_eq_true_iff.2 ⟨decide_eq_true hcount, ?_⟩
    cases later with
    | nil => rfl
    | cons next later =>
      obtain ⟨hbinding, hlater⟩ := List.forall_mem_cons.1 hlater
      rw [List.append_cons] at hkeys hdistinct
      refine ih hkeys hnames hdistinct (fun b hb => ?_) hlater
      rcases List.mem_append.1 hb with hb | hb
      · exact hdone b hb
      · exact List.mem_singleton.1 hb ▸ hbinding

/-! ### Scripts -/

/-- The names in script formats. -/
def scriptNames : List Text := ["path", "line_number", "qualified_id", "name"]

/-- The values of the names in script formats for a test. -/
def scriptBindings (record : Record) : List (Text × Text) :=
  scriptNames.zip
    [record.location.path, decimal record.location.line, record.qualifiedId, record.name]

theorem isKey_of_mem_scriptNames (h : name ∈ scriptNames) : IsKey name := by
  have hall : ∀ name ∈ scriptNames, '{' ∉ name ∧ '}' ∉ name := by decide
  exact ⟨(hall name h).1, (hall name h).2⟩

theorem isInert_decimal (n : Nat) : IsInert scriptNames (decimal n) where
  opening hmem := absurd (isDigit_of_mem_decimal hmem) (by decide)
  closing hmem := absurd (isDigit_of_mem_decimal hmem) (by decide)
  foreign := by
    have hnames : ∀ name ∈ scriptNames, name.all (!Char.isDigit ·) = true := by decide
    obtain ⟨c, cs, hcs, hc⟩ := exists_decimal_eq_cons n
    refine ⟨c, hcs ▸ List.mem_cons_self, fun name hname hmem => ?_⟩
    have hnot := List.all_eq_true.1 (hnames name hname) c hmem
    rw [hc] at hnot
    cases hnot

/-- The default value that is a script is the format with all values filled in at once, as long as
no value brings in the placeholder of a later name; a path and a qualified id without braces do not,
if each has a character that is in none of the names. -/
theorem Registry.defaultValue?_automationScript {registry : Registry} {field : Text}
    (hfield : registry.defaults.get? field = some (.provided .automationScript)) (record : Record) :
    (keepsPlaceholders registry.script [] (scriptBindings record) = true →
      registry.defaultValue? record field
        = some (substitute (scriptBindings record) registry.script))
    ∧ (IsInert scriptNames record.location.path → IsInert scriptNames record.qualifiedId →
      keepsPlaceholders registry.script [] (scriptBindings record) = true) := by
  have hkeys : ∀ b ∈ [] ++ scriptBindings record, IsKey b.1 := fun b hb =>
    isKey_of_mem_scriptNames (List.of_mem_zip hb).1
  have hdistinct : (([] ++ scriptBindings record : List (Text × Text)).map (·.1)).Nodup :=
    (by decide : scriptNames.Nodup)
  refine ⟨fun h => ?_, fun hpath hid => ?_⟩
  · have hfill := replaceAll_substitute hkeys hdistinct h
    rw [substitute_no_bindings, List.nil_append] at hfill
    rw [Registry.defaultValue?, hfield, ← hfill]
    rfl
  · refine keepsPlaceholders_of_isInert hkeys (fun b hb => (List.of_mem_zip hb).1) hdistinct
      (fun b hb => by cases hb) ?_
    intro b hb
    have hvalues :
        b.2 ∈ [record.location.path, decimal record.location.line, record.qualifiedId] := by
      simp only [scriptBindings, scriptNames, List.zip_cons_cons, List.zip_nil_right,
        List.dropLast_cons_cons, List.dropLast_singleton, List.mem_cons, List.not_mem_nil,
        or_false] at hb
      rcases hb with rfl | rfl | rfl <;> simp
    simp only [List.mem_cons, List.not_mem_nil, or_false] at hvalues
    rcases hvalues with h | h | h <;> rw [h]
    · exact hpath
    · exact isInert_decimal _
    · exact hid

/-- A test in a file of a given path. -/
def scriptSample (path : Path) : Record where
  name := "test_x"
  qualifiedId := "tests.test_a.test_x"
  modulePath := "tests.test_a"
  parentClass := none
  doc := none
  location := ⟨path, 12⟩
  fields := .empty
  markers := []
  decorators := []
  classDecorators := []
  moduleMarks := []

/-- A format with more braces than those of its names. -/
def scriptFormatSample : Text :=
  "\x7b\x7bname\x7d\x7d in \x7bpath\x7d: \x7bqualified_id \x7bname\x7d"

theorem Registry.defaultValue?_automationScript_braces :
    (Registry.builtin.declare (.scriptFormat scriptFormatSample)).defaults.get? "automation_script"
        = some (.provided .automationScript)
      ∧ IsInert scriptNames (scriptSample "tests/test_a.py").location.path
      ∧ IsInert scriptNames (scriptSample "tests/test_a.py").qualifiedId
      ∧ (Registry.builtin.declare (.scriptFormat scriptFormatSample)).defaultValue?
          (scriptSample "tests/test_a.py") "automation_script"
        = some "\x7btest_x\x7d in tests/test_a.py: \x7bqualified_id test_x".toList := by
  have hfield : (Registry.builtin.declare (.scriptFormat scriptFormatSample)).defaults.get?
      "automation_script" = some (.provided .automationScript) := rfl
  have hpath : IsInert scriptNames (scriptSample "tests/test_a.py").location.path :=
    ⟨by decide, by decide, '.', by decide, by decide⟩
  have hid : IsInert scriptNames (scriptSample "tests/test_a.py").qualifiedId :=
    ⟨by decide, by decide, '.', by decide, by decide⟩
  obtain ⟨hscript, hkeeps⟩ :=
    Registry.defaultValue?_automationScript hfield (scriptSample "tests/test_a.py")
  refine ⟨hfield, hpath, hid, ?_⟩
  rw [hscript (hkeeps hpath hid)]
  decide +kernel

/-- A name in braces in a path is filled in like one of the format. -/
theorem Registry.defaultValue?_automationScript_path :
    Registry.builtin.defaultValue? (scriptSample "tests/test_\x7bname\x7d.py") "automation_script"
        = some "tests/test_test_x.py#12".toList
      ∧ substitute (scriptBindings (scriptSample "tests/test_\x7bname\x7d.py"))
          Registry.builtin.script
        = "tests/test_\x7bname\x7d.py#12".toList := by
  decide +kernel

end Testbook
