import Testbook.Proofs.Registry.Settings
import Testbook.Proofs.Text.Case

/-!
A registry applied twice does what it does applied once. Configurations name their rules: a default
is a value or a reading of the test that does not look at its fields, and an adjustment is one of
the named transforms, each of which changes a value once. That is all that a registry built from
configurations says (`isNamed_layers`), in whatever way they are laid over each other. So on the
second pass every default finds its field filled or is as absent as before, and every value is
adjusted already (`apply_apply`, `applyRequirement_applyRequirement`).
-/

namespace Testbook

open Testbook.Text Testbook.Toml

/-! ### Named rules -/

/-- A transformed value is not changed by the same transform. -/
theorem Transform.apply_apply (t : Transform) (value : Text) :
    t.apply (t.apply value) = t.apply value := by
  cases t with
  | lower => exact lower_lower value
  | upper => exact upper_upper value
  | strip => exact trim_trim value
  | identity => rfl

/-- Whether a default is a value or a named reading. -/
def Default.IsNamed : Default → Prop
  | .constant _ => True
  | .provided _ => True
  | .computed _ => False

/-- What is read off a test by name has nothing to do with its fields. -/
theorem Default.value?_withFields {source : Default} (h : source.IsNamed) (format : Text)
    (record : Record) (fields : Fields) :
    source.value? format { record with fields := fields } = source.value? format record := by
  cases source with
  | constant value => rfl
  | provided provider => cases provider <;> rfl
  | computed compute => exact h.elim

/-- Whether what is said is said by name, where it is a rule. -/
def Content.IsNamed : Content → Prop
  | .source origin => origin.IsNamed
  | .adjustment rule => ∃ t : Transform, rule = t.adjustment
  | .names _ => True
  | .text _ => True
  | .transform _ => True

namespace Registry

/-- Whether all rules of a registry are named. -/
def IsNamed (registry : Registry) : Prop :=
  ∀ target content, registry.content? target = some content → content.IsNamed

variable {registry base upper : Registry}

theorem isNamed_empty : empty.IsNamed := fun target content h => by
  cases target <;> cases h

theorem IsNamed.declare (h : registry.IsNamed) {d : Declaration} (hd : d.content.IsNamed) :
    (registry.declare d).IsNamed := fun target content hcontent => by
  rw [content?_declare] at hcontent
  split at hcontent
  · cases hcontent
    exact hd
  · exact h target content hcontent

theorem IsNamed.declareAll (h : registry.IsNamed) {ds : List Declaration}
    (hds : ∀ d ∈ ds, d.content.IsNamed) : (registry.declareAll ds).IsNamed := by
  induction ds generalizing registry with
  | nil => exact h
  | cons d ds ih =>
    obtain ⟨hd, hds⟩ := List.forall_mem_cons.1 hds
    exact ih (h.declare hd) hds

theorem IsNamed.layer (hbase : base.IsNamed) (hupper : upper.IsNamed) :
    (base.layer upper).IsNamed := fun target content hcontent => by
  rw [content?_layer, Option.or_eq_some_iff] at hcontent
  rcases hcontent with hcontent | ⟨-, hcontent⟩
  · exact hupper target content hcontent
  · exact hbase target content hcontent

theorem isNamed_builtin : builtin.IsNamed := by
  refine isNamed_empty.declareAll fun d hd => ?_
  simp only [builtinDeclarations, List.mem_append] at hd
  rcases hd with ((hd | hd) | hd) | hd
  · simp only [List.mem_cons, List.not_mem_nil, or_false] at hd
    rcases hd with rfl | rfl | rfl | rfl | rfl | rfl | rfl <;> exact trivial
  · simp only [builtinTestRules, List.mem_cons, List.not_mem_nil, or_false] at hd
    rcases hd with rfl | rfl | rfl | rfl | rfl | rfl | rfl | rfl | rfl | rfl | rfl | rfl <;>
      exact trivial
  · obtain ⟨field, -, rfl⟩ := List.mem_map.1 hd
    exact ⟨.lower, rfl⟩
  · simp only [builtinRequirementRules, List.mem_cons, List.not_mem_nil, or_false] at hd
    rcases hd with rfl | rfl | rfl | rfl | rfl | rfl | rfl | rfl <;> exact trivial

theorem isNamed_defaultOf? {value : Value} {source : Default} (h : defaultOf? value = some source) :
    source.IsNamed := by
  unfold defaultOf? at h
  split at h
  · cases h
    exact trivial
  · obtain ⟨provider, -, rfl⟩ := Option.map_eq_some_iff.1 h
    exact trivial
  · cases h

/-- Every setting declares something named. -/
theorem isNamed_of_declaration {setting : Setting} {value : Value} {d : Declaration}
    (h : setting.declaration value = .ok (some d)) : d.content.IsNamed := by
  cases setting with
  | foreign => cases h
  | transform field =>
    simp only [Setting.declaration] at h
    cases ht : transformOf value <;> rw [ht] at h <;> cases h
    exact ⟨_, rfl⟩
  | requirementTransform field =>
    simp only [Setting.declaration] at h
    cases ht : transformOf value <;> rw [ht] at h <;> cases h
    exact trivial
  | default field =>
    simp only [Setting.declaration] at h
    cases hd : defaultOf? value <;> rw [hd] at h <;> cases h
    exact isNamed_defaultOf? hd
  | scriptFormat | requirementDefault field =>
    simp only [Setting.declaration] at h
    cases ht : value.text? <;> rw [ht] at h <;> cases h
    exact trivial
  | testFields | customFields | requirementFields | requirementCustomFields | ignoredMarkers
  | requiredFields =>
    simp only [Setting.declaration] at h
    cases ht : value.texts? <;> rw [ht] at h <;> cases h
    exact trivial

theorem isNamed_ofToml {text : Text} (h : ofToml text = .ok registry) : registry.IsNamed := by
  rw [ofToml] at h
  split at h
  · next entries _ =>
    obtain ⟨found, hfound, rfl⟩ := ofSettings_eq_ok.1 h
    refine isNamed_empty.declareAll fun d hd => ?_
    have hmem : some d ∈ found := by simpa using hd
    have hok : Except.ok (some d) ∈ entries.map declarationOf :=
      hfound ▸ List.mem_map_of_mem hmem
    obtain ⟨⟨key, value⟩, -, hentry⟩ := List.mem_map.1 hok
    obtain ⟨setting, -, hsetting⟩ := declarationOf_eq_ok.1 hentry
    exact isNamed_of_declaration hsetting
  · cases h

/-- Configurations over the usual registry, one over the other, leave all rules named. -/
theorem isNamed_layers {texts : List Text} {registries : List Registry}
    (h : texts.map ofToml = registries.map .ok) : (registries.foldl layer builtin).IsNamed := by
  have hall : ∀ upper ∈ registries, upper.IsNamed := fun upper hupper => by
    have hmem : Except.ok upper ∈ texts.map ofToml := h ▸ List.mem_map_of_mem hupper
    obtain ⟨text, -, htext⟩ := List.mem_map.1 hmem
    exact isNamed_ofToml htext
  clear h
  have hfold {base : Registry} (hbase : base.IsNamed) : (registries.foldl layer base).IsNamed := by
    induction registries generalizing base with
    | nil => exact hbase
    | cons upper registries ih =>
      obtain ⟨hupper, hrest⟩ := List.forall_mem_cons.1 hall
      exact ih hrest (hbase.layer hupper)
  exact hfold isNamed_builtin

/-! ### Tests -/

variable (registry) in
/-- A field that has no value keeps none: it had none before, and there is no default for it. -/
theorem get?_fill_eq_none {record : Record} {name : Text}
    (h : (registry.fill record).get? name = none) : registry.ownDefault? record name = none := by
  rw [get?_fill, Option.or_eq_none_iff] at h
  exact h.2

theorem IsNamed.ownDefault?_withFields (h : registry.IsNamed) (record : Record) (fields : Fields)
    (name : Text) : registry.ownDefault? { record with fields := fields } name
      = registry.ownDefault? record name := by
  rw [ownDefault?, ownDefault?, defaultValue?, defaultValue?]
  cases hsource : registry.defaults.get? name with
  | none => rfl
  | some source =>
    have hnamed : source.IsNamed := h (.default name) (.source source) (by simp [content?, hsource])
    rw [Option.bind_some, Option.bind_some, Default.value?_withFields hnamed]

/-- An adjustment does not look at the test, and changes a value once. -/
theorem IsNamed.adjusted_adjusted (h : registry.IsNamed) (record other : Record)
    (name value : Text) : registry.adjusted other name (registry.adjusted record name value)
      = registry.adjusted record name value := by
  simp only [adjusted]
  cases hrule : registry.adjustments.get? name with
  | none => rfl
  | some adjustment =>
    have hnamed : (Content.adjustment adjustment).IsNamed :=
      h (.adjustment name) (.adjustment adjustment) (by simp [content?, hrule])
    obtain ⟨t, rfl⟩ := hnamed
    exact t.apply_apply value

/-- A test that the registry was applied to has all default values that there are. -/
theorem IsNamed.fill_apply (h : registry.IsNamed) (record : Record) :
    registry.fill (registry.apply record) = (registry.apply record).fields := by
  refine Fields.ext_get? fun name => ?_
  have hdefault : registry.ownDefault? (registry.apply record) name
      = registry.ownDefault? record name := h.ownDefault?_withFields record _ name
  rw [get?_fill, hdefault]
  cases hvalue : (registry.apply record).fields.get? name with
  | some value => rw [Option.some_or]
  | none =>
    rw [get?_apply, Option.map_eq_none_iff] at hvalue
    rw [get?_fill_eq_none registry hvalue, Option.or_none]

theorem IsNamed.apply_apply (h : registry.IsNamed) (record : Record) :
    registry.apply (registry.apply record) = registry.apply record := by
  have hfields : (registry.apply (registry.apply record)).fields = (registry.apply record).fields := by
    refine Fields.ext_get? fun name => ?_
    rw [get?_apply, h.fill_apply, get?_apply, Option.map_map]
    congr 1
    funext value
    exact h.adjusted_adjusted _ _ name value
  have happly (r : Record) : registry.apply r = { r with fields := (registry.apply r).fields } := rfl
  rw [happly (registry.apply record), hfields]

/-! ### Requirements -/

variable (registry)

theorem get?_fillRequirementField (fields : Table Text) (name other : Text) :
    (registry.fillRequirementField fields name).get? other = (fields.get? other).or
      (if name = other then registry.requirementDefaults.get? other else none) := by
  by_cases hname : name = other
  · subst hname
    rw [if_pos rfl, fillRequirementField, Table.contains]
    cases hvalue : fields.get? name with
    | some value => rw [Option.isSome_some, if_pos rfl, hvalue, Option.some_or]
    | none =>
      rw [Option.isSome_none, if_neg Bool.false_ne_true, Option.none_or]
      cases registry.requirementDefaults.get? name with
      | some value => rw [Table.get?_insert, if_pos rfl]
      | none => exact hvalue
  · rw [if_neg hname, Option.or_none, fillRequirementField]
    split
    · rfl
    · split
      · rw [Table.get?_insert, if_neg hname]
      · rfl

/-- A requirement that has all default values is left as it is. -/
theorem foldl_fillRequirementField_of_filled {names : List Text} {fields : Table Text}
    (h : ∀ name ∈ names, registry.requirementDefaults.get? name ≠ none → fields.get? name ≠ none) :
    names.foldl registry.fillRequirementField fields = fields := by
  induction names with
  | nil => rfl
  | cons name names ih =>
    obtain ⟨hname, hnames⟩ := List.forall_mem_cons.1 h
    have hstep : registry.fillRequirementField fields name = fields := by
      rw [fillRequirementField]
      split
      · rfl
      · next habsent =>
        split
        · next value hvalue =>
          refine absurd ?_ habsent
          exact Option.isSome_iff_ne_none.2 (hname (by simp [hvalue]))
        · rfl
    rw [List.foldl_cons, hstep, ih hnames]

/-- Filling in a list of fields fills in each of them and takes none away. -/
theorem get?_foldl_fillRequirementField_ne_none {names : List Text} {fields : Table Text}
    {name : Text} (h : fields.get? name ≠ none
      ∨ name ∈ names ∧ registry.requirementDefaults.get? name ≠ none) :
    (names.foldl registry.fillRequirementField fields).get? name ≠ none := by
  induction names generalizing fields with
  | nil => exact h.resolve_right fun h => List.not_mem_nil h.1
  | cons first names ih =>
    refine ih ?_
    rw [get?_fillRequirementField, ne_eq, Option.or_eq_none_iff]
    rcases h with h | ⟨hmem, hdefault⟩
    · exact .inl fun hnone => h hnone.1
    · rcases List.mem_cons.1 hmem with rfl | hmem
      · exact .inl fun hnone => hdefault (by simpa using hnone.2)
      · exact .inr ⟨hmem, hdefault⟩

theorem applyRequirement_applyRequirement (fields : Table Text) :
    registry.applyRequirement (registry.applyRequirement fields)
      = registry.applyRequirement fields := by
  have hdistinct := registry.requirementTransforms.distinct
  have hfilled : registry.requirementNames.foldl registry.fillRequirementField
      (registry.applyRequirement fields) = registry.applyRequirement fields := by
    refine registry.foldl_fillRequirementField_of_filled fun name hname hdefault => ?_
    rw [applyRequirement, get?_foldl_transformField hdistinct, ne_eq, Option.map_eq_none_iff]
    exact registry.get?_foldl_fillRequirementField_ne_none (.inr ⟨hname, hdefault⟩)
  have hagain : registry.applyRequirement (registry.applyRequirement fields)
      = registry.requirementTransforms.entries.foldl transformField
          (registry.applyRequirement fields) := by
    rw [applyRequirement, hfilled]
  rw [hagain]
  refine Table.ext_get? (names_foldl_transformField _ _) fun name => ?_
  rw [get?_foldl_transformField hdistinct, applyRequirement, get?_foldl_transformField hdistinct,
    Option.map_map]
  congr 1
  funext value
  cases hrule : Table.lookup name registry.requirementTransforms.entries with
  | none => rfl
  | some t => exact t.apply_apply value

/-! ### Both -/

/-- Whatever configurations are laid over the usual registry, applying the outcome twice to a test
or to the fields of a requirement is the same as applying it once. -/
theorem apply_apply_layers {texts : List Text} {registries : List Registry}
    (h : texts.map ofToml = registries.map .ok) :
    (∀ record, (registries.foldl layer builtin).apply ((registries.foldl layer builtin).apply record)
        = (registries.foldl layer builtin).apply record)
      ∧ ∀ fields, (registries.foldl layer builtin).applyRequirement
          ((registries.foldl layer builtin).applyRequirement fields)
        = (registries.foldl layer builtin).applyRequirement fields :=
  ⟨(isNamed_layers h).apply_apply, applyRequirement_applyRequirement _⟩

/-- A configuration whose titles are full names in upper case. -/
def titleSettings : Text :=
  "DEFAULT_TITLE_VALUE = \x7bcomputed = \"qualified-id\"\x7d\nTRANSFORM_TITLE_VALUE = \"upper\"\n"

/-- A configuration that trims the priorities of requirements. -/
def prioritySettings : Text :=
  "DEFAULT_REQUIREMENT_PRIORITY_VALUE = \" Low \"\n"
    ++ "TRANSFORM_REQUIREMENT_PRIORITY_VALUE = \"strip\"\n"

/-- A test without fields. -/
def bareTest : Record where
  name := "test_x"
  qualifiedId := "tests.test_a.test_x"
  modulePath := "tests.test_a"
  parentClass := none
  doc := none
  location := ⟨"tests/test_a.py", 3⟩
  fields := .empty
  markers := []
  decorators := []
  classDecorators := []
  moduleMarks := []

/-- A configuration whose keys stand in order is read as it stands. -/
theorem ofToml_of_readLines {text rest : Text} {found : Entries}
    (hmark : text.head? ≠ some '\ufeff') (h : readLines text = some (found, rest))
    (hsorted : ((entriesToValues found).map (·.1)).Pairwise fun a b => ¬ b < a) :
    ofToml text = ofSettings (entriesToValues found) := by
  have hentries : (entriesToValues found).Pairwise fun a b => precedes a b := by
    simp only [precedes_iff]
    exact List.pairwise_map.1 hsorted
  rw [ofToml, parse_of_readLines hmark h, List.mergeSort_of_pairwise hentries]

/-- A test without fields has a title and a requirement a priority then, once and for all. -/
theorem apply_apply_layers_title : ∃ registries : List Registry,
    [titleSettings, prioritySettings].map ofToml = registries.map .ok
      ∧ (let registry := registries.foldl layer builtin
        (registry.apply bareTest).fields.get? "title" = some "TESTS.TEST_A.TEST_X".toList
          ∧ (registry.applyRequirement .empty).get? "priority" = some "Low".toList
          ∧ registry.apply (registry.apply bareTest) = registry.apply bareTest
          ∧ registry.applyRequirement (registry.applyRequirement .empty)
            = registry.applyRequirement .empty) := by
  have hok {values : Entries × Text} {registry : Registry}
      (h : (ofSettings (entriesToValues values.1)).toOption = some registry) :
      ofSettings (entriesToValues values.1) = .ok registry := by
    cases hvalues : ofSettings (entriesToValues values.1) with
    | error bad =>
      rw [hvalues] at h
      cases h
    | ok found =>
      rw [hvalues] at h
      exact congrArg Except.ok (Option.some.inj h)
  have hread : ((readLines titleSettings).bind fun a => (readLines prioritySettings).bind fun b =>
      (ofSettings (entriesToValues a.1)).toOption.bind fun titles =>
        (ofSettings (entriesToValues b.1)).toOption.map fun priorities =>
          let registry := [titles, priorities].foldl layer builtin
          ((entriesToValues a.1).map (·.1), (entriesToValues b.1).map (·.1),
            (registry.apply bareTest).fields.get? "title",
            (registry.applyRequirement .empty).get? "priority"))
      = some (["DEFAULT_TITLE_VALUE".toList, "TRANSFORM_TITLE_VALUE".toList],
        ["DEFAULT_REQUIREMENT_PRIORITY_VALUE".toList,
          "TRANSFORM_REQUIREMENT_PRIORITY_VALUE".toList],
        some "TESTS.TEST_A.TEST_X".toList, some "Low".toList) := by
    decide +kernel
  obtain ⟨a, ha, hread⟩ := Option.bind_eq_some_iff.1 hread
  obtain ⟨b, hb, hread⟩ := Option.bind_eq_some_iff.1 hread
  obtain ⟨titles, htitles, hread⟩ := Option.bind_eq_some_iff.1 hread
  obtain ⟨priorities, hpriorities, hread⟩ := Option.map_eq_some_iff.1 hread
  obtain ⟨hkeys, hread⟩ := Prod.mk.inj hread
  obtain ⟨hkeys', hread⟩ := Prod.mk.inj hread
  obtain ⟨htitle, hpriority⟩ := Prod.mk.inj hread
  have hfirst := ofToml_of_readLines (by decide +kernel) ha (by rw [hkeys]; decide +kernel)
  have hsecond := ofToml_of_readLines (by decide +kernel) hb (by rw [hkeys']; decide +kernel)
  have hregistries : [titleSettings, prioritySettings].map ofToml
      = [titles, priorities].map .ok := by
    simp only [List.map_cons, List.map_nil, hfirst, hsecond, hok htitles, hok hpriorities]
  obtain ⟨htest, hrequirement⟩ := apply_apply_layers hregistries
  exact ⟨_, hregistries, htitle, hpriority, htest _, hrequirement _⟩

end Registry

end Testbook
