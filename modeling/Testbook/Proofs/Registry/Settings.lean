import Testbook.Registry.Settings
import Testbook.Proofs.Registry.Layer
import Testbook.Proofs.Registry.Pipeline
import Testbook.Proofs.Results
import Testbook.Proofs.Text.Pieces
import Mathlib.Data.Char
import Mathlib.Data.List.Lex
import Mathlib.Data.List.Perm.Basic

/-!
Configurations entry by entry. What a key is about is decided by the key alone (`keyTarget?`), and
an entry that is accepted makes the declaration about it, or none. So a configuration is accepted
when its entries are, one by one, and its registry says what the registries of the single entries
say together: laid over each other in any order they answer alike, as long as no two keys are about
the same thing (`ofToml_union`). Registries that say the same answer alike (`alike_of_content?`):
of a table they ask only what a field has, never where the field stands in it.
-/

namespace Testbook

open Testbook.Text Testbook.Toml

/-! ### The order of entries -/

namespace Toml

theorem precedes_iff {a b : Text × Value} : precedes a b ↔ ¬ b.1 < a.1 := by
  rw [precedes, Bool.not_eq_true', decide_eq_false_iff_not]

/-- The entries of a configuration stand in the order of their keys. -/
theorem pairwise_parse {text : Text} {entries : List (Text × Value)}
    (h : Toml.parse text = some entries) : entries.Pairwise fun a b => ¬ b.1 < a.1 := by
  simp only [Toml.parse] at h
  split at h
  · next found _ _ =>
    cases h
    have hsorted : ((entriesToValues found).mergeSort precedes).Pairwise fun a b => precedes a b := by
      refine List.pairwise_mergeSort (fun a b c hab hbc => ?_) (fun a b => ?_) _
      · rw [precedes_iff, not_lt] at hab hbc ⊢
        exact hab.trans hbc
      · rw [Bool.or_eq_true, precedes_iff, precedes_iff, not_lt, not_lt]
        exact le_total _ _
    exact hsorted.imp precedes_iff.1
  · cases h

theorem parse_of_readLines {text rest : Text} {found : Entries} (hmark : text.head? ≠ some '\ufeff')
    (h : readLines text = some (found, rest)) :
    Toml.parse text = some ((entriesToValues found).mergeSort precedes) := by
  cases text with
  | nil => simp only [Toml.parse, h]
  | cons c cs =>
    have hc : c ≠ '\ufeff' := fun hc => hmark (hc ▸ rfl)
    simp only [Toml.parse, if_neg hc, h]

end Toml

/-! ### What keys are about -/

/-- What a setting declares something about; a foreign key declares nothing. -/
def Setting.target? : Setting → Option Target
  | testFields => some .testFields
  | customFields => some .customFields
  | requirementFields => some .requirementFields
  | requirementCustomFields => some .requirementCustomFields
  | ignoredMarkers => some .ignoredMarkers
  | requiredFields => some .requiredFields
  | scriptFormat => some .scriptFormat
  | default field => some (.default (lower field))
  | transform field => some (.adjustment (lower field))
  | requirementDefault field => some (.requirementDefault (lower field))
  | requirementTransform field => some (.requirementTransform (lower field))
  | foreign => none

/-- What a key of a configuration is about, if it is about anything. -/
def keyTarget? (key : Text) : Option Target := (Setting.ofKey? key).bind Setting.target?

variable {key field : Text} {value : Value} {declared : Option Declaration}

theorem target_of_declaration {setting : Setting} (h : setting.declaration value = .ok declared) :
    declared.map Declaration.target = setting.target? := by
  cases setting with
  | foreign =>
    cases h
    rfl
  | transform field =>
    simp only [Setting.declaration] at h
    cases ht : transformOf value <;> rw [ht] at h <;> cases h
    rfl
  | requirementTransform field =>
    simp only [Setting.declaration] at h
    cases ht : transformOf value <;> rw [ht] at h <;> cases h
    rfl
  | default field =>
    simp only [Setting.declaration] at h
    cases hd : defaultOf? value <;> rw [hd] at h <;> cases h
    rfl
  | scriptFormat | requirementDefault field =>
    simp only [Setting.declaration] at h
    cases ht : value.text? <;> rw [ht] at h <;> cases h
    rfl
  | testFields | customFields | requirementFields | requirementCustomFields | ignoredMarkers
  | requiredFields =>
    simp only [Setting.declaration] at h
    cases ht : value.texts? <;> rw [ht] at h <;> cases h
    rfl

theorem declarationOf_eq_ok : declarationOf (key, value) = .ok declared
    ↔ ∃ setting, Setting.ofKey? key = some setting ∧ setting.declaration value = .ok declared := by
  rw [declarationOf]
  cases Setting.ofKey? key with
  | none => simp [orProblem, Except.bind, Except.mapError]
  | some setting =>
    cases hd : setting.declaration value <;> simp [orProblem, Except.bind, Except.mapError, hd]

/-- A declaration is about what the key of its entry is about. -/
theorem target_of_declarationOf (h : declarationOf (key, value) = .ok declared) :
    declared.map Declaration.target = keyTarget? key := by
  obtain ⟨setting, hkey, hsetting⟩ := declarationOf_eq_ok.1 h
  rw [target_of_declaration hsetting, keyTarget?, hkey, Option.bind_some]

/-! ### Registries of entries -/

namespace Registry

variable {entries order : List (Text × Value)} {registry single : Registry}

theorem ofSettings_eq (entries : List (Text × Value)) : ofSettings entries
    = (entries.mapM declarationOf).map fun found => ofDeclarations (found.filterMap id) := rfl

theorem ofSettings_eq_ok : ofSettings entries = .ok registry
    ↔ ∃ found : List (Option Declaration), entries.map declarationOf = found.map .ok
      ∧ registry = ofDeclarations (found.filterMap id) := by
  simp only [← mapM_eq_ok_iff]
  rw [ofSettings_eq]
  cases entries.mapM declarationOf <;> simp [Except.map, eq_comm]

theorem ofSettings_eq_error {problem : ConfigurationProblem} : ofSettings entries = .error problem
    ↔ entries.mapM declarationOf = .error problem := by
  rw [ofSettings_eq]
  cases entries.mapM declarationOf <;> simp [Except.map]

theorem exists_ofSettings_eq_ok : (∃ registry, ofSettings entries = .ok registry)
    ↔ ∃ found, entries.mapM declarationOf = .ok found := by
  rw [ofSettings_eq]
  cases entries.mapM declarationOf <;> simp [Except.map]

/-- The registry of a single entry makes its declaration, or declares nothing. -/
theorem ofSettings_singleton (entry : Text × Value) : ofSettings [entry]
    = (declarationOf entry).map fun declared => ofDeclarations declared.toList := by
  rw [ofSettings]
  simp only [List.mapM_cons, List.mapM_nil]
  cases declarationOf entry with
  | error problem => rfl
  | ok declared => cases declared <;> rfl

theorem ofSettings_singleton_eq_ok {entry : Text × Value} : ofSettings [entry] = .ok single
    ↔ ∃ declared, declarationOf entry = .ok declared ∧ single = ofDeclarations declared.toList := by
  rw [ofSettings_singleton]
  cases declarationOf entry <;> simp [Except.map, eq_comm]

theorem ofSettings_singleton_eq_error {entry : Text × Value} {problem : ConfigurationProblem} :
    ofSettings [entry] = .error problem ↔ declarationOf entry = .error problem := by
  rw [ofSettings_singleton]
  cases declarationOf entry <;> simp [Except.map]

/-- Whether an entry is accepted on its own. -/
def AcceptsAlone (entry : Text × Value) : Prop := ∃ single, ofSettings [entry] = .ok single

theorem acceptsAlone_iff {entry : Text × Value} :
    AcceptsAlone entry ↔ ∃ declared, declarationOf entry = .ok declared := by
  rw [AcceptsAlone, ofSettings_singleton]
  cases declarationOf entry <;> simp [Except.map]

/-- Registries laid over each other, the last one on top. -/
def layers (registries : List Registry) : Registry := registries.foldl layer empty

theorem layers_map_ofDeclarations (declared : List (List Declaration)) :
    layers (declared.map ofDeclarations) = ofDeclarations declared.flatten := by
  have hfold (base : Registry) : (declared.map ofDeclarations).foldl layer base
      = base.declareAll declared.flatten := by
    induction declared generalizing base with
    | nil => rfl
    | cons ds declared ih =>
      have hlayer : base.layer (ofDeclarations ds) = base.declareAll ds := by
        rw [ofDeclarations, layer_declareAll, layer_empty]
      rw [List.map_cons, List.foldl_cons, ih, hlayer, List.flatten_cons, declareAll_append]
  exact hfold empty

/-- The declarations of accepted entries are about what the keys are about. -/
theorem map_target_declared {found : List (Option Declaration)}
    (h : entries.map declarationOf = found.map .ok) :
    (found.filterMap id).map Declaration.target = entries.filterMap (keyTarget? ·.1) := by
  induction entries generalizing found with
  | nil =>
    obtain rfl := List.map_eq_nil_iff.1 h.symm
    rfl
  | cons entry entries ih =>
    cases found with
    | nil => cases h
    | cons declared found =>
      obtain ⟨hentry, hentries⟩ := List.cons.inj h
      have htarget : declared.map Declaration.target = keyTarget? entry.1 :=
        target_of_declarationOf hentry
      rw [List.filterMap_cons, List.filterMap_cons, ← htarget, ← ih hentries]
      cases declared <;> rfl

/-! ### What registries answer -/

theorem content?_layer (base upper : Registry) (target : Target) :
    (base.layer upper).content? target = (upper.content? target).or (base.content? target) := by
  cases target <;> simp only [layer, content?, Table.get?_overlay, Option.map_or]

/-- Two registries have the same lists and answer the same, whatever is asked. -/
structure Alike (a b : Registry) : Prop where
  testFields : a.testFields = b.testFields
  customFields : a.customFields = b.customFields
  requirementFields : a.requirementFields = b.requirementFields
  requirementCustomFields : a.requirementCustomFields = b.requirementCustomFields
  ignoredMarkers : a.ignoredMarkers = b.ignoredMarkers
  requiredFields : a.requiredFields = b.requiredFields
  script : a.script = b.script
  default? : ∀ field, a.default? field = b.default? field
  isAdjusted : ∀ field, a.isAdjusted field = b.isAdjusted field
  apply : ∀ record, a.apply record = b.apply record
  applyRequirement : ∀ fields, a.applyRequirement fields = b.applyRequirement fields

/-! The fields of requirements keep their order when they are transformed, and each is transformed
by the rule of its own, so it does not matter in which order the rules come. -/

variable {fields : Table Text} {name : Text}

theorem get?_transformField (fields : Table Text) (rule : Text × Transform) (name : Text) :
    (transformField fields rule).get? name
      = if rule.1 = name then (fields.get? name).map rule.2.apply else fields.get? name := by
  rw [transformField]
  by_cases hname : rule.1 = name
  · subst hname
    rw [if_pos rfl]
    split
    · next value hvalue => rw [Table.get?_insert, if_pos rfl, hvalue, Option.map_some]
    · next hvalue => rw [hvalue, Option.map_none]
  · rw [if_neg hname]
    split
    · rw [Table.get?_insert, if_neg hname]
    · rfl

theorem names_transformField (fields : Table Text) (rule : Text × Transform) :
    (transformField fields rule).names = fields.names := by
  rw [transformField]
  split
  · next value hvalue =>
    refine Table.names_insert_of_mem ?_
    by_contra hmem
    rw [Table.get?, Table.lookup_eq_none hmem] at hvalue
    cases hvalue
  · rfl

theorem names_foldl_transformField (rules : List (Text × Transform)) (fields : Table Text) :
    (rules.foldl transformField fields).names = fields.names := by
  induction rules generalizing fields with
  | nil => rfl
  | cons rule rules ih => rw [List.foldl_cons, ih, names_transformField]

theorem get?_foldl_transformField {rules : List (Text × Transform)} (h : (rules.map (·.1)).Nodup)
    (fields : Table Text) (name : Text) :
    (rules.foldl transformField fields).get? name = (fields.get? name).map fun value =>
      ((Table.lookup name rules).map (·.apply value)).getD value := by
  induction rules generalizing fields with
  | nil => simp [Table.lookup]
  | cons rule rules ih =>
    obtain ⟨hrule, hrules⟩ := List.nodup_cons.1 h
    rw [List.foldl_cons, ih hrules, get?_transformField]
    by_cases hname : rule.1 = name
    · subst hname
      -- no later rule is about the same name
      rw [if_pos rfl, Table.lookup_eq_none hrule, Option.map_map, Table.lookup, if_pos rfl]
      rfl
    · rw [if_neg hname, Table.lookup, if_neg hname]

variable {other : Registry}

/-- Registries with the same rules for requirements do the same to every requirement. -/
theorem applyRequirement_congr (hnames : registry.requirementNames = other.requirementNames)
    (hdefaults : ∀ name, registry.requirementDefaults.get? name = other.requirementDefaults.get? name)
    (htransforms : ∀ name,
      registry.requirementTransforms.get? name = other.requirementTransforms.get? name)
    (fields : Table Text) : registry.applyRequirement fields = other.applyRequirement fields := by
  have hfill : registry.fillRequirementField = other.fillRequirementField :=
    funext fun fields => funext fun name => by
      rw [fillRequirementField, hdefaults, fillRequirementField]
  rw [applyRequirement, applyRequirement, hfill, hnames]
  refine Table.ext_get? ?_ fun name => ?_
  · rw [names_foldl_transformField, names_foldl_transformField]
  · have hrule : Table.lookup name registry.requirementTransforms.entries
        = Table.lookup name other.requirementTransforms.entries := htransforms name
    rw [get?_foldl_transformField registry.requirementTransforms.distinct,
      get?_foldl_transformField other.requirementTransforms.distinct, hrule]

/-- Registries that say the same answer the same. -/
theorem alike_of_content? (h : ∀ target, registry.content? target = other.content? target) :
    registry.Alike other := by
  have hnames {a b : Option (List Text)} (hab : a.map Content.names = b.map Content.names) :
      a = b :=
    (Option.map_inj_right fun _ _ => Content.names.inj).1 hab
  have hrules : registry.SameRules other := sameRules_of_content? h
  have hfields : registry.requirementFields = other.requirementFields := hnames (h .requirementFields)
  have hcustom : registry.requirementCustomFields = other.requirementCustomFields :=
    hnames (h .requirementCustomFields)
  exact {
    testFields := hnames (h .testFields)
    customFields := hnames (h .customFields)
    requirementFields := hfields
    requirementCustomFields := hcustom
    ignoredMarkers := hnames (h .ignoredMarkers)
    requiredFields := hnames (h .requiredFields)
    script := hrules.script
    default? := fun field => hrules.defaults (lower field)
    isAdjusted := fun field => by
      rw [isAdjusted, Table.contains, hrules.adjustments, isAdjusted, Table.contains]
    apply := fun record => apply_of_sameRules record hrules
    applyRequirement := fun fields => by
      refine applyRequirement_congr ?_ (fun name => ?_) (fun name => ?_) fields
      · rw [requirementNames, hfields, hcustom, requirementNames]
      · exact (Option.map_inj_right fun _ _ => Content.text.inj).1 (h (.requirementDefault name))
      · exact (Option.map_inj_right fun _ _ => Content.transform.inj).1
          (h (.requirementTransform name)) }

/-! ### Keys of requirements -/

theorem fieldBehind?_append (hfield : field ≠ []) (start : Text) :
    fieldBehind? start (start ++ field ++ "_VALUE") = some field := by
  rw [fieldBehind?, List.append_assoc, dropStart?_append, Option.bind_some, dropEnd?_append]
  simp [hfield]

/-- A key that begins with the word for defaults of requirements is about nothing else. -/
theorem ofKey?_requirementDefault (hfield : field ≠ []) :
    Setting.ofKey? ("DEFAULT_REQUIREMENT_" ++ field ++ "_VALUE")
      = some (.requirementDefault field) := by
  have hnamed : Setting.named.lookup ("DEFAULT_REQUIREMENT_" ++ field ++ "_VALUE".toList) = none :=
    rfl
  rw [Setting.ofKey?, hnamed, Setting.ofConvention?, fieldBehind?_append hfield]
  rfl

theorem ofKey?_requirementTransform (hfield : field ≠ []) :
    Setting.ofKey? ("TRANSFORM_REQUIREMENT_" ++ field ++ "_VALUE")
      = some (.requirementTransform field) := by
  have hnamed : Setting.named.lookup ("TRANSFORM_REQUIREMENT_" ++ field ++ "_VALUE".toList) = none :=
    rfl
  have hdefault :
      fieldBehind? "DEFAULT_REQUIREMENT_" ("TRANSFORM_REQUIREMENT_" ++ field ++ "_VALUE") = none := rfl
  rw [Setting.ofKey?, hnamed, Setting.ofConvention?, hdefault, fieldBehind?_append hfield]
  rfl

/-! ### Single entries -/

/-- A single entry says something about the target of its key and about nothing else. -/
theorem content?_ofSettings_singleton (h : ofSettings [(key, value)] = .ok single)
    (target : Target) : (single.content? target).isSome ↔ keyTarget? key = some target := by
  obtain ⟨declared, hdeclared, rfl⟩ := ofSettings_singleton_eq_ok.1 h
  have hempty : empty.content? target = none := by
    cases target <;> rfl
  rw [← target_of_declarationOf hdeclared]
  cases declared with
  | none =>
    change (empty.content? target).isSome ↔ _
    simp [hempty]
  | some d =>
    change ((empty.declare d).content? target).isSome ↔ _
    rw [content?_declare, hempty]
    by_cases htarget : d.target = target <;> simp [htarget]

/-- A default or a transform of requirements leaves all rules for tests as they are. -/
theorem layer_of_requirementKey (hfield : field ≠ [])
    (hkey : key = "DEFAULT_REQUIREMENT_" ++ field ++ "_VALUE"
      ∨ key = "TRANSFORM_REQUIREMENT_" ++ field ++ "_VALUE")
    (h : ofSettings [(key, value)] = .ok single) (base : Registry) :
    (base.layer single).defaults = base.defaults
      ∧ (base.layer single).adjustments = base.adjustments
      ∧ ∀ record, (base.layer single).apply record = base.apply record := by
  suffices hlayer : ∃ rules transforms, base.layer single
      = { base with requirementDefaults := rules, requirementTransforms := transforms } by
    obtain ⟨rules, transforms, hlayer⟩ := hlayer
    rw [hlayer]
    exact ⟨rfl, rfl, fun record => apply_of_sameRules record ⟨fun _ => .rfl, rfl, rfl, fun _ => rfl,
      fun _ => rfl⟩⟩
  obtain ⟨declared, hdeclared, rfl⟩ := ofSettings_singleton_eq_ok.1 h
  obtain ⟨setting, hsetting, hdeclaration⟩ := declarationOf_eq_ok.1 hdeclared
  rcases hkey with rfl | rfl
  · rw [ofKey?_requirementDefault hfield] at hsetting
    cases hsetting
    simp only [Setting.declaration] at hdeclaration
    cases ht : value.text? <;> rw [ht] at hdeclaration <;> cases hdeclaration
    exact ⟨_, _, layer_declare_empty base (.requirementDefault field _)⟩
  · rw [ofKey?_requirementTransform hfield] at hsetting
    cases hsetting
    simp only [Setting.declaration] at hdeclaration
    cases ht : transformOf value <;> rw [ht] at hdeclaration <;> cases hdeclaration
    exact ⟨_, _, layer_declare_empty base (.requirementTransform field _)⟩

/-! ### Many entries -/

theorem singles_eq {singles : List Registry}
    (h : (entries.map fun entry => ofSettings [entry]) = singles.map .ok) :
    ∃ found : List (Option Declaration), entries.map declarationOf = found.map .ok
      ∧ singles = (found.map Option.toList).map ofDeclarations := by
  induction entries generalizing singles with
  | nil =>
    obtain rfl := List.map_eq_nil_iff.1 h.symm
    exact ⟨[], rfl, rfl⟩
  | cons entry entries ih =>
    cases singles with
    | nil => cases h
    | cons single singles =>
      obtain ⟨hentry, hentries⟩ := List.cons.inj h
      obtain ⟨found, hfound, rfl⟩ := ih hentries
      obtain ⟨declared, hdeclared, rfl⟩ := ofSettings_singleton_eq_ok.1 hentry
      exact ⟨declared :: found, by rw [List.map_cons, hdeclared, hfound, List.map_cons], rfl⟩

/-- The registries of the entries say the same as that of all of them, laid over each other in any
order, if no two keys are about the same thing. -/
theorem alike_layers {singles : List Registry} (h : ofSettings entries = .ok registry)
    (hn : (entries.filterMap (keyTarget? ·.1)).Nodup) (hperm : order.Perm entries)
    (hsingles : (order.map fun entry => ofSettings [entry]) = singles.map .ok) :
    registry.Alike (layers singles) := by
  obtain ⟨found, hfound, rfl⟩ := ofSettings_eq_ok.1 h
  obtain ⟨found', hfound', rfl⟩ := singles_eq hsingles
  have hdeclared : found.Perm found' := by
    rw [← List.map_perm_map_iff (f := Except.ok (ε := ConfigurationProblem)) fun _ _ => Except.ok.inj,
      ← hfound, ← hfound']
    exact (hperm.map _).symm
  rw [← map_target_declared hfound] at hn
  have hflatten : (found'.map Option.toList).flatten = found'.filterMap id := by
    rw [List.filterMap_eq_flatMap_toList, List.flatMap]
    rfl
  rw [layers_map_ofDeclarations, hflatten]
  exact alike_of_content? (content?_declareAll_perm (hdeclared.filterMap id) hn fun _ => rfl)

/-- A configuration is accepted when each of its entries is, and otherwise refused for the first one
in the order of the keys that is not. What it says is what its entries say one by one, laid over
each other in any order. An entry says one thing, and what it says of requirements has nothing to do
with tests. -/
theorem ofToml_union {text : Text} (h : Toml.parse text = some entries) :
    (entries.Pairwise fun a b => ¬ b.1 < a.1)
      ∧ ((∃ registry, ofToml text = .ok registry) ↔ ∀ entry ∈ entries, AcceptsAlone entry)
      ∧ (∀ problem, ofToml text = .error problem ↔ ∃ front entry back,
        entries = front ++ entry :: back ∧ (∀ e ∈ front, AcceptsAlone e)
          ∧ ofSettings [entry] = .error problem)
      ∧ (∀ registry (order : List (Text × Value)) (singles : List Registry),
        ofToml text = .ok registry → (entries.filterMap (keyTarget? ·.1)).Nodup →
        order.Perm entries → (order.map fun entry => ofSettings [entry]) = singles.map .ok →
        registry.Alike (layers singles))
      ∧ (∀ key value single, ofSettings [(key, value)] = .ok single →
        (∀ target, (single.content? target).isSome ↔ keyTarget? key = some target)
          ∧ ∀ (base : Registry) target, (base.layer single).content? target
            = (single.content? target).or (base.content? target))
      ∧ ∀ (key field : Text) value single, ofSettings [(key, value)] = .ok single → field ≠ [] →
        (key = "DEFAULT_REQUIREMENT_" ++ field ++ "_VALUE"
          ∨ key = "TRANSFORM_REQUIREMENT_" ++ field ++ "_VALUE") →
        ∀ base : Registry, (base.layer single).defaults = base.defaults
          ∧ (base.layer single).adjustments = base.adjustments
          ∧ ∀ record, (base.layer single).apply record = base.apply record := by
  have htoml : ofToml text = ofSettings entries := by rw [ofToml, h]
  rw [htoml]
  refine ⟨pairwise_parse h, ?_, fun problem => ?_, fun registry order singles => alike_layers,
    fun key value single hsingle => ?_, fun key field value single hsingle hfield hkey => ?_⟩
  · rw [exists_ofSettings_eq_ok, exists_mapM_eq_ok]
    simp only [acceptsAlone_iff]
  · rw [ofSettings_eq_error, mapM_eq_error_iff]
    simp only [acceptsAlone_iff, ofSettings_singleton_eq_error]
  · exact ⟨content?_ofSettings_singleton hsingle, fun base => content?_layer base single⟩
  · exact layer_of_requirementKey hfield hkey hsingle

/-- Three settings, two of them about fields of one name. -/
def levelSettings : Text :=
  "REQUIRED_FIELDS = []\nTRANSFORM_LEVEL_VALUE = \x7bupper = []\x7d\n"
    ++ "TRANSFORM_REQUIREMENT_LEVEL_VALUE = \x7blower = []\x7d\n"

/-- The keys stand in order already. -/
theorem parse_levelSettings : ∃ entries, Toml.parse levelSettings = some entries
    ∧ entries.map (·.1) = ["REQUIRED_FIELDS".toList, "TRANSFORM_LEVEL_VALUE".toList,
      "TRANSFORM_REQUIREMENT_LEVEL_VALUE".toList] ∧ (ofSettings entries).isOk = true := by
  have hread : (readLines levelSettings).map (fun read =>
      ((entriesToValues read.1).map (·.1), (ofSettings (entriesToValues read.1)).isOk))
        = some (["REQUIRED_FIELDS".toList, "TRANSFORM_LEVEL_VALUE".toList,
          "TRANSFORM_REQUIREMENT_LEVEL_VALUE".toList], true) := by
    decide +kernel
  obtain ⟨⟨found, rest⟩, hread, hentries⟩ := Option.map_eq_some_iff.1 hread
  obtain ⟨hkeys, haccepted⟩ := Prod.mk.inj hentries
  refine ⟨entriesToValues found, ?_, hkeys, haccepted⟩
  have hsorted : (entriesToValues found).Pairwise fun a b => precedes a b := by
    simp only [precedes_iff]
    rw [← List.pairwise_map (f := Prod.fst) (R := fun a b => ¬ b < a), hkeys]
    decide +kernel
  rw [parse_of_readLines (by decide +kernel) hread, List.mergeSort_of_pairwise hsorted]

theorem ofToml_union_levels : ∃ entries registry singles, Toml.parse levelSettings = some entries
    ∧ entries.map (·.1) = ["REQUIRED_FIELDS".toList, "TRANSFORM_LEVEL_VALUE".toList,
      "TRANSFORM_REQUIREMENT_LEVEL_VALUE".toList]
    ∧ ofToml levelSettings = .ok registry ∧ (entries.filterMap (keyTarget? ·.1)).Nodup
    ∧ (entries.reverse.map fun entry => ofSettings [entry]) = singles.map .ok
    ∧ registry.Alike (layers singles) := by
  obtain ⟨entries, hparse, hkeys, haccepted⟩ := parse_levelSettings
  obtain ⟨-, haccepts, -, hunion, -⟩ := ofToml_union hparse
  have htoml : ofToml levelSettings = ofSettings entries := by rw [ofToml, hparse]
  cases hregistry : ofSettings entries with
  | error problem =>
    rw [hregistry] at haccepted
    cases haccepted
  | ok registry =>
    rw [← htoml] at hregistry
    have htargets : entries.filterMap (keyTarget? ·.1) = (entries.map (·.1)).filterMap keyTarget? := by
      rw [List.filterMap_map]
      rfl
    have hn : (entries.filterMap (keyTarget? ·.1)).Nodup := by
      rw [htargets, hkeys]
      decide +kernel
    obtain ⟨singles, hsingles⟩ := exists_mapM_eq_ok.2 fun entry hmem =>
      haccepts.1 ⟨registry, hregistry⟩ entry (List.mem_reverse.1 hmem)
    have hall := mapM_eq_ok_iff.1 hsingles
    exact ⟨entries, registry, singles, hparse, hkeys, hregistry, hn, hall,
      hunion registry entries.reverse singles hregistry hn entries.reverse_perm hall⟩

end Registry

end Testbook
