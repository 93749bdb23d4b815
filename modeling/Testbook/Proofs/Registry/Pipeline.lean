import Testbook.Collection.Collect
import Testbook.Proofs.Record.Resolve
import Testbook.Proofs.Registry.Declared

/-!
From scopes to the fields of a test. A field is what the innermost scope says of it, or else its
default value, and is then adjusted. Defaults are found on the test as the scopes left it and
adjustments made on the test with all defaults, so neither loop sees its own work: the value of a
field after each loop is given in closed form (`get?_fill`, `get?_apply`), and these forms ask of a
registry only which rules it has, not in which order (`apply_of_sameRules`).
-/

namespace Testbook.Registry

open Testbook.Text

variable (registry : Registry) (record : Record)

/-! ### Defaults -/

/-- The default value of a field, if tests have the field. -/
def ownDefault? (name : Text) : Option Text :=
  if name ∈ registry.testNames then registry.defaultValue? record name else none

/-- The test with all default values. -/
def filled : Record := { record with fields := registry.fill record }

/-- One step fills in one field, if it is absent. -/
theorem get?_fillField (fields : Fields) (name other : Text) :
    (registry.fillField record fields name).get? other = (fields.get? other).or
      (if name = other then registry.defaultValue? record other else none) := by
  by_cases hname : name = other
  · subst hname
    rw [if_pos rfl, fillField]
    cases hvalue : fields.get? name with
    | some value =>
      rw [Fields.contains, hvalue, Option.isSome_some, if_pos rfl, hvalue, Option.some_or]
    | none =>
      rw [Fields.contains, hvalue, Option.isSome_none, if_neg Bool.false_ne_true, Option.none_or]
      cases registry.defaultValue? record name with
      | some value => rw [Fields.get?_insert, if_pos rfl]
      | none => exact hvalue
  · rw [if_neg hname, Option.or_none, fillField]
    split
    · rfl
    · split
      · rw [Fields.get?_insert, if_neg hname]
      · rfl

/-- A field that comes twice is filled in once. -/
theorem get?_foldl_fillField (names : List Text) (fields : Fields) (name : Text) :
    (names.foldl (registry.fillField record) fields).get? name = (fields.get? name).or
      (if name ∈ names then registry.defaultValue? record name else none) := by
  induction names generalizing fields with
  | nil => simp
  | cons first names ih =>
    rw [List.foldl_cons, ih, get?_fillField, Option.or_assoc]
    by_cases hfirst : first = name
    · subst hfirst
      -- if the name comes again it finds the value that is there already
      rw [if_pos rfl, if_pos List.mem_cons_self]
      split
      · rw [Option.or_self]
      · rw [Option.or_none]
    · rw [if_neg hfirst, Option.none_or]
      simp only [List.mem_cons, Ne.symm hfirst, false_or]

/-- A field keeps its value if it has one, and has its default value otherwise. -/
theorem get?_fill (name : Text) : (registry.fill record).get? name
    = (record.fields.get? name).or (registry.ownDefault? record name) :=
  get?_foldl_fillField registry record registry.testNames record.fields name

/-! ### Adjustments -/

/-- A value of a field after the adjustment of the field, if it has one. -/
def adjusted (name value : Text) : Text :=
  match registry.adjustments.get? name with
  | some adjustment => adjustment value record
  | none => value

theorem get?_adjustField (fields : Fields) (rule : Text × Adjustment) (name : Text) :
    (adjustField record fields rule).get? name
      = if rule.1 = name then (fields.get? name).map (rule.2 · record) else fields.get? name := by
  rw [adjustField]
  by_cases hname : rule.1 = name
  · subst hname
    rw [if_pos rfl]
    split
    · next value hvalue => rw [Fields.get?_insert, if_pos rfl, hvalue, Option.map_some]
    · next hvalue => rw [hvalue, Option.map_none]
  · rw [if_neg hname]
    split
    · rw [Fields.get?_insert, if_neg hname]
    · rfl

/-- No field is adjusted twice, since the fields with adjustments are distinct. -/
theorem get?_foldl_adjustField {rules : List (Text × Adjustment)} (h : (rules.map (·.1)).Nodup)
    (fields : Fields) (name : Text) :
    (rules.foldl (adjustField record) fields).get? name = (fields.get? name).map fun value =>
      match Table.lookup name rules with
      | some adjustment => adjustment value record
      | none => value := by
  induction rules generalizing fields with
  | nil => simp [Table.lookup]
  | cons rule rules ih =>
    obtain ⟨hrule, hrules⟩ := List.nodup_cons.1 h
    rw [List.foldl_cons, ih hrules, get?_adjustField]
    by_cases hname : rule.1 = name
    · subst hname
      -- no later rule is about the same name
      rw [if_pos rfl, Table.lookup_eq_none hrule, Option.map_map, Table.lookup, if_pos rfl]
      rfl
    · rw [if_neg hname, Table.lookup, if_neg hname]

/-- A field has its adjusted value. -/
theorem get?_apply (name : Text) : (registry.apply record).fields.get? name
    = ((registry.fill record).get? name).map (registry.adjusted (registry.filled record) name) :=
  get?_foldl_adjustField (registry.filled record) registry.adjustments.distinct
    (registry.fill record) name

/-! ### The order of rules -/

/-- Two registries have the same rules for tests, in whatever order. -/
structure SameRules (a b : Registry) : Prop where
  names : ∀ name, name ∈ a.testNames ↔ name ∈ b.testNames
  ignored : a.ignored = b.ignored
  script : a.script = b.script
  defaults : ∀ name, a.defaults.get? name = b.defaults.get? name
  adjustments : ∀ name, a.adjustments.get? name = b.adjustments.get? name

variable {registry} {other : Registry}

theorem ownDefault?_of_sameRules (h : registry.SameRules other) (name : Text) :
    registry.ownDefault? record name = other.ownDefault? record name := by
  simp only [ownDefault?, defaultValue?, h.names, h.defaults, h.script]

theorem filled_of_sameRules (h : registry.SameRules other) :
    registry.filled record = other.filled record := by
  have hfill : registry.fill record = other.fill record := Fields.ext_get? fun name => by
    rw [get?_fill, get?_fill, ownDefault?_of_sameRules record h]
  rw [filled, filled, hfill]

/-- Registries with the same rules do the same to every test. -/
theorem apply_of_sameRules (h : registry.SameRules other) :
    registry.apply record = other.apply record := by
  have hfilled := filled_of_sameRules record h
  have hadjust : (registry.apply record).fields = (other.apply record).fields :=
    Fields.ext_get? fun name => by
      have hfill : registry.fill record = other.fill record := congrArg Record.fields hfilled
      have hadjusted : registry.adjusted (other.filled record) name
          = other.adjusted (other.filled record) name := funext fun value => by
        rw [adjusted, h.adjustments, adjusted]
      rw [get?_apply, get?_apply, hfilled, hfill, hadjusted]
  have happly (r : Registry) : r.apply record = { record with fields := (r.apply record).fields } :=
    rfl
  rw [happly registry, happly other, hadjust]

/-- What registries say decides which rules they have. -/
theorem sameRules_of_content? (h : ∀ target, registry.content? target = other.content? target) :
    registry.SameRules other := by
  have hnames {a b : Option (List Text)} (hab : a.map Content.names = b.map Content.names) :
      a = b :=
    (Option.map_inj_right fun _ _ => Content.names.inj).1 hab
  have htest : registry.testFields = other.testFields := hnames (h .testFields)
  have hcustom : registry.customFields = other.customFields := hnames (h .customFields)
  have hignored : registry.ignoredMarkers = other.ignoredMarkers := hnames (h .ignoredMarkers)
  have hscript : registry.scriptFormat = other.scriptFormat :=
    (Option.map_inj_right fun _ _ => Content.text.inj).1 (h .scriptFormat)
  exact {
    names := fun name => by rw [testNames, htest, hcustom, testNames]
    ignored := by rw [ignored, hignored, ignored]
    script := by rw [script, hscript, script]
    defaults := fun name =>
      (Option.map_inj_right fun _ _ => Content.source.inj).1 (h (.default name))
    adjustments := fun name =>
      (Option.map_inj_right fun _ _ => Content.adjustment.inj).1 (h (.adjustment name)) }

/-- Declarations about different targets make registries with the same rules in any order. -/
theorem sameRules_of_perm {ds ds' : List Declaration} (h : ds.Perm ds')
    (hn : (ds.map Declaration.target).Nodup) : (ofDeclarations ds).SameRules (ofDeclarations ds') :=
  sameRules_of_content? (content?_declareAll_perm h hn fun _ => rfl)

theorem bareRecord_of_sameRules (h : registry.SameRules other) (base : Option Path)
    (source : Source) (test : Found) :
    source.bareRecord registry base test = source.bareRecord other base test := by
  rw [Source.bareRecord, h.ignored, Source.bareRecord]

/-- They make the same records of a module. -/
theorem records_of_sameRules (h : registry.SameRules other) (base : Option Path) (source : Source) :
    source.records registry base = source.records other base := by
  rw [Source.records, Source.records]
  refine List.map_congr_left fun test _ => ?_
  rw [bareRecord_of_sameRules h, apply_of_sameRules _ h]

/-! ### Both together -/

/-- The fields of a test in nested scopes, apart from the list of markers: what the innermost scope
says, or else the default value on the test as it was before, adjusted on the test with all
defaults. The order of the rules and of the declarations that made them does not matter. -/
theorem get?_apply_resolved {scopes : List Scope}
    (h : record.fields = (resolve scopes registry.ignored).fields) :
    (∀ name, name ≠ markersField → (registry.apply record).fields.get? name
        = ((declared? scopes name).or (registry.ownDefault? record name)).map
            (registry.adjusted (registry.filled record) name))
      ∧ (∀ name, (registry.filled record).fields.get? name
        = (record.fields.get? name).or (registry.ownDefault? record name))
      ∧ (∀ other, registry.SameRules other → registry.apply record = other.apply record
        ∧ ∀ base source, Source.records registry base source = Source.records other base source)
      ∧ ∀ ds ds' : List Declaration, ds.Perm ds' → (ds.map Declaration.target).Nodup →
        (ofDeclarations ds).SameRules (ofDeclarations ds') := by
  refine ⟨fun name hname => ?_, get?_fill registry record, fun other hother => ?_, fun ds ds' => ?_⟩
  · rw [get?_apply, get?_fill, h, get?_resolve scopes registry.ignored hname]
  · exact ⟨apply_of_sameRules record hother, records_of_sameRules hother⟩
  · exact sameRules_of_perm

/-- The documentation of a test leaves its tags empty, where the module has some. The default of the
summary sees the test without the default level, and the adjustment of the tags sees the summary. -/
theorem get?_apply_resolved_tags :
    let ds : List Declaration := [.customFields ["summary", "level", "tags", "summary"],
      .default "level" (.constant "high"), .default "tags" (.constant "none"),
      .default "summary" (.computed fun r => some ((r.field? "level").getD "unknown")),
      .adjustment "tags" fun value r => value ++ (r.field? "summary").getD []]
    let source : Source := ⟨"test_a.py", ⟨some ":tags: slow".toList, [], []⟩, none⟩
    let test : Found := ⟨none, "test_x", 3, some ":tags:".toList, [], false⟩
    let record := source.bareRecord (ofDeclarations ds) none test
    record.fields.get? "tags" = some []
      ∧ ((ofDeclarations ds).apply record).fields.get? "tags" = some "unknown".toList
      ∧ ((ofDeclarations ds).apply record).fields.get? "level" = some "high".toList
      ∧ (ofDeclarations ds).apply record = (ofDeclarations ds.reverse).apply record := by
  intro ds source test record
  have hfields :
      record.fields = (resolve (source.scopes test) (ofDeclarations ds).ignored).fields := rfl
  obtain ⟨hget, -, hrules, hperm⟩ := get?_apply_resolved record hfields
  have hsame := hperm ds ds.reverse ds.reverse_perm.symm (by decide)
  rw [hget _ (by decide), hget _ (by decide)]
  refine ⟨?_, ?_, ?_, (hrules _ hsame).1⟩
  · decide +kernel
  · decide +kernel
  · decide +kernel

end Testbook.Registry
