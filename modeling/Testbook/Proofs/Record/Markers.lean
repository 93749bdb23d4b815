import Testbook.Proofs.Record.Resolve
import Testbook.Proofs.Text.Pieces
import Testbook.Proofs.Text.Words
import Mathlib

/-!
The markers of a test in nested scopes. They are the markers that the scopes name, from the outside
in, without those to be ignored, each where it is named first (`markers_resolve`). The invariant is
`Markers.IsAfter`: one more marker that is named keeps it, and so do all that a scope names. The
field that lists markers says the same, unless nothing is left of what is documented
(`markersOf_resolve_iff`).
-/

namespace Testbook

open Testbook.Text

/-- The markers that fields list. -/
def markersOf (fields : Fields) : List Text := (fields.get? markersField).elim [] listedMarkers

/-- The markers that a scope names: what its annotations name comes before what its documentation
lists. -/
def Scope.named (scope : Scope) : List Text :=
  scope.annotations.filterMap markerName? ++ markersOf (documented? scope.doc)

/-- Of the markers that were named, those that are not ignored, each where it was named first. -/
def taken (ignored named : List Text) : List Text :=
  (named.filter (!ignored.contains ·)).eraseDups

variable {ignored named : List Text}

/-! ### What is taken -/

theorem mem_taken {name : Text} : name ∈ taken ignored named ↔ name ∈ named ∧ name ∉ ignored := by
  rw [taken, List.mem_eraseDups, List.mem_filter]
  simp

theorem eraseDups_concat (names : List Text) (name : Text) :
    (names ++ [name]).eraseDups
      = if name ∈ names then names.eraseDups else names.eraseDups ++ [name] := by
  rw [List.eraseDups_append, List.cons_removeAll, List.nil_removeAll]
  by_cases h : name ∈ names
  · rw [if_neg (by simp [h]), if_pos h, List.eraseDups_nil, List.append_nil]
  · rw [if_pos (by simp [h]), if_neg h]
    rfl

/-- One more name is taken at the end, unless it is ignored or was taken before. -/
theorem taken_concat (ignored named : List Text) (name : Text) :
    taken ignored (named ++ [name])
      = if name ∈ ignored ∨ name ∈ taken ignored named then taken ignored named
        else taken ignored named ++ [name] := by
  by_cases hig : name ∈ ignored
  · have hfilter : [name].filter (!ignored.contains ·) = [] := by simp [hig]
    rw [if_pos (.inl hig), taken, List.filter_append, hfilter, List.append_nil, taken]
  · have hfilter : [name].filter (!ignored.contains ·) = [name] := by simp [hig]
    have hmem : name ∈ named.filter (!ignored.contains ·)
        ↔ name ∈ ignored ∨ name ∈ taken ignored named := by
      rw [taken, List.mem_eraseDups]
      exact ⟨.inr, fun h => h.resolve_left hig⟩
    rw [taken, List.filter_append, hfilter, eraseDups_concat]
    simp only [hmem]
    rfl

/-- What is named later takes no place of what was named before. -/
theorem taken_prefix (ignored a b : List Text) : taken ignored a <+: taken ignored (a ++ b) := by
  rw [taken, taken, List.filter_append, List.eraseDups_append]
  exact List.prefix_append _ _

theorem nodup_eraseDups (names : List Text) : names.eraseDups.Nodup := by
  cases names with
  | nil => exact List.nodup_nil
  | cons name names =>
    rw [List.eraseDups_cons, List.nodup_cons, List.mem_eraseDups, List.mem_filter]
    exact ⟨by simp, nodup_eraseDups _⟩
termination_by names.length
decreasing_by exact Nat.lt_succ_of_le (List.length_filter_le ..)

/-! ### Gathering -/

/-- What a set of markers holds after markers were named, one after the other. -/
structure Markers.IsAfter (markers : Markers) (ignored named : List Text) : Prop where
  ignored_eq : markers.ignored = ignored
  names_eq : markers.names = taken ignored named

namespace Markers.IsAfter

variable {markers : Markers}

theorem start (ignored : List Text) : IsAfter { ignored := ignored } ignored [] := ⟨rfl, rfl⟩

theorem add (h : markers.IsAfter ignored named) (name : Text) :
    (markers.add name).IsAfter ignored (named ++ [name]) := by
  have hcond : (markers.ignored.contains name || markers.names.contains name) = true
      ↔ name ∈ ignored ∨ name ∈ taken ignored named := by
    rw [h.ignored_eq, h.names_eq]
    simp
  rw [Markers.add]
  by_cases hc : name ∈ ignored ∨ name ∈ taken ignored named
  · rw [if_pos (hcond.2 hc)]
    refine ⟨h.ignored_eq, ?_⟩
    rw [taken_concat, if_pos hc, h.names_eq]
  · rw [if_neg (mt hcond.1 hc)]
    refine ⟨h.ignored_eq, ?_⟩
    rw [taken_concat, if_neg hc, h.names_eq]

theorem addAll (h : markers.IsAfter ignored named) (names : List Text) :
    (markers.addAll names).IsAfter ignored (named ++ names) := by
  induction names generalizing markers named with
  | nil => rwa [List.append_nil]
  | cons name names ih =>
    have hrest := ih (h.add name)
    rwa [List.append_assoc] at hrest

theorem mark (h : markers.IsAfter ignored named) (scope : Scope) :
    (scope.mark markers).IsAfter ignored (named ++ scope.named) := by
  have hnamed := h.addAll (scope.annotations.filterMap markerName?)
  rw [Scope.mark, Scope.named, markersOf, ← List.append_assoc]
  cases (documented? scope.doc).get? markersField with
  | none => rwa [Option.elim_none, List.append_nil]
  | some listed => exact hnamed.addAll (listedMarkers listed)

theorem foldl_mark (h : markers.IsAfter ignored named) (scopes : List Scope) :
    (scopes.foldl Scope.mark markers).IsAfter ignored (named ++ scopes.flatMap Scope.named) := by
  induction scopes generalizing markers named with
  | nil => rwa [List.flatMap_nil, List.append_nil]
  | cons scope scopes ih =>
    have hrest := ih (h.mark scope)
    rwa [List.append_assoc, ← List.flatMap_cons] at hrest

end Markers.IsAfter

/-! ### Names of markers -/

/-- A name that can stand in a list with commas: it is not empty, and holds neither a comma nor a
blank at one of its ends. -/
structure IsListable (name : Text) : Prop where
  ne_nil : name ≠ []
  noComma : ',' ∉ name
  trimmed : trim name = name

instance (name : Text) : Decidable (IsListable name) :=
  decidable_of_iff (name ≠ [] ∧ ',' ∉ name ∧ trim name = name)
    ⟨fun ⟨hne, hcomma, htrim⟩ => ⟨hne, hcomma, htrim⟩, fun h => ⟨h.ne_nil, h.noComma, h.trimmed⟩⟩

/-- A word is such a name. -/
theorem IsListable.of_word {name : Text} (hne : name ≠ []) (h : ∀ c ∈ name, isWordChar c = true) :
    IsListable name := by
  refine ⟨hne, fun hcomma => absurd (h ',' hcomma) (by decide), trim_of_ends ?_ ?_⟩
  · cases hhead : name.head? with
    | none => rfl
    | some c =>
      have hc := isBlank_of_isWordChar (h c (List.mem_of_head? hhead))
      simp [hc]
  · cases hlast : name.getLast? with
    | none => rfl
    | some c =>
      have hc := isBlank_of_isWordChar (h c (List.mem_of_getLast? hlast))
      simp [hc]

theorem isWordChar_of_isMarkerStart {c : Char} (h : isMarkerStart c = true) :
    isWordChar c = true := by
  rw [isMarkerStart, Bool.or_eq_true, decide_eq_true_eq] at h
  rcases h with h | rfl
  · rw [isWordChar, if_pos (toNat_lt_of_isAlpha h), Char.isAlphanum, h]
    rfl
  · rfl

/-- The marker of an annotation is a word. -/
theorem isListable_markerName? {source name : Text} (h : markerName? source = some name) :
    IsListable name := by
  simp only [markerName?] at h
  split at h
  · next c cs hd =>
    split at h
    · next hstart =>
      obtain rfl := Option.some.inj h
      refine .of_word (List.cons_ne_nil _ _) ?_
      rw [List.forall_mem_cons]
      exact ⟨isWordChar_of_isMarkerStart hstart, List.all_eq_true.1 List.all_takeWhile⟩
    · simp at h
  · simp at h

theorem isListable_of_mem_listedMarkers {value name : Text} (h : name ∈ listedMarkers value) :
    IsListable name := by
  obtain ⟨htrimmed, hne⟩ := List.mem_filter.1 h
  obtain ⟨piece, hpiece, rfl⟩ := List.mem_map.1 htrimmed
  have hcomma := not_mem_of_mem_splitOn hpiece
  exact ⟨by simpa using hne, fun hmem => hcomma ((sublist_trim piece).subset hmem), trim_trim piece⟩

theorem isListable_of_mem_markersOf {fields : Fields} {name : Text} (h : name ∈ markersOf fields) :
    IsListable name := by
  rw [markersOf] at h
  cases hvalue : fields.get? markersField with
  | none => simp [hvalue] at h
  | some value =>
    rw [hvalue] at h
    exact isListable_of_mem_listedMarkers h

theorem isListable_of_mem_named {scope : Scope} {name : Text} (h : name ∈ scope.named) :
    IsListable name := by
  rcases List.mem_append.1 h with h | h
  · obtain ⟨source, -, hname⟩ := List.mem_filterMap.1 h
    exact isListable_markerName? hname
  · exact isListable_of_mem_markersOf h

/-- Names that can stand in a list are read back from the list. -/
theorem listedMarkers_join {names : List Text} (h : ∀ name ∈ names, IsListable name) :
    listedMarkers (join ", " names) = names := by
  cases names with
  | nil => rfl
  | cons name names =>
    have hgap : ',' ∉ [' '] := by decide
    have hcut := splitOn_join_append hgap fun n hn => (h n hn).noComma
    have htrim : ((name :: names.map ([' '] ++ ·)).map trim) = name :: names := by
      obtain ⟨hname, hnames⟩ := List.forall_mem_cons.1 h
      rw [List.map_cons, List.map_map, hname.trimmed]
      congr 1
      refine (List.map_congr_left fun n hn => ?_).trans (List.map_id names)
      exact (trim_cons_of_blank rfl n).trans (hnames n hn).trimmed
    have hjoin : join ", " (name :: names) = join (',' :: [' ']) (name :: names) := rfl
    rw [listedMarkers, hjoin, hcut, htrim, List.filter_eq_self]
    intro n hn
    simpa using (h n hn).ne_nil

/-! ### Markers of nested scopes -/

theorem isAfter_resolve (scopes : List Scope) (ignored : List Text) :
    (scopes.foldl Scope.mark { ignored := ignored }).IsAfter ignored
      (scopes.flatMap Scope.named) :=
  (Markers.IsAfter.start ignored).foldl_mark scopes

theorem markers_resolve (scopes : List Scope) (ignored : List Text) :
    (resolve scopes ignored).markers = taken ignored (scopes.flatMap Scope.named) := by
  rw [← (isAfter_resolve scopes ignored).names_eq, resolve]
  split <;> rfl

theorem mem_markers_resolve {scopes : List Scope} {name : Text} :
    name ∈ (resolve scopes ignored).markers
      ↔ (∃ scope ∈ scopes, name ∈ scope.named) ∧ name ∉ ignored := by
  rw [markers_resolve, mem_taken, List.mem_flatMap]

theorem isListable_of_mem_markers {scopes : List Scope} {name : Text}
    (h : name ∈ (resolve scopes ignored).markers) : IsListable name := by
  obtain ⟨⟨scope, -, hnamed⟩, -⟩ := mem_markers_resolve.1 h
  exact isListable_of_mem_named hnamed

/-- The markers of nested scopes are those that the scopes name, from the outside in, without the
ignored ones, and each where it is named first. So none is there twice, each is a proper name, and
an inner scope only adds markers behind those of the outer ones. -/
theorem markers_resolve_union (scopes : List Scope) (ignored : List Text) :
    (resolve scopes ignored).markers = taken ignored (scopes.flatMap Scope.named)
      ∧ (resolve scopes ignored).markers.Nodup
      ∧ (∀ name ∈ (resolve scopes ignored).markers, name ∉ ignored ∧ IsListable name)
      ∧ ∀ inner, (resolve scopes ignored).markers
          <+: (resolve (scopes ++ inner) ignored).markers := by
  refine ⟨markers_resolve scopes ignored, ?_, ?_, ?_⟩
  · rw [markers_resolve, taken]
    exact nodup_eraseDups _
  · intro name hname
    exact ⟨(mem_markers_resolve.1 hname).2, isListable_of_mem_markers hname⟩
  · intro inner
    rw [markers_resolve, markers_resolve, List.flatMap_append]
    exact taken_prefix ..

/-- A package, a module and a test that name markers in both ways, one of them to be ignored. -/
theorem markers_resolve_union_three :
    (resolve [⟨.package, some ":markers: slow", []⟩,
        ⟨.module, some ":markers: e2e, slow", ["pytest.mark.tier1"]⟩,
        ⟨.function, some ":markers: usefixtures, smoke", []⟩] ["usefixtures"]).markers
      = ["slow".toList, "tier1".toList, "e2e".toList, "smoke".toList]
      ∧ ["slow".toList, "tier1".toList, "e2e".toList, "smoke".toList].Nodup
      ∧ "smoke".toList ∉ ["usefixtures".toList] ∧ IsListable "smoke"
      ∧ (resolve [⟨.package, some ":markers: slow", []⟩] ["usefixtures"]).markers
        <+: ["slow".toList, "tier1".toList, "e2e".toList, "smoke".toList] := by
  obtain ⟨hunion, hnodup, hnames, -⟩ := markers_resolve_union
    [⟨.package, some ":markers: slow", []⟩,
      ⟨.module, some ":markers: e2e, slow", ["pytest.mark.tier1"]⟩,
      ⟨.function, some ":markers: usefixtures, smoke", []⟩] ["usefixtures"]
  obtain ⟨-, -, -, hinner⟩ := markers_resolve_union [⟨.package, some ":markers: slow", []⟩]
    ["usefixtures"]
  have hprefix := hinner [⟨.module, some ":markers: e2e, slow", ["pytest.mark.tier1"]⟩,
    ⟨.function, some ":markers: usefixtures, smoke", []⟩]
  have htaken : taken ["usefixtures"] ([⟨.package, some ":markers: slow", []⟩,
        ⟨.module, some ":markers: e2e, slow", ["pytest.mark.tier1"]⟩,
        ⟨.function, some ":markers: usefixtures, smoke", []⟩].flatMap Scope.named)
      = ["slow".toList, "tier1".toList, "e2e".toList, "smoke".toList] := by
    decide +kernel
  rw [List.cons_append, List.nil_append, hunion, htaken] at hprefix
  rw [hunion, htaken] at hnodup hnames
  exact ⟨hunion.trans htaken, hnodup, (hnames _ (by simp)).1, (hnames _ (by simp)).2, hprefix⟩

/-! ### The field that lists markers -/

/-- The field holds the markers, with commas between. When there are none it is left as the
innermost scope that has it documents it. -/
theorem get?_resolve_markersField (scopes : List Scope) (ignored : List Text) :
    (resolve scopes ignored).fields.get? markersField
      = if (resolve scopes ignored).markers = [] then declared? scopes markersField
        else some (join ", " (resolve scopes ignored).markers) := by
  have hfields := get?_foldl_override scopes .empty markersField
  rw [Fields.get?_empty, Option.or_none] at hfields
  rw [resolve]
  generalize scopes.foldl Scope.mark { ignored := ignored } = markers
  cases hnames : markers.names with
  | nil =>
    have hvalue : markers.value? = none := by simp [Markers.value?, hnames]
    simp only [hvalue, if_true]
    exact hfields
  | cons name names =>
    have hvalue : markers.value? = some (join ", " (name :: names)) := by
      simp [Markers.value?, hnames]
    simp only [hvalue, Fields.get?_insert, if_true, List.cons_ne_nil, if_false]

theorem markers_resolve_eq_nil_iff (scopes : List Scope) (ignored : List Text) :
    (resolve scopes ignored).markers = []
      ↔ ∀ scope ∈ scopes, ∀ name ∈ scope.named, name ∈ ignored := by
  rw [List.eq_nil_iff_forall_not_mem]
  constructor
  · intro h scope hscope name hname
    by_contra hig
    exact h name (mem_markers_resolve.2 ⟨⟨scope, hscope, hname⟩, hig⟩)
  · intro h name hname
    obtain ⟨⟨scope, hscope, hnamed⟩, hig⟩ := mem_markers_resolve.1 hname
    exact hig (h scope hscope name hnamed)

/-- What the field lists: the markers, or when there are none what is documented innermost. -/
theorem markersOf_resolve (scopes : List Scope) (ignored : List Text) :
    markersOf (resolve scopes ignored).fields
      = if (resolve scopes ignored).markers = []
        then (declared? scopes markersField).elim [] listedMarkers
        else (resolve scopes ignored).markers := by
  rw [markersOf, get?_resolve_markersField]
  split
  · rfl
  · exact listedMarkers_join fun name hname => isListable_of_mem_markers hname

/-- The field and the markers agree just when some scope names a marker that is not ignored, or
when what is documented innermost lists none at all. Otherwise the field still lists ignored
markers, and there are no others. -/
theorem markersOf_resolve_iff (scopes : List Scope) (ignored : List Text) :
    (resolve scopes ignored).fields.get? markersField
        = (if (resolve scopes ignored).markers = [] then declared? scopes markersField
          else some (join ", " (resolve scopes ignored).markers))
      ∧ (markersOf (resolve scopes ignored).fields = (resolve scopes ignored).markers
        ↔ (∃ scope ∈ scopes, ∃ name ∈ scope.named, name ∉ ignored)
          ∨ (declared? scopes markersField).elim [] listedMarkers = []) := by
  refine ⟨get?_resolve_markersField scopes ignored, ?_⟩
  rw [markersOf_resolve]
  by_cases hnil : (resolve scopes ignored).markers = []
  · have hall := (markers_resolve_eq_nil_iff scopes ignored).1 hnil
    rw [if_pos hnil, hnil]
    constructor
    · exact .inr
    · rintro (⟨scope, hscope, name, hname, hig⟩ | h)
      · exact absurd (hall scope hscope name hname) hig
      · exact h
  · rw [if_neg hnil]
    refine iff_of_true rfl (.inl ?_)
    rw [markers_resolve_eq_nil_iff] at hnil
    push Not at hnil
    exact hnil

/-- A documented marker that is ignored is in the field and not among the markers. -/
theorem markersOf_resolve_ne :
    (resolve [⟨.function, some ":markers: usefixtures", []⟩] ["usefixtures"]).fields.get?
        markersField = some "usefixtures".toList
      ∧ (resolve [⟨.function, some ":markers: usefixtures", []⟩] ["usefixtures"]).markers = []
      ∧ markersOf (resolve [⟨.function, some ":markers: usefixtures", []⟩] ["usefixtures"]).fields
        ≠ (resolve [⟨.function, some ":markers: usefixtures", []⟩] ["usefixtures"]).markers := by
  decide +kernel

end Testbook
