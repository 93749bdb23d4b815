import Testbook.Registry.Basic

/-!
Registries laid over each other. A table is known by its keys in their order and the value of each
(`Table.ext_get?`), and both have a closed form for tables laid over each other: the new keys come
behind the old ones (`Table.names_overlay`), and the upper value wins. So laying over is associative,
and a declaration is the laying over of the registry that makes it alone. It follows that registries
are a monoid, which the single declarations generate (`layer_monoid`).
-/

namespace Testbook

open Testbook.Text

namespace Table

variable {α : Type} {key : Text}

/-- The table with one entry. -/
def single (key : Text) (value : α) : Table α := empty.insert key value

/-! ### Keys and values determine a table -/

theorem lookup_eq_some_of_mem {entries : List (Text × α)} (hn : (entries.map (·.1)).Nodup)
    {value : α} (h : (key, value) ∈ entries) : lookup key entries = some value := by
  induction entries with
  | nil => exact absurd h List.not_mem_nil
  | cons e es ih =>
    obtain ⟨he, hes⟩ := List.nodup_cons.1 hn
    rcases List.mem_cons.1 h with rfl | hmem
    · rw [lookup, if_pos rfl]
    · have hkey : key ∈ es.map (·.1) := List.mem_map_of_mem hmem
      have hne : e.1 ≠ key := fun heq => he (heq.symm.subst hkey)
      rw [lookup, if_neg hne, ih hes hmem]

/-- The entries are the keys with their values. -/
theorem entries_eq (table : Table α) :
    table.entries.map (fun e => (e.1, some e.2)) = table.names.map fun k => (k, table.get? k) := by
  rw [names, List.map_map]
  refine List.map_congr_left fun e he => ?_
  rw [Function.comp_apply, get?, lookup_eq_some_of_mem table.distinct he]

/-- Tables with the same keys in the same order and the same values are equal. -/
theorem ext_get? {a b : Table α} (hnames : a.names = b.names) (h : ∀ key, a.get? key = b.get? key) :
    a = b := by
  have hentries : a.entries = b.entries := by
    refine (List.map_inj_right fun e e' he => ?_).1 (?_ : a.entries.map (fun e => (e.1, some e.2))
      = b.entries.map fun e => (e.1, some e.2))
    · exact Prod.ext (Prod.ext_iff.1 he).1 (Option.some.inj (Prod.ext_iff.1 he).2)
    · rw [a.entries_eq, b.entries_eq, hnames]
      exact List.map_congr_left fun k _ => by rw [h]
  cases a
  cases b
  cases hentries
  rfl

/-! ### Tables laid over each other -/

theorem names_insert (table : Table α) (key : Text) (value : α) :
    (table.insert key value).names
      = table.names ++ [key].filter (· ∉ table.names) := by
  by_cases h : key ∈ table.names
  · rw [names_insert_of_mem h]
    simp [h]
  · have hentries : (table.insert key value).entries = table.entries ++ [(key, value)] :=
      insertEntry_of_not_mem h
    have hnew : [key].filter (· ∉ table.names) = [key] :=
      List.filter_eq_self.2 fun k hk => by simpa [List.mem_singleton.1 hk] using h
    rw [hnew, names, hentries, List.map_append]
    rfl

theorem names_foldl_insert (entries : List (Text × α)) (table : Table α)
    (h : (entries.map (·.1)).Nodup) :
    (entries.foldl (fun table e => table.insert e.1 e.2) table).names
      = table.names ++ (entries.map (·.1)).filter (· ∉ table.names) := by
  induction entries generalizing table with
  | nil => simp
  | cons e es ih =>
    obtain ⟨he, hes⟩ := List.nodup_cons.1 h
    -- the first key does not come again, so it makes no difference to the others
    have hrest : (es.map (·.1)).filter (· ∉ (table.insert e.1 e.2).names)
        = (es.map (·.1)).filter (· ∉ table.names) := by
      refine List.filter_congr fun k hk => ?_
      have hne : k ≠ e.1 := fun heq => he (heq.subst hk)
      rw [names_insert]
      simp [hne]
    rw [List.foldl_cons, ih _ hes, hrest, names_insert, List.append_assoc, ← List.filter_append]
    rfl

/-- The keys that are new come behind the others. -/
theorem names_overlay (base upper : Table α) :
    (base.overlay upper).names = base.names ++ upper.names.filter (· ∉ base.names) :=
  names_foldl_insert upper.entries base upper.distinct

theorem overlay_assoc (a b c : Table α) : (a.overlay b).overlay c = a.overlay (b.overlay c) := by
  refine ext_get? ?_ fun key => ?_
  · simp only [names_overlay, List.filter_append, List.filter_filter, List.append_assoc]
    congr 2
    refine List.filter_congr fun k _ => ?_
    by_cases ha : k ∈ a.names <;> by_cases hb : k ∈ b.names <;> simp [ha, hb]
  · simp only [get?_overlay, Option.or_assoc]

theorem overlay_empty (table : Table α) : table.overlay empty = table := rfl

theorem empty_overlay (table : Table α) : empty.overlay table = table := by
  refine ext_get? ?_ fun key => ?_
  · rw [names_overlay]
    exact List.filter_eq_self.2 fun _ _ => rfl
  · rw [get?_overlay]
    exact Option.or_none

end Table

namespace Registry

/-! ### Registries laid over each other -/

theorem layer_assoc (a b c : Registry) : (a.layer b).layer c = a.layer (b.layer c) := by
  simp only [layer, Option.or_assoc, Table.overlay_assoc]

theorem layer_empty (registry : Registry) : registry.layer empty = registry := by
  simp only [layer, empty, Option.none_or, Table.overlay_empty]

theorem empty_layer (registry : Registry) : empty.layer registry = registry := by
  simp only [layer, empty, Option.or_none, Table.empty_overlay]

/-- Making a declaration is laying over the registry that makes it alone. -/
theorem layer_declare_empty (registry : Registry) (d : Declaration) :
    registry.layer (empty.declare d) = registry.declare d := by
  cases d <;>
    simp only [declare, layer, empty, Option.none_or, Option.some_or, Table.overlay_empty] <;> rfl

theorem layer_declare (base upper : Registry) (d : Declaration) :
    base.layer (upper.declare d) = (base.layer upper).declare d := by
  rw [← layer_declare_empty upper, ← layer_declare_empty (base.layer upper), layer_assoc]

/-- Declarations on top of a registry are declarations on top of what it is laid over. -/
theorem layer_declareAll (base upper : Registry) (ds : List Declaration) :
    base.layer (upper.declareAll ds) = (base.layer upper).declareAll ds := by
  induction ds generalizing upper with
  | nil => rfl
  | cons d ds ih =>
    have hcons (r : Registry) : r.declareAll (d :: ds) = (r.declare d).declareAll ds := rfl
    rw [hcons, ih, layer_declare, hcons]

theorem declareAll_append (registry : Registry) (xs ys : List Declaration) :
    registry.declareAll (xs ++ ys) = (registry.declareAll xs).declareAll ys :=
  List.foldl_append ..

/-- Laying over is associative, and the registry that declares nothing changes nothing and is
changed into what is laid over it. Declarations made one after the other are laid over each other. -/
theorem layer_monoid :
    (∀ a b c : Registry, (a.layer b).layer c = a.layer (b.layer c))
      ∧ (∀ a : Registry, empty.layer a = a ∧ a.layer empty = a)
      ∧ ∀ xs ys : List Declaration,
        ofDeclarations (xs ++ ys) = (ofDeclarations xs).layer (ofDeclarations ys) := by
  refine ⟨layer_assoc, fun a => ⟨empty_layer a, layer_empty a⟩, fun xs ys => ?_⟩
  calc ofDeclarations (xs ++ ys) = (ofDeclarations xs).declareAll ys := declareAll_append empty xs ys
    _ = ((ofDeclarations xs).layer empty).declareAll ys := by rw [layer_empty]
    _ = (ofDeclarations xs).layer (ofDeclarations ys) :=
      (layer_declareAll (ofDeclarations xs) empty ys).symm

end Registry

end Testbook
