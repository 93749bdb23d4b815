import Testbook.Text.Basic

/-!
The fields of a test: values by name, in the order of the names. A field map is known by what its
names stand for (`Fields.ext_get?`), and writing to it changes one of them (`Fields.get?_insert`).
-/

namespace Testbook

open Testbook.Text

/-- Values by name, in the order of the names; no name occurs twice. -/
structure Fields where
  entries : List (Text × Text)
  sorted : entries.Pairwise fun a b => a.1 < b.1

namespace Fields

/-- No fields at all. -/
def empty : Fields := ⟨[], .nil⟩

/-- The value of a name in a list of entries. -/
def lookup (name : Text) : List (Text × Text) → Option Text
  | [] => none
  | (n, value) :: es => if n = name then some value else lookup name es

/-- The value of a name. -/
def get? (fields : Fields) (name : Text) : Option Text := lookup name fields.entries

/-- Whether there is a field of the name. -/
def contains (fields : Fields) (name : Text) : Bool := (fields.get? name).isSome

/-- The names, in order. -/
def names (fields : Fields) : List Text := fields.entries.map (·.1)

/-- An entry set in an ordered list of entries, in place of one of the same name. -/
def insertEntry (name value : Text) : List (Text × Text) → List (Text × Text)
  | [] => [(name, value)]
  | e :: es =>
    if name < e.1 then (name, value) :: e :: es
    else if name = e.1 then (name, value) :: es
    else e :: insertEntry name value es

theorem mem_insertEntry {name value : Text} {entries : List (Text × Text)} {e : Text × Text}
    (h : e ∈ insertEntry name value entries) : e = (name, value) ∨ e ∈ entries := by
  induction entries with
  | nil => simpa [insertEntry] using h
  | cons a es ih =>
    simp only [insertEntry] at h
    split at h
    · simpa using h
    · split at h
      · rcases List.mem_cons.1 h with h | h
        · exact .inl h
        · exact .inr (List.mem_cons_of_mem _ h)
      · rcases List.mem_cons.1 h with h | h
        · exact .inr (h ▸ List.mem_cons_self)
        · exact (ih h).imp_right (List.mem_cons_of_mem _)

theorem pairwise_insertEntry {name value : Text} {entries : List (Text × Text)}
    (h : entries.Pairwise fun a b => a.1 < b.1) :
    (insertEntry name value entries).Pairwise fun a b => a.1 < b.1 := by
  induction entries with
  | nil => simp [insertEntry]
  | cons a es ih =>
    obtain ⟨ha, hes⟩ := List.pairwise_cons.1 h
    simp only [insertEntry]
    split
    · rename_i hlt
      refine List.pairwise_cons.2 ⟨fun e he => ?_, h⟩
      rcases List.mem_cons.1 he with rfl | he
      · exact hlt
      · exact List.lt_trans hlt (ha e he)
    · split
      · rename_i heq
        exact List.pairwise_cons.2 ⟨fun e he => heq ▸ ha e he, hes⟩
      · rename_i hlt hne
        refine List.pairwise_cons.2 ⟨fun e he => ?_, ih hes⟩
        rcases mem_insertEntry he with rfl | he
        · rcases Std.Trichotomous.rel_or_eq_or_rel_swap (r := ((· < ·) : Text → Text → Prop))
            (a := a.1) (b := name) with h | h | h
          · exact h
          · exact absurd h.symm hne
          · exact absurd h hlt
        · exact ha e he

/-- The fields with one value set. -/
def insert (fields : Fields) (name value : Text) : Fields :=
  ⟨insertEntry name value fields.entries, pairwise_insertEntry fields.sorted⟩

/-- The fields of a list of entries; of several with one name the last counts. -/
def ofList (entries : List (Text × Text)) : Fields :=
  entries.foldl (fun fields e => fields.insert e.1 e.2) empty

/-- The fields of `outer`, with those of `inner` in place of or beside them. -/
def override (outer inner : Fields) : Fields :=
  inner.entries.foldl (fun fields e => fields.insert e.1 e.2) outer

/-! ### What the operations do to the values -/

theorem lookup_eq_none {name : Text} {entries : List (Text × Text)}
    (h : ∀ e ∈ entries, name < e.1) : lookup name entries = none := by
  induction entries with
  | nil => rfl
  | cons a es ih =>
    have hne : a.1 ≠ name := fun heq => List.lt_irrefl name (heq ▸ h a List.mem_cons_self)
    simp only [lookup, if_neg hne]
    exact ih fun e he => h e (List.mem_cons_of_mem _ he)

theorem lookup_insertEntry (name value other : Text) {entries : List (Text × Text)}
    (h : entries.Pairwise fun a b => a.1 < b.1) :
    lookup other (insertEntry name value entries)
      = if name = other then some value else lookup other entries := by
  induction entries with
  | nil => rfl
  | cons a es ih =>
    obtain ⟨ha, hes⟩ := List.pairwise_cons.1 h
    simp only [insertEntry]
    split
    · simp [lookup]
    · split
      · rename_i heq
        by_cases ho : name = other
        · simp [lookup, ho]
        · simp [lookup, ho, ← heq]
      · rename_i hne
        simp only [lookup, ih hes]
        by_cases ho : name = other
        · subst ho
          simp [Ne.symm hne]
        · simp [ho]

@[simp]
theorem get?_empty (name : Text) : empty.get? name = none := rfl

/-- Setting a field changes the value of its name only. -/
theorem get?_insert (fields : Fields) (name value other : Text) :
    (fields.insert name value).get? other
      = if name = other then some value else fields.get? other :=
  lookup_insertEntry name value other fields.sorted

theorem get?_foldl_insert (entries : List (Text × Text)) (fields : Fields) (name : Text)
    (h : entries.Pairwise fun a b => a.1 < b.1) :
    (entries.foldl (fun fields e => fields.insert e.1 e.2) fields).get? name
      = (lookup name entries).or (fields.get? name) := by
  induction entries generalizing fields with
  | nil => rfl
  | cons a es ih =>
    obtain ⟨ha, hes⟩ := List.pairwise_cons.1 h
    rw [List.foldl_cons, ih (fields.insert a.1 a.2) hes, get?_insert]
    by_cases hn : a.1 = name
    · subst hn
      simp [lookup, lookup_eq_none ha]
    · simp [lookup, hn]

/-- A name stands for what the inner fields say, and otherwise for what the outer ones say. -/
theorem get?_override (outer inner : Fields) (name : Text) :
    (outer.override inner).get? name = (inner.get? name).or (outer.get? name) :=
  get?_foldl_insert inner.entries outer name inner.sorted

theorem eq_of_lookup {xs ys : List (Text × Text)} (hx : xs.Pairwise fun a b => a.1 < b.1)
    (hy : ys.Pairwise fun a b => a.1 < b.1) (h : ∀ name, lookup name xs = lookup name ys) :
    xs = ys := by
  induction xs generalizing ys with
  | nil =>
    cases ys with
    | nil => rfl
    | cons y ys => simpa [lookup] using h y.1
  | cons x xs ih =>
    cases ys with
    | nil => simpa [lookup] using h x.1
    | cons y ys =>
      obtain ⟨hx1, hx2⟩ := List.pairwise_cons.1 hx
      obtain ⟨hy1, hy2⟩ := List.pairwise_cons.1 hy
      have none_of {z : Text × Text} {zs : List (Text × Text)} {name : Text} (hz : name < z.1)
          (hzs : ∀ e ∈ zs, z.1 < e.1) : lookup name (z :: zs) = none :=
        lookup_eq_none fun e he => by
          rcases List.mem_cons.1 he with rfl | he
          · exact hz
          · exact List.lt_trans hz (hzs e he)
      have hname : x.1 = y.1 := by
        rcases Std.Trichotomous.rel_or_eq_or_rel_swap (r := ((· < ·) : Text → Text → Prop))
          (a := x.1) (b := y.1) with hlt | heq | hlt
        · have := h x.1
          rw [none_of hlt hy1] at this
          simp [lookup] at this
        · exact heq
        · have := h y.1
          rw [none_of hlt hx1] at this
          simp [lookup] at this
      have hvalue : x.2 = y.2 := by
        have := h x.1
        simpa [lookup, hname] using this
      have hrest : xs = ys := ih hx2 hy2 fun name => by
        by_cases hn : x.1 = name
        · subst hn
          rw [lookup_eq_none hx1, lookup_eq_none (hname ▸ hy1)]
        · have := h name
          simpa [lookup, hn, ← hname] using this
      rw [show x = y from Prod.ext hname hvalue, hrest]

/-- Field maps are equal when all names stand for the same values in them. -/
theorem ext_get? {a b : Fields} (h : ∀ name, a.get? name = b.get? name) : a = b := by
  obtain ⟨xs, hx⟩ := a
  obtain ⟨ys, hy⟩ := b
  simp only [mk.injEq]
  exact eq_of_lookup hx hy h

end Fields

end Testbook
