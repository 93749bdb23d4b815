import Testbook.Text.Basic

/-!
Tables that keep the order in which their keys were first written. Writing a key again changes its
value and not its place (`Table.names_insert_of_mem`); a table laid over another one writes all of
its keys (`Table.get?_overlay`).
-/

namespace Testbook

open Testbook.Text

/-- Values by key, in the order in which the keys came; no key occurs twice. -/
structure Table (α : Type) where
  entries : List (Text × α)
  distinct : (entries.map (·.1)).Nodup

namespace Table

variable {α : Type}

/-- The table without entries. -/
def empty : Table α := ⟨[], .nil⟩

/-- The value of a key in a list of entries. -/
def lookup (key : Text) : List (Text × α) → Option α
  | [] => none
  | (k, value) :: es => if k = key then some value else lookup key es

/-- The value of a key. -/
def get? (table : Table α) (key : Text) : Option α := lookup key table.entries

/-- Whether a table has a key. -/
def contains (table : Table α) (key : Text) : Bool := (table.get? key).isSome

/-- The keys in their order. -/
def names (table : Table α) : List Text := table.entries.map (·.1)

/-- A value set for a key: in its place if the key is there, and at the end otherwise. -/
def insertEntry (key : Text) (value : α) : List (Text × α) → List (Text × α)
  | [] => [(key, value)]
  | e :: es => if e.1 = key then (key, value) :: es else e :: insertEntry key value es

theorem mem_names_insertEntry {key k : Text} {value : α} {entries : List (Text × α)} :
    k ∈ (insertEntry key value entries).map (·.1) ↔ k = key ∨ k ∈ entries.map (·.1) := by
  induction entries with
  | nil => simp [insertEntry]
  | cons e es ih =>
    simp only [insertEntry]
    split
    · rename_i h
      simp [h]
    · simp only [List.map_cons, List.mem_cons, ih]
      grind

theorem nodup_insertEntry {key : Text} {value : α} {entries : List (Text × α)}
    (h : (entries.map (·.1)).Nodup) : ((insertEntry key value entries).map (·.1)).Nodup := by
  induction entries with
  | nil => simp [insertEntry]
  | cons e es ih =>
    simp only [List.map_cons, List.nodup_cons] at h
    simp only [insertEntry]
    split
    · rename_i he
      simpa [← he] using h
    · rename_i he
      simp only [List.map_cons, List.nodup_cons]
      exact ⟨fun hm => (mem_names_insertEntry.1 hm).elim he h.1, ih h.2⟩

/-- The table with a value set for a key. -/
def insert (table : Table α) (key : Text) (value : α) : Table α :=
  ⟨insertEntry key value table.entries, nodup_insertEntry table.distinct⟩

/-- The table of a list of entries, written one after the other. -/
def ofList (entries : List (Text × α)) : Table α :=
  entries.foldl (fun table e => table.insert e.1 e.2) empty

/-- A table with all entries of another one written into it. -/
def overlay (base upper : Table α) : Table α :=
  upper.entries.foldl (fun table e => table.insert e.1 e.2) base

/-! ### What the operations do to the values and to the order -/

theorem lookup_insertEntry (key other : Text) (value : α) (entries : List (Text × α)) :
    lookup other (insertEntry key value entries)
      = if key = other then some value else lookup other entries := by
  induction entries with
  | nil => rfl
  | cons e es ih =>
    simp only [insertEntry]
    split
    · rename_i he
      by_cases ho : key = other <;> simp [lookup, ho, he]
    · rename_i he
      simp only [lookup, ih]
      by_cases ho : key = other
      · subst ho
        simp [he]
      · simp [ho]

/-- Writing a key changes its value only. -/
theorem get?_insert (table : Table α) (key other : Text) (value : α) :
    (table.insert key value).get? other = if key = other then some value else table.get? other :=
  lookup_insertEntry key other value table.entries

theorem insertEntry_of_not_mem {key : Text} {value : α} {entries : List (Text × α)}
    (h : key ∉ entries.map (·.1)) : insertEntry key value entries = entries ++ [(key, value)] := by
  induction entries with
  | nil => rfl
  | cons e es ih =>
    simp only [List.map_cons, List.mem_cons, not_or] at h
    simp [insertEntry, Ne.symm h.1, ih h.2]

theorem names_insertEntry_of_mem {key : Text} {value : α} {entries : List (Text × α)}
    (h : key ∈ entries.map (·.1)) :
    (insertEntry key value entries).map (·.1) = entries.map (·.1) := by
  induction entries with
  | nil => simp at h
  | cons e es ih =>
    simp only [insertEntry]
    split
    · rename_i he
      simp [he]
    · rename_i he
      simp only [List.map_cons, List.mem_cons] at h
      simp [ih (h.resolve_left (Ne.symm he))]

/-- A key that is written again keeps its place. -/
theorem names_insert_of_mem {table : Table α} {key : Text} {value : α} (h : key ∈ table.names) :
    (table.insert key value).names = table.names :=
  names_insertEntry_of_mem h

theorem lookup_eq_none {key : Text} {entries : List (Text × α)}
    (h : key ∉ entries.map (·.1)) : lookup key entries = none := by
  induction entries with
  | nil => rfl
  | cons e es ih =>
    simp only [List.map_cons, List.mem_cons, not_or] at h
    simp [lookup, Ne.symm h.1, ih h.2]

theorem get?_foldl_insert (entries : List (Text × α)) (table : Table α) (key : Text)
    (h : (entries.map (·.1)).Nodup) :
    (entries.foldl (fun table e => table.insert e.1 e.2) table).get? key
      = (lookup key entries).or (table.get? key) := by
  induction entries generalizing table with
  | nil => rfl
  | cons e es ih =>
    simp only [List.map_cons, List.nodup_cons] at h
    rw [List.foldl_cons, ih (table.insert e.1 e.2) h.2, get?_insert]
    by_cases hk : e.1 = key
    · subst hk
      simp [lookup, lookup_eq_none h.1]
    · simp [lookup, hk]

/-- A key has the value that the upper table gives it, and otherwise that of the lower one. -/
theorem get?_overlay (base upper : Table α) (key : Text) :
    (base.overlay upper).get? key = (upper.get? key).or (base.get? key) :=
  get?_foldl_insert upper.entries base key upper.distinct

end Table

end Testbook
