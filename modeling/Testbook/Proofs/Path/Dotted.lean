import Testbook.Proofs.Path.Components
import Testbook.Proofs.Text.Pieces

/-!
Dotted names. The dotted name of a module joins the names that are left of its path behind the base
(`moduleNames`). The base takes the same steps off all paths that lie under it, so of two source
files on one side of the base, either under it or not, the names that are left tell the paths apart
(`names_eq_of_moduleNames`). What a dotted name was joined from can be told as long as there is no
point in the names (`splitOn_join`).
-/

namespace Testbook.Text

/-- The last separator ends the front of a text when there is none behind it. -/
theorem append_sep_inj {sep : Char} {front front' last last' : Text} (h : sep ∉ last)
    (h' : sep ∉ last') (heq : front ++ sep :: last = front' ++ sep :: last') :
    front = front' ∧ last = last' := by
  have hcut := congrArg (splitOn sep) heq
  rw [splitOn_append_sep, splitOn_append_sep, splitOn_of_not_mem h, splitOn_of_not_mem h'] at hcut
  obtain ⟨hfront, hlast⟩ := List.append_inj' hcut rfl
  refine ⟨?_, List.singleton_inj.1 hlast⟩
  rw [← join_splitOn sep front, hfront, join_splitOn]

end Testbook.Text

namespace Testbook.Path

open Testbook.Text

/-- Whether the base comes first in a path as both are spelled. -/
def isBeneath (base : Option Path) (path : Path) : Bool := base.any (isUnder · path)

/-- The components of a path that are left behind the base. -/
def inner (path : Path) (base : Option Path) : List Component :=
  (base.bind (behind? · path)).getD (components path)

/-- The components that the base takes off a path. -/
def skipped (path : Path) (base : Option Path) : List Component :=
  if isBeneath base path then (base.map components).getD [] else []

/-- The names that the dotted name of a module joins. -/
def moduleNames (path : Path) (base : Option Path) : List Text :=
  let names := (inner path base).filterMap Component.name?
  match names.getLast? with
  | some last => names.dropLast ++ [(dropEnd? ".py" last).getD last]
  | none => []

theorem modulePath_eq_join (path : Path) (base : Option Path) :
    modulePath path base = join "." (moduleNames path base) := rfl

variable {path other : Path} {base : Option Path} {name stem : Text}

theorem skipped_append_inner (path : Path) (base : Option Path) :
    skipped path base ++ inner path base = components path := by
  cases base with
  | none => rfl
  | some base =>
    by_cases hunder : isUnder base path = true
    · obtain ⟨rest, hrest⟩ := List.isPrefixOf_iff_prefix.1 hunder
      simp [skipped, inner, isBeneath, behind?, hunder, ← hrest]
    · simp [skipped, inner, isBeneath, behind?, hunder]

/-- A base takes the same off all paths beneath it. -/
theorem skipped_eq (h : isBeneath base path = isBeneath base other) :
    skipped path base = skipped other base := by rw [skipped, h, skipped]

/-- Of a source file there is either nothing left behind the base, or the name of the file. -/
theorem moduleNames_cases (hname : fileName? path = some name)
    (hstem : dropEnd? ".py" name = some stem) (base : Option Path) :
    (inner path base = [] ∧ moduleNames path base = [])
      ∨ ∃ front, (inner path base).filterMap Component.name? = front ++ [name]
        ∧ moduleNames path base = front ++ [stem] := by
  have hcut := skipped_append_inner path base
  rcases List.eq_nil_or_concat (inner path base) with hnil | ⟨front, last, hlast⟩
  · refine .inl ⟨hnil, ?_⟩
    rw [moduleNames, hnil]
    rfl
  · rw [List.concat_eq_append] at hlast
    rw [hlast, ← List.append_assoc] at hcut
    have hend : last.name? = some name := by
      rw [fileName?, ← hcut, List.getLast?_concat, Option.bind_some] at hname
      exact hname
    have hnames : (inner path base).filterMap Component.name?
        = front.filterMap Component.name? ++ [name] := by
      rw [hlast, List.filterMap_append, List.filterMap_cons, hend]
      rfl
    refine .inr ⟨front.filterMap Component.name?, hnames, ?_⟩
    simp only [moduleNames, hnames, List.getLast?_concat, List.dropLast_concat, hstem,
      Option.getD_some]

/-- Source files on one side of the base that have the same names left have the same names. -/
theorem names_eq_of_moduleNames {name' stem' : Text} (hname : fileName? path = some name)
    (hstem : dropEnd? ".py" name = some stem) (hname' : fileName? other = some name')
    (hstem' : dropEnd? ".py" name' = some stem') (hside : isBeneath base path = isBeneath base other)
    (h : moduleNames path base = moduleNames other base) :
    (components path).filterMap Component.name? = (components other).filterMap Component.name? := by
  have hinner : (inner path base).filterMap Component.name?
      = (inner other base).filterMap Component.name? := by
    rcases moduleNames_cases hname hstem base with ⟨hnil, hmodule⟩ | ⟨front, hfront, hmodule⟩ <;>
      rcases moduleNames_cases hname' hstem' base with
        ⟨hnil', hmodule'⟩ | ⟨front', hfront', hmodule'⟩ <;>
      rw [hmodule, hmodule'] at h
    · rw [hnil, hnil']
    · exact absurd h.symm (by simp)
    · exact absurd h (by simp)
    · obtain ⟨rfl, hlast⟩ := List.append_inj' h rfl
      obtain rfl := List.singleton_inj.1 hlast
      rw [hfront, hfront', dropEnd?_eq_some hstem, dropEnd?_eq_some hstem']
  rw [← skipped_append_inner path base, ← skipped_append_inner other base, List.filterMap_append,
    List.filterMap_append, skipped_eq hside, hinner]

theorem modulePath_eq_nil (hname : fileName? path = some name)
    (hstem : dropEnd? ".py" name = some stem) (hne : stem ≠ []) :
    modulePath path base = [] ↔ moduleNames path base = [] := by
  rw [modulePath_eq_join]
  rcases moduleNames_cases hname hstem base with ⟨-, hmodule⟩ | ⟨front, -, hmodule⟩ <;> rw [hmodule]
  · exact iff_of_true rfl rfl
  · refine iff_of_false ?_ (by simp)
    rw [← List.nil_append stem, join_concat_append]
    simp [hne]

/-- A module has an empty dotted name when the base is the module itself. -/
theorem modulePath_eq_nil_iff (hname : fileName? path = some name)
    (hstem : dropEnd? ".py" name = some stem) (hne : stem ≠ []) :
    modulePath path base = [] ↔ base.map components = some (components path) := by
  have hcut := skipped_append_inner path base
  have hcomponents : components path ≠ [] := by
    intro hnil
    rw [fileName?, hnil] at hname
    cases hname
  rw [modulePath_eq_nil hname hstem hne]
  rcases moduleNames_cases hname hstem base with ⟨hnil, hmodule⟩ | ⟨front, hfront, hmodule⟩
  · rw [hmodule]
    refine iff_of_true rfl ?_
    rw [hnil, List.append_nil, skipped] at hcut
    split at hcut
    · cases base with
      | none => exact absurd hcut.symm hcomponents
      | some base => exact congrArg some hcut
    · exact absurd hcut.symm hcomponents
  · refine iff_of_false (by simp [hmodule]) fun hbase => ?_
    obtain ⟨base', rfl, hself⟩ := Option.map_eq_some_iff.1 hbase
    have hunder : isUnder base' path = true :=
      List.isPrefixOf_iff_prefix.2 (hself ▸ List.prefix_rfl)
    rw [inner, Option.bind_some, behind?, if_pos hunder, hself, List.drop_length] at hfront
    exact absurd hfront (by simp)

end Testbook.Path
