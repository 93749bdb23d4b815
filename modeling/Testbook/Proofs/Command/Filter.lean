import Testbook.Command.Run

/-!
What a filter shows. The directive that decides about a notice is one of those that concern it, and none
of these is more specific (`decisive?_eq_some`), so a directive without a target only counts where no
other one concerns the notice. A filter that shows nothing of any level shows no lines, and it need not
look at the notices (`noticed_eq`).
-/

namespace Testbook

open Testbook.Text

variable {filter : Filter} {d other third : Directive} {n : Notice}

namespace Directive

theorem isAtMost_total (d other : Directive) : d.isAtMost other = true ∨ other.isAtMost d = true := by
  simp only [isAtMost, Bool.or_eq_true, Bool.and_eq_true, decide_eq_true_eq]
  omega

theorem isAtMost_trans (h : d.isAtMost other = true) (h' : other.isAtMost third = true) :
    d.isAtMost third = true := by
  simp only [isAtMost, Bool.or_eq_true, Bool.and_eq_true, decide_eq_true_eq] at h h' ⊢
  omega

end Directive

namespace Filter

/-- That a directive is the most specific of several. -/
structure IsMost (d : Directive) (directives : List Directive) : Prop where
  mem : d ∈ directives
  isAtMost : ∀ other ∈ directives, other.isAtMost d = true

/-- Going through directives keeps the most specific one. -/
theorem isMost_foldl {best : Option Directive} {seen directives : List Directive}
    (hbest : ∀ d ∈ best, IsMost d seen) (hnone : best = none → seen = []) :
    ∀ d ∈ directives.foldl (fun best d => if best.all (·.isAtMost d) then some d else best) best,
      IsMost d (seen ++ directives) := by
  induction directives generalizing best seen with
  | nil => simpa using hbest
  | cons next directives ih =>
    rw [List.foldl_cons, List.append_cons]
    refine ih ?_ ?_
    · intro d hd
      split at hd
      · next hall =>
        cases hd
        refine ⟨List.mem_append_right _ List.mem_cons_self, fun other hother => ?_⟩
        rcases List.mem_append.1 hother with hother | hother
        · cases best with
          | none =>
            rw [hnone rfl] at hother
            cases hother
          | some best => exact Directive.isAtMost_trans ((hbest best rfl).isAtMost other hother) hall
        · obtain rfl := List.mem_singleton.1 hother
          exact (Directive.isAtMost_total other other).elim id id
      · next hnot =>
        have hd' := hbest d hd
        refine ⟨List.mem_append_left _ hd'.mem, fun other hother => ?_⟩
        rcases List.mem_append.1 hother with hother | hother
        · exact hd'.isAtMost other hother
        · obtain rfl := List.mem_singleton.1 hother
          rw [hd, Option.all_some] at hnot
          exact (Directive.isAtMost_total other d).resolve_right hnot
    · intro hnext
      split at hnext
      · cases hnext
      · next hnot =>
        rw [hnext] at hnot
        exact absurd rfl hnot

/-- What decides about a notice is the most specific of the directives that concern it. -/
theorem decisive?_eq_some (h : filter.decisive? n = some d) :
    d ∈ filter ∧ d.concerns n = true
      ∧ ∀ other ∈ filter, other.concerns n = true → other.isAtMost d = true := by
  have hmost : IsMost d ([] ++ filter.filter (·.concerns n)) :=
    isMost_foldl (fun d hd => by cases hd) (fun _ => rfl) d h
  rw [List.nil_append] at hmost
  obtain ⟨hmem, hconcerns⟩ := List.mem_filter.1 hmost.mem
  exact ⟨hmem, hconcerns, fun other hother hn => hmost.isAtMost other (List.mem_filter.2 ⟨hother, hn⟩)⟩

theorem shows_of_isShut (h : filter.isShut = true) (n : Notice) : filter.shows n = false := by
  cases hd : filter.decisive? n with
  | none => rw [shows, hd, Option.any_none]
  | some d =>
    have hlevel : d.level = none := by
      simpa using List.all_eq_true.1 h d (decisive?_eq_some hd).1
    rw [shows, hd, Option.any_some, Directive.shows, hlevel, Option.any_none]

end Filter

/-- What is shown of a request are the lines of its notices that the filter shows, behind what there is to
say about the filter itself. -/
theorem noticed_eq [Python.Recovery] (filter : Option Text) (files : FileSystem) (request : Request) :
    request.noticed filter files = (filterFor request.verbose request.quiet filter).1
      ++ (filterFor request.verbose request.quiet filter).2.lines (request.notices files) := by
  unfold Request.noticed
  dsimp only
  refine congrArg ((filterFor request.verbose request.quiet filter).1 ++ ·) ?_
  split
  · next hshut =>
    have hnone : (request.notices files).filter
        (filterFor request.verbose request.quiet filter).2.shows = [] :=
      List.filter_eq_nil_iff.2 fun n _ => by
        rw [Filter.shows_of_isShut hshut]
        exact Bool.false_ne_true
    rw [Filter.lines, hnone, List.flatMap_nil]
  · rfl

end Testbook
