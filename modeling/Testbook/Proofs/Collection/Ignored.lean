import Testbook.Proofs.Collection.Account

/-!
Ignoring is restriction. A walk does not enter what is ignored, and whether a path is ignored is
decided by its steps; what is ignored passes that on to everything beneath it, so the walk comes to
those modules that are not beneath an ignored path themselves (`isReached_ignores`). What is left of
a collection is what the other modules come to without anything ignored (`collect_ignored`).

An ignored path without steps, such as a dot, is an exception: everything relative lies beneath it,
but it only counts when the collection starts at such a path, too.
-/

namespace Testbook

open Testbook.Text

/-- A path that a walk from `root` does not come to, as it lies under an ignored one. -/
def CollectOptions.LeavesOut (options : CollectOptions) (root path : Path) : Prop :=
  ∃ ignored ∈ options.ignored, Path.LiesUnder ignored path
    ∧ (Path.steps ignored = [] → Path.steps root = [])

instance (options : CollectOptions) (root path : Path) : Decidable (options.LeavesOut root path) :=
  inferInstanceAs (Decidable (∃ ignored ∈ options.ignored, Path.LiesUnder ignored path
    ∧ (Path.steps ignored = [] → Path.steps root = [])))

variable {registry : Registry} {options : CollectOptions} {files : FileSystem} {root path : Path}
  {place : FileTree} {names : List Text}

theorem ignores_iff : options.ignores path = true
    ↔ ∃ ignored ∈ options.ignored, Path.LiesUnder ignored path
      ∧ (Path.steps ignored = [] → Path.steps path = []) := by
  simp only [CollectOptions.ignores, List.any_eq_true, Path.isUnder_normalize]

/-- A walk comes to the end of a way unless that is left out. -/
theorem isReached_ignores (hnames : ∀ name ∈ names, Path.IsName name) :
    FileTree.isReached options.ignores root names = true
      ↔ ¬ options.LeavesOut root (Path.below root names) := by
  rw [FileTree.isReached_iff]
  constructor
  · rintro hreached ⟨ignored, hmem, hunder, hnil⟩
    -- a dot is noticed at the start of the walk, other paths at the end of the way
    by_cases hsteps : Path.steps ignored = []
    · have hroot : options.ignores root = true := by
        refine ignores_iff.2 ⟨ignored, hmem, ?_, hnil⟩
        rw [Path.LiesUnder, hsteps]
        exact List.nil_prefix
      exact absurd (hreached [] List.nil_prefix) (by simp [Path.below, hroot])
    · have hend : options.ignores (Path.below root names) = true :=
        ignores_iff.2 ⟨ignored, hmem, hunder, fun h => absurd h hsteps⟩
      exact absurd (hreached names List.prefix_rfl) (by simp [hend])
  · intro hkept front hfront
    rw [Bool.eq_false_iff]
    intro hignored
    obtain ⟨ignored, hmem, hunder, hnil⟩ := ignores_iff.1 hignored
    have hsteps : Path.steps (Path.below root front) = Path.steps root ++ front.map .name :=
      Path.steps_below root fun name hname => hnames name (hfront.subset hname)
    rw [Path.LiesUnder, hsteps] at hunder
    rw [hsteps] at hnil
    refine hkept ⟨ignored, hmem, ?_, fun h => (List.append_eq_nil_iff.1 (hnil h)).1⟩
    rw [Path.LiesUnder, Path.steps_below root hnames]
    exact hunder.trans ((List.prefix_append_right_inj _).2 (hfront.map _))

theorem leavesOut_normalize :
    options.LeavesOut root (Path.normalize path) ↔ options.LeavesOut root path := by
  simp only [CollectOptions.LeavesOut, Path.LiesUnder, Path.steps_normalize]

/-- Without ignored paths a walk comes everywhere. -/
theorem isReached_of_nothing : FileTree.isReached
    (CollectOptions.ignores { options with ignored := [] }) root names = true :=
  FileTree.isReached_iff.2 fun _ _ => rfl

/-- The modules that are found are those that are found with nothing ignored, but for the ones that
are left out. -/
theorem testModules_ignored (hwf : place.WellFormed) :
    testModules options root place
      = (testModules { options with ignored := [] } root place).filter
          fun path => ¬ options.LeavesOut root path := by
  have hreached : ∀ names ∈ place.files,
      FileTree.isReached options.ignores root names
        = decide (¬ options.LeavesOut root (entryPath root names)) := by
    intro names hmem
    rw [Bool.eq_iff_iff, decide_eq_true_iff, entryPath, leavesOut_normalize,
      isReached_ignores (hwf.isName_of_mem_files hmem)]
  have hall : place.files.filter
      (FileTree.isReached (CollectOptions.ignores { options with ignored := [] }) root)
        = place.files :=
    List.filter_eq_self.2 fun _ _ => isReached_of_nothing
  rw [testModules, testModules, FileTree.walk_eq, FileTree.walk_eq, hall,
    List.filter_congr hreached]
  simp only [List.filter_map, List.filter_filter, List.map_map]
  refine congrArg (List.map _) (List.filter_congr fun names _ => ?_)
  exact Bool.and_comm _ _

theorem outcomes_ignored [Python.Recovery] (hwf : files.root.WellFormed) :
    outcomes registry options files root
      = (outcomes registry { options with ignored := [] } files root).map
          (·.filter fun outcome => ¬ options.LeavesOut root outcome.1) := by
  rw [outcomes, outcomes]
  cases hroot : files.find root with
  | error fault => rfl
  | ok place =>
    refine congrArg Except.ok ?_
    have hsame : outcomeAt registry options files
        = outcomeAt registry { options with ignored := [] } files := rfl
    rw [testModules_ignored (hwf.at? (FileSystem.at?_wayTo hroot)), hsame]
    change _ = List.filter _ (List.map _ _)
    rw [List.filter_map]
    rfl

/-- Ignored paths leave out the modules beneath them and change nothing about the others. -/
theorem collect_ignored [Python.Recovery] (hwf : files.root.WellFormed) :
    (collect registry { options with ignored := [] } files [] root).1
        = (outcomes registry { options with ignored := [] } files root).map .ofOutcomes
      ∧ (collect registry options files [] root).1
        = ((outcomes registry { options with ignored := [] } files root).map
            (·.filter fun outcome => ¬ options.LeavesOut root outcome.1)).map .ofOutcomes := by
  rw [← outcomes_ignored hwf, ← collect_eq, ← collect_eq]
  exact ⟨rfl, rfl⟩

theorem collect_ignored_directory : sampleTree.WellFormed
    ∧ (collect .builtin { ignored := ["./tests/api/"] } sampleTree [] "tests").1
      = ((outcomes .builtin {} sampleTree "tests").map (·.filter fun outcome =>
          ¬ CollectOptions.LeavesOut { ignored := ["./tests/api/"] } "tests" outcome.1)).map
        .ofOutcomes := by
  have hignored := @collect_ignored .builtin { ignored := ["./tests/api/"] } sampleTree "tests" _
    wellFormed_sampleTree
  exact ⟨wellFormed_sampleTree, hignored.2⟩

/-- A dot does not leave out what lies beneath it, unless the collection starts there. -/
theorem collect_ignored_current :
    (collect .builtin { ignored := ["."] } sampleTree [] "tests").1
      ≠ ((outcomes .builtin {} sampleTree "tests").map
          (·.filter fun outcome => ¬ Path.LiesUnder "." outcome.1)).map .ofOutcomes := by
  obtain ⟨entries, hroot, hat⟩ : ∃ entries,
      FileSystem.find sampleTree "tests" = .ok (.directory entries)
        ∧ (FileTree.directory entries).at? ["test_b.py"] = some (.file .empty) := ⟨_, rfl, rfl⟩
  have hwf : (FileTree.directory entries).WellFormed :=
    wellFormed_sampleTree.at? (FileSystem.at?_wayTo hroot)
  have hfound : ["test_b.py".toList] ∈ testWays { ignored := ["."] } "tests" (.directory entries) :=
    (mem_testWays hwf).2 ⟨⟨_, hat⟩, by decide, FileTree.isReached_iff.1 (by decide)⟩
  have hnone : ∀ found : List (Path × Except Failure (List Record)),
      found.filter (fun outcome => ¬ Path.LiesUnder "." outcome.1) = [] := by
    intro found
    rw [List.filter_eq_nil_iff]
    intro outcome _
    have hunder : Path.LiesUnder "." outcome.1 := List.nil_prefix
    simpa using hunder
  rw [collect_directory hwf hroot, outcomes, hroot]
  simp only [Except.map, hnone, ne_eq, Except.ok.injEq]
  intro heq
  have hlength := Collection.length_ofOutcomes ((testWays { ignored := ["."] } "tests"
    (.directory entries)).map fun names =>
      outcomeAt .builtin { ignored := ["."] } sampleTree (entryPath "tests" names))
  rw [heq, Collection.length_ofOutcomes, List.length_map] at hlength
  exact List.ne_nil_of_mem hfound (List.length_eq_zero_iff.1 hlength.symm)

end Testbook
