/-!
Results that may fail. The results of a list are all there or the first failure is
(`mapM_eq_ok_iff`, `mapM_eq_some_iff`, `mapM_eq_error_iff`, `mapM_eq_pure`). A result that is known
under a condition, and known not to be another in any case, is put together from such results
(`Gives`).
-/

namespace Testbook

variable {α β ε : Type} {f : α → Except ε β} {xs : List α}

theorem mapM_eq_ok_iff {ys : List β} : xs.mapM f = .ok ys ↔ xs.map f = ys.map .ok := by
  induction xs generalizing ys with
  | nil => cases ys <;> simp [pure, Except.pure]
  | cons x xs ih =>
    rw [List.mapM_cons]
    cases hx : f x with
    | error e => cases ys <;> simp [bind, Except.bind, hx]
    | ok y =>
      cases hxs : xs.mapM f with
      | error e => cases ys <;> simp [bind, Except.bind, hx, ← ih, hxs]
      | ok ys' => cases ys <;> simp [bind, Except.bind, pure, Except.pure, hx, ← ih, hxs]

theorem mapM_eq_some_iff {g : α → Option β} {ys : List β} :
    xs.mapM g = some ys ↔ xs.map g = ys.map some := by
  induction xs generalizing ys with
  | nil => cases ys <;> simp
  | cons x xs ih =>
    rw [List.mapM_cons]
    cases hx : g x with
    | none => cases ys <;> simp [hx]
    | some y =>
      cases hxs : xs.mapM g with
      | none => cases ys <;> simp [hx, ← ih, hxs]
      | some ys' => cases ys <;> simp [hx, ← ih, hxs]

theorem mapM_eq_pure {m : Type → Type} [Monad m] [LawfulMonad m] {β : Type} {f : α → m β}
    {g : α → β} (h : ∀ x ∈ xs, f x = pure (g x)) : xs.mapM f = pure (xs.map g) := by
  induction xs with
  | nil => rfl
  | cons x xs ih =>
    rw [List.mapM_cons, h x List.mem_cons_self, pure_bind,
      ih fun y hy => h y (List.mem_cons_of_mem x hy), pure_bind, List.map_cons]

/-- Results that are not all there fail with the first failure. -/
theorem mapM_eq_error_iff {e : ε} : xs.mapM f = .error e
    ↔ ∃ front x back, xs = front ++ x :: back ∧ (∀ a ∈ front, ∃ b, f a = .ok b) ∧ f x = .error e := by
  induction xs with
  | nil => simp [pure, Except.pure]
  | cons x xs ih =>
    rw [List.mapM_cons]
    cases hx : f x with
    | error e' =>
      refine ⟨fun h => ?_, ?_⟩
      · cases h
        exact ⟨[], x, xs, rfl, by simp, hx⟩
      · rintro ⟨front, a, back, hcut, hfront, ha⟩
        cases front with
        | nil =>
          obtain ⟨rfl, rfl⟩ := List.cons.inj hcut
          rw [hx] at ha
          cases ha
          rfl
        | cons b front =>
          obtain ⟨rfl, rfl⟩ := List.cons.inj hcut
          obtain ⟨y, hy⟩ := hfront x List.mem_cons_self
          rw [hx] at hy
          cases hy
    | ok y =>
      have hbind : (Except.ok y >>= fun y => xs.mapM f >>= fun ys => pure (y :: ys)) = .error e
          ↔ xs.mapM f = .error e := by
        cases xs.mapM f <;> simp [bind, Except.bind, pure, Except.pure]
      rw [hbind, ih]
      constructor
      · rintro ⟨front, a, back, rfl, hfront, ha⟩
        exact ⟨x :: front, a, back, rfl, List.forall_mem_cons.2 ⟨⟨y, hx⟩, hfront⟩, ha⟩
      · rintro ⟨front, a, back, hcut, hfront, ha⟩
        cases front with
        | nil =>
          obtain ⟨rfl, rfl⟩ := List.cons.inj hcut
          rw [hx] at ha
          cases ha
        | cons b front =>
          obtain ⟨rfl, rfl⟩ := List.cons.inj hcut
          exact ⟨front, a, back, rfl, (List.forall_mem_cons.1 hfront).2, ha⟩

theorem exists_mapM_eq_ok : (∃ ys, xs.mapM f = .ok ys) ↔ ∀ x ∈ xs, ∃ y, f x = .ok y := by
  constructor
  · rintro ⟨ys, hys⟩ x hx
    have hmem : f x ∈ ys.map .ok := mapM_eq_ok_iff.1 hys ▸ List.mem_map_of_mem hx
    obtain ⟨y, -, hy⟩ := List.mem_map.1 hmem
    exact ⟨y, hy.symm⟩
  · intro h
    cases hys : xs.mapM f with
    | ok ys => exact ⟨ys, rfl⟩
    | error e =>
      obtain ⟨front, x, back, rfl, -, hx⟩ := mapM_eq_error_iff.1 hys
      obtain ⟨y, hy⟩ := h x (by simp)
      rw [hx] at hy
      cases hy

/-! ### Results known under a condition -/

/-- A result that is this value when it is there at all, which it is under a condition. -/
structure Gives (result : Except ε α) (condition : Prop) (value : α) : Prop where
  eq_of_ok : ∀ found, result = .ok found → found = value
  ok_of : condition → result = .ok value

namespace Gives

variable {result : Except ε α} {condition weaker : Prop} {value : α}

theorem ok (value : α) : Gives (.ok value : Except ε α) condition value :=
  ⟨fun _ h => (Except.ok.inj h).symm, fun _ => rfl⟩

theorem of_stronger (h : Gives result weaker value) (hcondition : condition → weaker) :
    Gives result condition value :=
  ⟨h.eq_of_ok, fun hc => h.ok_of (hcondition hc)⟩

theorem bind {next : α → Except ε β} {last : β} (h : Gives result condition value)
    (hnext : Gives (next value) condition last) : Gives (result >>= next) condition last where
  eq_of_ok found hfound := by
    cases hresult : result with
    | error e =>
      rw [hresult] at hfound
      cases hfound
    | ok a =>
      rw [hresult, h.eq_of_ok a hresult] at hfound
      exact hnext.eq_of_ok found hfound
  ok_of hc := by
    rw [h.ok_of hc]
    exact hnext.ok_of hc

theorem map (h : Gives result condition value) (g : α → β) :
    Gives (g <$> result) condition (g value) where
  eq_of_ok found hfound := by
    cases hresult : result with
    | error e =>
      rw [hresult] at hfound
      cases hfound
    | ok a =>
      rw [hresult] at hfound
      cases hfound
      rw [h.eq_of_ok a hresult]
  ok_of hc := by
    rw [h.ok_of hc]
    rfl

/-- The results of a list are known when each of them is. -/
theorem mapM {g : α → β} {holds : α → Prop} (h : ∀ x ∈ xs, Gives (f x) (holds x) (g x)) :
    Gives (xs.mapM f) (∀ x ∈ xs, holds x) (xs.map g) where
  eq_of_ok found hfound := by
    rw [mapM_eq_ok_iff] at hfound
    induction xs generalizing found with
    | nil => exact (List.map_eq_nil_iff.1 hfound.symm)
    | cons x xs ih =>
      cases found with
      | nil => cases hfound
      | cons y found =>
        obtain ⟨hx, hxs⟩ := List.forall_mem_cons.1 h
        obtain ⟨hy, hrest⟩ := List.cons.inj hfound
        rw [List.map_cons, hx.eq_of_ok y hy, ih hxs found hrest]
  ok_of hall := by
    rw [mapM_eq_ok_iff, List.map_map]
    exact List.map_congr_left fun x hx => (h x hx).ok_of (hall x hx)

end Gives

end Testbook
