import Mathlib.Data.List.Forall2

/-!
Steps that may fail, one after another: when a sequence of steps succeeds, and with what.
-/

namespace RecordQuery

variable {ε α β : Type}

theorem bind_eq_ok {step : Except ε α} {next : α → Except ε β} {y : β} :
    step >>= next = .ok y ↔ ∃ x, step = .ok x ∧ next x = .ok y := by
  cases step with
  | error e => simp [bind, Except.bind]
  | ok x => simp [bind, Except.bind]

theorem bind_eq_error {step : Except ε α} {next : α → Except ε β} {e : ε} :
    step >>= next = .error e ↔ step = .error e ∨ ∃ x, step = .ok x ∧ next x = .error e := by
  cases step with
  | error e' => simp [bind, Except.bind]
  | ok x => simp [bind, Except.bind]

theorem map_eq_ok {f : α → β} {step : Except ε α} {y : β} :
    step.map f = .ok y ↔ ∃ x, step = .ok x ∧ f x = y := by
  cases step with
  | error e => simp [Except.map]
  | ok x => simp [Except.map]

theorem map_eq_error {f : α → β} {step : Except ε α} {e : ε} :
    step.map f = .error e ↔ step = .error e := by
  cases step with
  | error e => simp [Except.map]
  | ok x => simp [Except.map]

theorem mapM_cons_eq_ok {f : α → Except ε β} {x : α} {xs : List α} {ys : List β} :
    (x :: xs).mapM f = .ok ys ↔
      ∃ y rest, f x = .ok y ∧ xs.mapM f = .ok rest ∧ ys = y :: rest := by
  simp only [List.mapM_cons, bind_eq_ok]
  constructor
  · rintro ⟨y, hy, rest, hrest, h⟩
    exact ⟨y, rest, hy, hrest, (Except.ok.inj h).symm⟩
  · rintro ⟨y, rest, hy, hrest, rfl⟩
    exact ⟨y, hy, rest, hrest, rfl⟩

theorem mapM_cons_eq_error {f : α → Except ε β} {x : α} {xs : List α} {e : ε} :
    (x :: xs).mapM f = .error e ↔ f x = .error e ∨ (∃ y, f x = .ok y) ∧ xs.mapM f = .error e := by
  rw [List.mapM_cons]
  cases f x with
  | error e' => simp [bind, Except.bind]
  | ok y => cases xs.mapM f <;> simp [bind, Except.bind, pure, Except.pure]

/-- A step for each element succeeds if every one of them does. -/
theorem mapM_eq_ok {f : α → Except ε β} {xs : List α} {ys : List β} :
    xs.mapM f = .ok ys ↔ List.Forall₂ (fun x y => f x = .ok y) xs ys := by
  induction xs generalizing ys with
  | nil =>
    simp only [List.mapM_nil, List.forall₂_nil_left_iff]
    exact ⟨fun h => (Except.ok.inj h).symm, fun h => by rw [h]; rfl⟩
  | cons x xs ih =>
    rw [mapM_cons_eq_ok, List.forall₂_cons_left_iff]
    simp only [ih]

theorem exists_of_mem_mapM {f : α → Except ε β} {xs : List α} {ys : List β} {y : β}
    (succeeds : xs.mapM f = .ok ys) (mem : y ∈ ys) : ∃ x ∈ xs, f x = .ok y := by
  induction xs generalizing ys with
  | nil =>
    cases succeeds
    cases mem
  | cons x xs ih =>
    obtain ⟨first, rest, first_ok, rest_ok, rfl⟩ := mapM_cons_eq_ok.mp succeeds
    rcases List.mem_cons.mp mem with rfl | later
    · exact ⟨x, List.mem_cons_self, first_ok⟩
    · obtain ⟨z, among, z_ok⟩ := ih rest_ok later
      exact ⟨z, List.mem_cons_of_mem x among, z_ok⟩

/-- A step for each element fails if one of them does. -/
theorem exists_mapM_eq_error {f : α → Except ε β} {xs : List α} :
    (∃ e, xs.mapM f = .error e) ↔ ∃ x ∈ xs, ∃ e, f x = .error e := by
  induction xs with
  | nil => simp [pure, Except.pure]
  | cons x xs ih =>
    rw [List.exists_mem_cons_iff, ← ih, List.mapM_cons]
    cases f x with
    | error e => simp [bind, Except.bind]
    | ok y => cases xs.mapM f <;> simp [bind, Except.bind, pure, Except.pure]

theorem exists_mapM_eq_ok {f : α → Except ε β} {xs : List α}
    (each : ∀ x ∈ xs, ∃ y, f x = .ok y) : ∃ ys, xs.mapM f = .ok ys := by
  cases outcome : xs.mapM f with
  | ok ys => exact ⟨ys, rfl⟩
  | error e =>
    obtain ⟨x, mem, e', fails⟩ := exists_mapM_eq_error.mp ⟨e, outcome⟩
    obtain ⟨y, succeeds⟩ := each x mem
    cases fails.symm.trans succeeds

/-- A list has a first part that passes, up to an element that stops, exactly if its head stops or
passes with such a list behind it. -/
theorem exists_split_cons {passes stops : α → Prop} {x : α} {rest : List α} :
    (∃ before y after, x :: rest = before ++ y :: after ∧ (∀ z ∈ before, passes z) ∧ stops y) ↔
      stops x ∨ (passes x ∧
        ∃ before y after, rest = before ++ y :: after ∧ (∀ z ∈ before, passes z) ∧ stops y) := by
  constructor
  · rintro ⟨before, y, after, split, pass, stop⟩
    cases before with
    | nil =>
      cases split
      exact Or.inl stop
    | cons z before =>
      cases split
      rw [List.forall_mem_cons] at pass
      exact Or.inr ⟨pass.1, before, y, after, rfl, pass.2, stop⟩
  · rintro (stop | ⟨passed, before, y, after, rfl, pass, stop⟩)
    · exact ⟨[], x, rest, rfl, nofun, stop⟩
    · exact ⟨x :: before, y, after, rfl, List.forall_mem_cons.mpr ⟨passed, pass⟩, stop⟩

/-- Either all elements have a property, or there is a first one that lacks it. -/
theorem all_or_first (p : α → Prop) (xs : List α) : (∀ x ∈ xs, p x) ∨
    ∃ before x after, xs = before ++ x :: after ∧ (∀ y ∈ before, p y) ∧ ¬ p x := by
  induction xs with
  | nil => exact Or.inl nofun
  | cons x rest ih =>
    by_cases holds : p x
    · rcases ih with all | ⟨before, y, after, rfl, all, lacks⟩
      · exact Or.inl (List.forall_mem_cons.mpr ⟨holds, all⟩)
      · exact Or.inr ⟨x :: before, y, after, rfl, List.forall_mem_cons.mpr ⟨holds, all⟩, lacks⟩
    · exact Or.inr ⟨[], x, rest, rfl, nofun, holds⟩

end RecordQuery
