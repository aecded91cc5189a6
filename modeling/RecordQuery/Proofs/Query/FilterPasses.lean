import RecordQuery.Proofs.Query.Stages

/-!
The filter in one pass and in several. Two lists of conditions, one behind the other, keep what the
second keeps of the selection that the first left. A condition that is not met hides those behind
it, so the order of the conditions decides whether the filter fails and with which error. It has no
say in what a filter keeps that succeeds.
-/

namespace RecordQuery.Selection

variable {snapshots : Array Snapshot} {semantics : NullSemantics}
  {conditions first second : List Condition}

/-- Tried in their order, the conditions come to one that fails on the snapshot, and not before
that to one that is not met. -/
def FailsWith (semantics : NullSemantics) (conditions : List Condition) (s : Snapshot)
    (e : Error) : Prop :=
  ∃ before c after, conditions = before ++ c :: after ∧
    (∀ met ∈ before, Matching.accepts semantics met s = .ok true) ∧
    Matching.accepts semantics c s = .error e

theorem failsWith_cons {c : Condition} {rest : List Condition} {s : Snapshot} {e : Error} :
    FailsWith semantics (c :: rest) s e ↔ Matching.accepts semantics c s = .error e ∨
      (Matching.accepts semantics c s = .ok true ∧ FailsWith semantics rest s e) :=
  exists_split_cons

theorem satisfies_eq_error {s : Snapshot} {e : Error} :
    satisfies semantics s conditions = .error e ↔ FailsWith semantics conditions s e := by
  induction conditions with
  | nil => simp [satisfies, FailsWith]
  | cons c rest ih =>
    rw [failsWith_cons, ← ih, satisfies]
    cases Matching.accepts semantics c s with
    | error e' => simp
    | ok met => cases met <;> simp

/-- Either the conditions come to a decision on a snapshot, or one of them fails. -/
theorem exists_satisfies_eq_ok {s : Snapshot} :
    (∃ decision, satisfies semantics s conditions = .ok decision) ↔
      ∀ e, ¬ FailsWith semantics conditions s e := by
  simp only [← satisfies_eq_error]
  cases satisfies semantics s conditions <;> simp

/-- The conditions of the second list are tried only where all of the first are met. -/
theorem satisfies_append (s : Snapshot) : satisfies semantics s (first ++ second) =
    match satisfies semantics s first with
    | .ok true => satisfies semantics s second
    | decided => decided := by
  induction first with
  | nil => rfl
  | cons c rest ih =>
    rw [List.cons_append, satisfies, satisfies]
    cases Matching.accepts semantics c s with
    | error e => rfl
    | ok met =>
      cases met with
      | false => rfl
      | true => exact ih

theorem exists_satisfies_append_eq_ok {s : Snapshot} :
    (∃ decision, satisfies semantics s (first ++ second) = .ok decision) ↔
      (∃ decision, satisfies semantics s first = .ok decision) ∧
        (satisfies semantics s first = .ok true →
          ∃ decision, satisfies semantics s second = .ok decision) := by
  rw [satisfies_append]
  cases satisfies semantics s first with
  | error e => simp
  | ok met => cases met <;> simp

theorem passes_eq_true {i : Fin snapshots.size} :
    passes semantics conditions i = true ↔
      satisfies semantics (snapshotAt i) conditions = .ok true :=
  passes_iff.trans satisfies_eq_true.symm

theorem passes_append (i : Fin snapshots.size) : passes semantics (first ++ second) i =
    (passes semantics first i && passes semantics second i) := by
  rw [Bool.eq_iff_iff, Bool.and_eq_true]
  simp only [passes_iff, List.forall_mem_append]

theorem passes_congr {others : List Condition} (same : ∀ c, c ∈ others ↔ c ∈ conditions)
    (i : Fin snapshots.size) : passes semantics others i = passes semantics conditions i := by
  rw [Bool.eq_iff_iff]
  simp only [passes_iff, same]

variable {selection kept : Selection snapshots}

/-- One pass over both lists of conditions does what a pass over the first and then one over the
second do. -/
theorem filter_append : filter semantics (first ++ second) selection = .ok kept ↔
    ∃ between, filter semantics first selection = .ok between ∧
      filter semantics second between = .ok kept := by
  simp only [filter_eq_ok, exists_satisfies_append_eq_ok]
  constructor
  · rintro ⟨decided, rfl⟩
    refine ⟨_, ⟨fun i mem => (decided i mem).1, rfl⟩, fun i mem => ?_, ?_⟩
    · obtain ⟨mem, passed⟩ := List.mem_filter.mp mem
      exact (decided i mem).2 (passes_eq_true.mp passed)
    · rw [List.filter_filter]
      exact List.filter_congr fun i _ => (passes_append i).trans (Bool.and_comm _ _)
  · rintro ⟨between, ⟨decided, rfl⟩, decided', rfl⟩
    refine ⟨fun i mem => ⟨decided i mem, fun met => decided' i ?_⟩, ?_⟩
    · exact List.mem_filter.mpr ⟨mem, passes_eq_true.mpr met⟩
    · rw [List.filter_filter]
      exact List.filter_congr fun i _ => (Bool.and_comm _ _).trans (passes_append i).symm

/-- What is left by a filter passes it again. -/
theorem filter_idempotent (filtered : filter semantics conditions selection = .ok kept) :
    filter semantics conditions kept = .ok kept := by
  obtain ⟨decided, rfl⟩ := filter_eq_ok.mp filtered
  refine filter_eq_ok.mpr ⟨fun i mem => decided i (List.mem_filter.mp mem).1, ?_⟩
  simp only [List.filter_filter, Bool.and_self]

/-- Filters that succeed keep the same if they have the same conditions, in whatever order and
however often. -/
theorem filter_congr {others : List Condition} (same : ∀ c, c ∈ others ↔ c ∈ conditions)
    {kept' : Selection snapshots} (filtered : filter semantics conditions selection = .ok kept)
    (filtered' : filter semantics others selection = .ok kept') : kept' = kept := by
  rw [(filter_eq_ok.mp filtered).2, (filter_eq_ok.mp filtered').2]
  exact List.filter_congr fun i _ => passes_congr same i

/-- The first selected position on whose snapshot the conditions fail, and the error they fail with
there. -/
def FirstFailure (semantics : NullSemantics) (conditions : List Condition)
    (selection : Selection snapshots) (e : Error) : Prop :=
  ∃ before i after, selection = before ++ i :: after ∧
    (∀ j ∈ before, ∀ e', ¬ FailsWith semantics conditions (snapshotAt j) e') ∧
    FailsWith semantics conditions (snapshotAt i) e

theorem firstFailure_cons {i : Fin snapshots.size} {rest : Selection snapshots} {e : Error} :
    FirstFailure semantics conditions (i :: rest) e ↔
      FailsWith semantics conditions (snapshotAt i) e ∨
        ((∀ e', ¬ FailsWith semantics conditions (snapshotAt i) e') ∧
          FirstFailure semantics conditions rest e) :=
  exists_split_cons

theorem filter_eq_error {e : Error} : filter semantics conditions selection = .error e ↔
    FirstFailure semantics conditions selection e := by
  induction selection with
  | nil => simp [filter, FirstFailure]
  | cons i rest ih =>
    rw [firstFailure_cons, ← exists_satisfies_eq_ok, ← satisfies_eq_error, ← ih, filter]
    cases satisfies semantics (snapshotAt i) conditions with
    | error e' => simp
    | ok decision => cases filter semantics conditions rest <;> simp

/-- Filtering by two lists of conditions at once succeeds exactly if filtering by the first does and
then by the second, and keeps the same. What a filter that succeeds keeps is the selected positions
that meet all conditions, in their order and as often as they were selected. It does not depend on
the order of the conditions, and filtering again changes nothing. A filter that fails reports the
first selected position where conditions fail, and the first condition that does so there. -/
theorem filter_in_passes (semantics : NullSemantics) (selection : Selection snapshots) :
    (∀ first second kept, filter semantics (first ++ second) selection = .ok kept ↔
      ∃ between, filter semantics first selection = .ok between ∧
        filter semantics second between = .ok kept) ∧
    (∀ conditions kept, filter semantics conditions selection = .ok kept →
      (∃ met : Fin snapshots.size → Bool, kept = List.filter met selection ∧
        ∀ i, met i = true ↔
          ∀ c ∈ conditions, Matching.accepts semantics c (snapshotAt i) = .ok true) ∧
      filter semantics conditions kept = .ok kept ∧
      ∀ others kept', (∀ c, c ∈ others ↔ c ∈ conditions) →
        filter semantics others selection = .ok kept' → kept' = kept) ∧
    ∀ conditions e, filter semantics conditions selection = .error e ↔
      FirstFailure semantics conditions selection e := by
  refine ⟨fun first second kept => filter_append, fun conditions kept filtered => ⟨?_, ?_, ?_⟩,
    fun conditions e => filter_eq_error⟩
  · exact ⟨passes semantics conditions, (filter_eq_ok.mp filtered).2, fun i => passes_iff⟩
  · exact filter_idempotent filtered
  · exact fun others kept' same filtered' => filter_congr same filtered filtered'

/-- A child without a name, and two grown-ups. -/
def guests : Array Snapshot :=
  #[⟨[("age", .scalar (.int 4))], [], []⟩,
    ⟨[("age", .scalar (.int 30)), ("name", .scalar (.string "ann"))], [], []⟩,
    ⟨[("age", .scalar (.int 40)), ("name", .scalar (.string "bob"))], [], []⟩]

def guestSelection (positions : List (Fin 3)) : Selection guests := positions

def grownUp : Condition := ⟨⟨none, "age"⟩, .ge, some (.single (.int 18))⟩

def calledAnn : Condition := ⟨⟨none, "name"⟩, .eq, some (.single (.string "ann"))⟩

/-- Among the grown-ups the order of the conditions does not matter. That the child is not grown up
hides that it has no name. -/
theorem filter_in_passes_guests :
    filter .strict [grownUp, calledAnn] (guestSelection [1, 2, 1]) =
      .ok (guestSelection [1, 1]) ∧
    filter .strict [grownUp, calledAnn] (guestSelection [1, 1]) = .ok (guestSelection [1, 1]) ∧
    (∀ kept, filter .strict [calledAnn, grownUp, calledAnn] (guestSelection [1, 2, 1]) = .ok kept →
      kept = guestSelection [1, 1]) ∧
    filter .strict [grownUp, calledAnn] (guestSelection [1, 0]) = .ok (guestSelection [1]) ∧
    filter .strict [calledAnn, grownUp] (guestSelection [1, 0]) =
      .error (.unknownColumn ⟨none, "name"⟩) := by
  have filtered : filter .strict [grownUp, calledAnn] (guestSelection [1, 2, 1]) =
      .ok (guestSelection [1, 1]) := by
    rfl
  obtain ⟨-, keeps, -⟩ := filter_in_passes .strict (guestSelection [1, 2, 1])
  obtain ⟨-, again, reordered⟩ := keeps _ _ filtered
  obtain ⟨passes, -, fails⟩ := filter_in_passes .strict (guestSelection [1, 0])
  refine ⟨filtered, again, fun kept => reordered _ kept (by simp [or_comm]), ?_, ?_⟩
  · exact (passes [grownUp] [calledAnn] _).mpr ⟨guestSelection [1], by rfl, by rfl⟩
  · refine (fails _ _).mpr ⟨guestSelection [1], (0 : Fin 3), [], rfl, fun j mem => ?_, ?_⟩
    · rw [List.mem_singleton.mp mem]
      exact exists_satisfies_eq_ok.mp ⟨true, by rfl⟩
    · exact ⟨[], calledAnn, [grownUp], rfl, nofun, by rfl⟩

end RecordQuery.Selection
