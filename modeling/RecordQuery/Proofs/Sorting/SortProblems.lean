import RecordQuery.Proofs.Sorting.SelectionOrder

/-!
Selections that cannot be sorted. A selection is refused exactly if a selected snapshot lacks the
column of some sort key, or the values of the column are not all of one kind that has an order,
nulls apart. The error then has one problem for each offending position and key, and nothing has
moved.
-/

namespace RecordQuery

/-- Values of the kind have an order among each other. -/
def Kind.isOrderable : Kind → Bool
  | .null | .list | .snapshot => false
  | .string | .int | .uint | .float | .bool | .time | .bytes => true

theorem Scalar.kind_isOrderable (a : Scalar) : a.kind.isOrderable = true := by
  cases a <;> rfl

namespace Value

/-- Both values are of one kind that has an order. -/
def Orderable (x y : Value) : Prop :=
  x.kind = y.kind ∧ x.kind.isOrderable = true

theorem orderable_iff {x y : Value} : Orderable x y ↔ ∃ ordering, x.order y = .ok ordering := by
  simp only [order_eq_ok]
  constructor
  · rintro ⟨same, orderable⟩
    cases x with
    | scalar a =>
      cases y with
      | scalar b => exact ⟨_, a, b, rfl, rfl, same, rfl⟩
      | null | list _ | nested _ =>
        rw [same] at orderable
        cases orderable
    | null | list _ | nested _ => cases orderable
  · rintro ⟨_, a, b, rfl, rfl, same, -⟩
    exact ⟨same, a.kind_isOrderable⟩

theorem order_eq_error {x y : Value} {e : Error} : x.order y = .error e ↔
    ¬ Orderable x y ∧ e = .mismatch .order x.kind y.kind.name := by
  rw [orderable_iff]
  cases compared : x.order y with
  | ok ordering => simp
  | error e' =>
    have cause : e' = .mismatch .order x.kind y.kind.name := by
      unfold order at compared
      split at compared
      · split at compared
        · cases compared
        · exact (Except.error.inj compared).symm
      · exact (Except.error.inj compared).symm
    simp [cause, eq_comm]

end Value

namespace Selection

variable {snapshots : Array Snapshot} {nulls : NullPlacement} {keys : List SortKey}
  {selection : Selection snapshots} {target : Reference} {i : Fin snapshots.size}

def Lacks (target : Reference) (i : Fin snapshots.size) : Prop :=
  (snapshotAt i).get? target.table target.column = none

/-- The snapshot at the position has the value in the column, and it is not null. -/
def Holds (target : Reference) (i : Fin snapshots.size) (x : Value) : Prop :=
  (snapshotAt i).get? target.table target.column = some x ∧ x.isNull = false

/-- The first value of the column in the selection, nulls apart. -/
def FirstValue (target : Reference) (selection : Selection snapshots) (x : Value) : Prop :=
  ∃ before i after, selection = before ++ i :: after ∧ Holds target i x ∧
    ∀ j ∈ before, ∀ y, ¬ Holds target j y

/-- The column has a value at every selected position, and the values are of one kind that has an
order, nulls apart. -/
def Uniform (target : Reference) (selection : Selection snapshots) : Prop :=
  (∀ i ∈ selection, ¬ Lacks target i) ∧
    ∃ kind : Kind, kind.isOrderable = true ∧
      ∀ i ∈ selection, ∀ x, Holds target i x → x.kind = kind

/-- What is wrong with the column at a position of the selection. -/
inductive Problem (selection : Selection snapshots) (target : Reference)
    (i : Fin snapshots.size) : Error → Prop
  | missing : Lacks target i → Problem selection target i (.unknownColumn target)
  | unordered {first x : Value} : FirstValue target selection first → Holds target i x →
      ¬ Value.Orderable first x →
      Problem selection target i (.mismatch .order first.kind x.kind.name)

/-- The problems of a selection, each with the position and the place of the sort key that it is
about, by position and then by key. -/
structure ProblemListing (keys : List SortKey) (selection : Selection snapshots)
    (listing : List ((Fin snapshots.size × Nat) × Error)) : Prop where
  mem_iff : ∀ i place e, ((i, place), e) ∈ listing ↔
    i ∈ selection ∧ ∃ key, keys[place]? = some key ∧ Problem selection key.target i e
  ascending : listing.Pairwise fun a b => a.1.1 < b.1.1 ∨ (a.1.1 = b.1.1 ∧ a.1.2 < b.1.2)

/-! One position and one column. -/

theorem nonNull?_eq_some {x : Value} :
    ((snapshotAt i).get? target.table target.column).filter (fun value => !value.isNull) = some x ↔
      Holds target i x := by
  simp only [Option.filter_eq_some_iff, Holds, Bool.not_eq_true']

theorem firstValue?_eq_some {x : Value} :
    firstValue? target selection = some x ↔ FirstValue target selection x := by
  simp only [firstValue?, List.findSome?_eq_some_iff, nonNull?_eq_some, FirstValue,
    Option.eq_none_iff_forall_ne_some, ne_eq]

/-- A value that is not null has a first one before it, which may be itself. -/
theorem exists_firstValue (mem : i ∈ selection) {x : Value} (holds : Holds target i x) :
    ∃ first, FirstValue target selection first := by
  cases reference : firstValue? target selection with
  | some first => exact ⟨first, firstValue?_eq_some.mp reference⟩
  | none =>
    have absent := List.findSome?_eq_none_iff.mp reference i mem
    rw [nonNull?_eq_some.mpr holds] at absent
    cases absent

theorem problem?_of_lacks (lacks : Lacks target i) :
    problem? selection target i = some (.unknownColumn target) := by
  simp only [problem?, Snapshot.lookup, show (snapshotAt i).get? _ _ = none from lacks]

theorem problem?_of_null
    (found : (snapshotAt i).get? target.table target.column = some .null) :
    problem? selection target i = none := by
  simp only [problem?, Snapshot.lookup, found]
  cases firstValue? target selection <;> rfl

theorem problem?_of_holds {first x : Value} (isFirst : FirstValue target selection first)
    (holds : Holds target i x) {e : Error} :
    problem? selection target i = some e ↔ first.order x = .error e := by
  simp only [problem?, Snapshot.lookup, holds.1, holds.2, firstValue?_eq_some.mpr isFirst,
    Bool.false_eq_true, if_false]
  cases first.order x <;> simp

/-- At a selected position exactly the problems of the column are found. -/
theorem problem?_eq_some (mem : i ∈ selection) {e : Error} :
    problem? selection target i = some e ↔ Problem selection target i e := by
  constructor
  · intro reported
    cases found : (snapshotAt i).get? target.table target.column with
    | none =>
      rw [problem?_of_lacks found] at reported
      cases reported
      exact .missing found
    | some x =>
      cases null : x.isNull with
      | true =>
        rw [Value.eq_null_of_isNull null] at found
        rw [problem?_of_null found] at reported
        cases reported
      | false =>
        have holds : Holds target i x := ⟨found, null⟩
        obtain ⟨first, isFirst⟩ := exists_firstValue mem holds
        rw [problem?_of_holds isFirst holds, Value.order_eq_error] at reported
        obtain ⟨unordered, rfl⟩ := reported
        exact .unordered isFirst holds unordered
  · intro problem
    cases problem with
    | missing lacks => exact problem?_of_lacks lacks
    | unordered isFirst holds unordered =>
      exact (problem?_of_holds isFirst holds).mpr (Value.order_eq_error.mpr ⟨unordered, rfl⟩)

/-- A column has a problem at some selected position exactly if it is not uniform. Comparing with
the first value is enough: what has an order to it is of its kind. -/
theorem exists_problem_iff :
    (∃ i ∈ selection, ∃ e, Problem selection target i e) ↔ ¬ Uniform target selection := by
  constructor
  · rintro ⟨i, mem, e, problem⟩ ⟨present, kind, orderable, alike⟩
    cases problem with
    | missing lacks => exact present i mem lacks
    | unordered first holds unordered =>
      obtain ⟨before, j, after, rfl, holds', -⟩ := first
      have kind_first := alike j (by simp) _ holds'
      have kind_value := alike i mem _ holds
      exact unordered ⟨kind_first.trans kind_value.symm, kind_first ▸ orderable⟩
  · intro mixed
    by_contra none_found
    have silent : ∀ i ∈ selection, ∀ e, ¬ Problem selection target i e :=
      fun i mem e problem => none_found ⟨i, mem, e, problem⟩
    refine mixed ⟨fun i mem lacks => silent i mem _ (.missing lacks), ?_⟩
    have alike {first : Value} (isFirst : FirstValue target selection first) :
        ∀ i ∈ selection, ∀ x, Holds target i x → Value.Orderable first x := by
      intro i mem x holds
      by_contra unordered
      exact silent i mem _ (.unordered isFirst holds unordered)
    cases reference : firstValue? target selection with
    | none =>
      refine ⟨.bool, rfl, fun i mem x holds => ?_⟩
      obtain ⟨first, isFirst⟩ := exists_firstValue mem holds
      rw [firstValue?_eq_some.mpr isFirst] at reference
      cases reference
    | some first =>
      have isFirst := firstValue?_eq_some.mp reference
      obtain ⟨before, j, after, split, holds, -⟩ := id isFirst
      have itself := alike isFirst j (by simp [split]) first holds
      exact ⟨first.kind, itself.2, fun i mem x holds => (alike isFirst i mem x holds).1.symm⟩

/-! All positions and all sort keys. -/

/-- The problems of one position, by the places of the sort keys. -/
def problemsAt (keys : List SortKey) (selection : Selection snapshots) (i : Fin snapshots.size) :
    List ((Fin snapshots.size × Nat) × Error) :=
  keys.zipIdx.filterMap fun (key, place) =>
    (problem? selection key.target i).map fun e => ((i, place), e)

/-- The problems of a selection with what they are about. -/
def locatedProblems (keys : List SortKey) (selection : Selection snapshots) :
    List ((Fin snapshots.size × Nat) × Error) :=
  (all snapshots).flatMap fun i =>
    if selection.contains i then problemsAt keys selection i else []

theorem problems_eq_map : problems keys selection = (locatedProblems keys selection).map (·.2) := by
  have at_position (i : Fin snapshots.size) :
      (problemsAt keys selection i).map (·.2) =
        keys.filterMap fun key => problem? selection key.target i := by
    have places : keys.zipIdx.map Prod.fst = keys := List.zipIdx_map_fst 0 keys
    conv => rhs; rw [← places, List.filterMap_map]
    simp only [problemsAt, List.map_filterMap, Option.map_map]
    congr 1
    funext entry
    exact Option.map_id'
  simp only [problems, locatedProblems, List.map_flatMap]
  congr 1
  funext i
  split
  · exact (at_position i).symm
  · rfl

theorem mem_problemsAt (mem : i ∈ selection) {j : Fin snapshots.size} {place : Nat} {e : Error} :
    ((j, place), e) ∈ problemsAt keys selection i ↔
      j = i ∧ ∃ key, keys[place]? = some key ∧ Problem selection key.target i e := by
  simp only [problemsAt, List.mem_filterMap, Option.map_eq_some_iff, Prod.mk.injEq, Prod.exists,
    List.mem_zipIdx_iff_getElem?, problem?_eq_some mem]
  constructor
  · rintro ⟨key, place, at_place, e, problem, ⟨rfl, rfl⟩, rfl⟩
    exact ⟨rfl, key, at_place, problem⟩
  · rintro ⟨rfl, key, at_place, problem⟩
    exact ⟨key, place, at_place, e, problem, ⟨rfl, rfl⟩, rfl⟩

theorem problemsAt_ascending (keys : List SortKey) (selection : Selection snapshots)
    (i : Fin snapshots.size) :
    (problemsAt keys selection i).Pairwise fun a b => a.1.1 = b.1.1 ∧ a.1.2 < b.1.2 := by
  rw [problemsAt, List.pairwise_filterMap]
  refine (places_ascending keys).imp fun less a found b found' => ?_
  obtain ⟨_, -, rfl⟩ := Option.map_eq_some_iff.mp found
  obtain ⟨_, -, rfl⟩ := Option.map_eq_some_iff.mp found'
  exact ⟨rfl, less⟩

theorem locatedProblems_listing (keys : List SortKey) (selection : Selection snapshots) :
    ProblemListing keys selection (locatedProblems keys selection) := by
  refine ⟨fun i place e => ?_, ?_⟩
  · simp only [locatedProblems, List.mem_flatMap]
    constructor
    · rintro ⟨j, -, listed⟩
      split at listed
      next selected =>
        have mem := List.contains_iff_mem.mp selected
        obtain ⟨rfl, problem⟩ := (mem_problemsAt mem).mp listed
        exact ⟨mem, problem⟩
      next => cases listed
    · rintro ⟨mem, problem⟩
      refine ⟨i, List.mem_finRange i, ?_⟩
      rw [if_pos (List.contains_iff_mem.mpr mem)]
      exact (mem_problemsAt mem).mpr ⟨rfl, problem⟩
  · rw [locatedProblems, List.pairwise_flatMap]
    have position {i : Fin snapshots.size} {a : (Fin snapshots.size × Nat) × Error}
        (listed : a ∈ if selection.contains i then problemsAt keys selection i else []) :
        a.1.1 = i := by
      split at listed
      next selected =>
        obtain ⟨⟨j, place⟩, e⟩ := a
        exact ((mem_problemsAt (List.contains_iff_mem.mp selected)).mp listed).1
      next => cases listed
    constructor
    · intro i _
      split
      · exact (problemsAt_ascending keys selection i).imp Or.inr
      · exact List.Pairwise.nil
    · refine (List.pairwise_lt_finRange _).imp fun less a ha b hb => Or.inl ?_
      rwa [position ha, position hb]

theorem problems_ne_nil_iff :
    problems keys selection ≠ [] ↔ ∃ key ∈ keys, ¬ Uniform key.target selection := by
  have lists := locatedProblems_listing keys selection
  rw [problems_eq_map, ne_eq, List.map_eq_nil_iff]
  simp only [← exists_problem_iff]
  constructor
  · intro found
    obtain ⟨⟨⟨i, place⟩, e⟩, listed⟩ := List.exists_mem_of_ne_nil _ found
    obtain ⟨mem, key, at_place, problem⟩ := (lists.mem_iff i place e).mp listed
    exact ⟨key, List.mem_of_getElem? at_place, i, mem, e, problem⟩
  · rintro ⟨key, among, i, mem, e, problem⟩
    obtain ⟨place, at_place⟩ := List.mem_iff_getElem?.mp among
    exact List.ne_nil_of_mem ((lists.mem_iff i place e).mpr ⟨mem, key, at_place, problem⟩)

/-- A selection with problems stays as it came, and all of them are the error. -/
theorem sortInPlace_of_problems (some_found : problems keys selection ≠ []) :
    sortInPlace nulls keys selection =
      (selection, .error (.unsortable (problems keys selection))) := by
  unfold sortInPlace
  split
  next none_found => exact absurd none_found some_found
  next => rfl

theorem sort_eq_error {e : Error} : sort nulls keys selection = .error e ↔
    problems keys selection ≠ [] ∧ e = .unsortable (problems keys selection) := by
  by_cases none_found : problems keys selection = []
  · have sorts : sort nulls keys selection = .ok _ := sort_eq_ok.mpr ⟨none_found, rfl⟩
    rw [sorts]
    exact iff_of_false nofun fun fails => fails.1 none_found
  · rw [sort, sortInPlace_of_problems none_found]
    simp only [Except.error.injEq, ne_eq, none_found, not_false_eq_true, true_and, eq_comm]

/-- Sorting succeeds where the columns of all sort keys are uniform. -/
theorem exists_sort_eq_ok (nulls : NullPlacement) (keys : List SortKey)
    (uniform : ∀ key ∈ keys, Uniform key.target selection) :
    ∃ sorted, sort nulls keys selection = .ok sorted := by
  refine ⟨_, sort_eq_ok.mpr ⟨?_, rfl⟩⟩
  by_contra some_found
  obtain ⟨key, among, mixed⟩ := problems_ne_nil_iff.mp some_found
  exact mixed (uniform key among)

/-- Sorting fails exactly if the column of some sort key is not uniform over the selection. Then
the selection stays as it came, and the error lists every problem once. -/
theorem sort_fails_iff (nulls : NullPlacement) (keys : List SortKey)
    (selection : Selection snapshots) :
    ((∃ e, sort nulls keys selection = .error e) ↔
      ∃ key ∈ keys, ¬ Uniform key.target selection) ∧
    ∀ e, sort nulls keys selection = .error e →
      sortInPlace nulls keys selection = (selection, .error e) ∧
      ∃ listing, ProblemListing keys selection listing ∧ e = .unsortable (listing.map (·.2)) := by
  refine ⟨?_, fun e fails => ⟨?_, _, locatedProblems_listing keys selection, ?_⟩⟩
  · rw [← problems_ne_nil_iff]
    simp only [sort_eq_error, exists_and_left, exists_eq, and_true]
  · obtain ⟨some_found, rfl⟩ := sort_eq_error.mp fails
    exact sortInPlace_of_problems some_found
  · rw [(sort_eq_error.mp fails).2, problems_eq_map]

/-- Snapshots by two columns: a number and a text, a list and a null, and a number alone. -/
def mixedSample : Array Snapshot :=
  #[⟨[("a", .scalar (.int 1)), ("b", .scalar (.string "x"))], [], []⟩,
    ⟨[("a", .list (.ints [1])), ("b", .null)], [], []⟩,
    ⟨[("a", .scalar (.int 2))], [], []⟩]

def mixedSelection (positions : List (Fin 3)) : Selection mixedSample := positions

def mixedKeys : List SortKey := [⟨⟨none, "b"⟩, .ascending⟩, ⟨⟨none, "a"⟩, .descending⟩]

/-- The list comes first in the selection, so that even it is no number to compare with. A
position that is selected twice has its problems once. -/
theorem sort_fails_iff_sample :
    sort .first mixedKeys (mixedSelection [1, 2, 2, 0]) = .error (.unsortable
      [.mismatch .order .list "int", .mismatch .order .list "list", .unknownColumn ⟨none, "b"⟩,
        .mismatch .order .list "int"]) ∧
    (sortInPlace .first mixedKeys (mixedSelection [1, 2, 2, 0])).1 =
      mixedSelection [1, 2, 2, 0] := by
  have fails : sort .first mixedKeys (mixedSelection [1, 2, 2, 0]) = .error (.unsortable
      [.mismatch .order .list "int", .mismatch .order .list "list", .unknownColumn ⟨none, "b"⟩,
        .mismatch .order .list "int"]) := by
    rfl
  refine ⟨fails, ?_⟩
  rw [((sort_fails_iff .first mixedKeys (mixedSelection [1, 2, 2, 0])).2 _ fails).1]

end Selection

end RecordQuery
