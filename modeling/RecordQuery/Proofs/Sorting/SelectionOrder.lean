import RecordQuery.Proofs.Sorting.ValueOrder

/-!
Sorting a selection. One snapshot comes before another if it does so by the first sort key by
which they differ. A selection without problems has a value for every key at every position, and
these values compare with each other. Its sorted form has the same positions in that order, and
positions that tie by every key stay in the order they had.
-/

namespace RecordQuery

theorem Snapshot.lookup_eq_ok {s : Snapshot} {target : Reference} {x : Value} :
    s.lookup target = .ok x ↔ s.get? target.table target.column = some x := by
  unfold lookup
  cases s.get? target.table target.column <;> simp

namespace SortKey

/-- By this key the first snapshot comes before the second. -/
def Precedes (nulls : NullPlacement) (key : SortKey) (a b : Snapshot) : Prop :=
  ∃ x y, a.lookup key.target = .ok x ∧ b.lookup key.target = .ok y ∧
    Value.Precedes nulls key.direction x y

def Ties (key : SortKey) (a b : Snapshot) : Prop :=
  ∃ x y, a.lookup key.target = .ok x ∧ b.lookup key.target = .ok y ∧ Value.Ties x y

/-- Both snapshots have a value of the key, and the two compare. -/
def Compares (key : SortKey) (a b : Snapshot) : Prop :=
  ∃ x y, a.lookup key.target = .ok x ∧ b.lookup key.target = .ok y ∧ Value.Comparable x y

variable {nulls : NullPlacement} {key : SortKey} {a b : Snapshot}

theorem orderBy_eq_lt (compares : key.Compares a b) :
    Selection.orderBy nulls key a b = .lt ↔ key.Precedes nulls a b := by
  obtain ⟨x, y, hx, hy, comparable⟩ := compares
  simp only [Selection.orderBy, Snapshot.lookup_eq_ok.mp hx, Snapshot.lookup_eq_ok.mp hy,
    Value.orderValues_eq_lt comparable, Precedes, hx, hy, Except.ok.injEq]
  simp

theorem orderBy_eq_eq (compares : key.Compares a b) :
    Selection.orderBy nulls key a b = .eq ↔ key.Ties a b := by
  obtain ⟨x, y, hx, hy, comparable⟩ := compares
  simp only [Selection.orderBy, Snapshot.lookup_eq_ok.mp hx, Snapshot.lookup_eq_ok.mp hy,
    Value.orderValues_eq_eq comparable, Ties, hx, hy, Except.ok.injEq]
  simp

theorem Precedes.asymm (forth : key.Precedes nulls a b) : ¬ key.Precedes nulls b a := by
  intro back
  obtain ⟨x, y, hx, hy, forth⟩ := forth
  obtain ⟨y', x', hy', hx', back⟩ := back
  cases hx.symm.trans hx'
  cases hy.symm.trans hy'
  exact forth.asymm back

theorem Precedes.not_ties (precedes : key.Precedes nulls a b) : ¬ key.Ties a b := by
  intro ties
  obtain ⟨x, y, hx, hy, precedes⟩ := precedes
  obtain ⟨x', y', hx', hy', ties⟩ := ties
  cases hx.symm.trans hx'
  cases hy.symm.trans hy'
  exact precedes.not_ties ties

theorem Ties.symm (ties : key.Ties a b) : key.Ties b a := by
  obtain ⟨x, y, hx, hy, ties⟩ := ties
  exact ⟨y, x, hy, hx, Value.Ties.symm ties⟩

theorem Ties.self (ties : key.Ties a b) : key.Ties a a := by
  obtain ⟨x, y, hx, hy, ties⟩ := ties
  exact ⟨x, x, hx, hx, Value.Ties.self ties⟩

/-- The value of the key, null where the snapshot lacks it. -/
def valueIn (key : SortKey) (s : Snapshot) : Value :=
  (s.get? key.target.table key.target.column).getD .null

theorem orderBy_eq_rankedOrder (compares : key.Compares a b) :
    Selection.orderBy nulls key a b =
      Value.rankedOrder nulls key.direction (key.valueIn a) (key.valueIn b) := by
  obtain ⟨x, y, hx, hy, comparable⟩ := compares
  simp only [Selection.orderBy, valueIn, Snapshot.lookup_eq_ok.mp hx, Snapshot.lookup_eq_ok.mp hy,
    Value.orderValues_eq_rankedOrder comparable, Option.getD_some]

end SortKey

namespace Selection

/-- The first snapshot comes before the second by the first key by which they differ. -/
inductive Before (nulls : NullPlacement) : List SortKey → Snapshot → Snapshot → Prop
  | here {key : SortKey} {rest : List SortKey} {a b : Snapshot} :
      key.Precedes nulls a b → Before nulls (key :: rest) a b
  | later {key : SortKey} {rest : List SortKey} {a b : Snapshot} :
      key.Ties a b → Before nulls rest a b → Before nulls (key :: rest) a b

/-- The snapshots tie by every key. -/
def Tied (keys : List SortKey) (a b : Snapshot) : Prop :=
  ∀ key ∈ keys, key.Ties a b

section Order

variable {nulls : NullPlacement} {keys : List SortKey} {a b : Snapshot}

theorem Tied.symm (tied : Tied keys a b) : Tied keys b a :=
  fun key among => (tied key among).symm

theorem Tied.self (tied : Tied keys a b) : Tied keys a a :=
  fun key among => (tied key among).self

theorem Before.not_tied (before : Before nulls keys a b) : ¬ Tied keys a b := by
  intro tied
  induction before with
  | here precedes => exact precedes.not_ties (tied _ List.mem_cons_self)
  | later _ _ ih => exact ih fun key among => tied key (List.mem_cons_of_mem _ among)

theorem Before.asymm (forth : Before nulls keys a b) : ¬ Before nulls keys b a := by
  intro back
  induction forth with
  | here precedes =>
    cases back with
    | here precedes' => exact precedes.asymm precedes'
    | later ties _ => exact precedes.not_ties ties.symm
  | later ties _ ih =>
    cases back with
    | here precedes => exact precedes.not_ties ties.symm
    | later _ before => exact ih before

theorem order_eq_eq (compares : ∀ key ∈ keys, key.Compares a b) :
    order nulls keys a b = .eq ↔ Tied keys a b := by
  induction keys with
  | nil => simp [order, Tied]
  | cons key rest ih =>
    rw [List.forall_mem_cons] at compares
    simp only [order, Ordering.then_eq_eq, SortKey.orderBy_eq_eq compares.1, ih compares.2, Tied,
      List.forall_mem_cons]

theorem order_eq_lt (compares : ∀ key ∈ keys, key.Compares a b) :
    order nulls keys a b = .lt ↔ Before nulls keys a b := by
  induction keys with
  | nil => exact ⟨nofun, nofun⟩
  | cons key rest ih =>
    rw [List.forall_mem_cons] at compares
    simp only [order, Ordering.then_eq_lt, SortKey.orderBy_eq_lt compares.1,
      SortKey.orderBy_eq_eq compares.1, ih compares.2]
    constructor
    · rintro (precedes | ⟨ties, before⟩)
      · exact .here precedes
      · exact .later ties before
    · rintro (precedes | ⟨ties, before⟩)
      · exact Or.inl precedes
      · exact Or.inr ⟨ties, before⟩

/-- The ranked orders of the keys, one after another. -/
def rankedBy (nulls : NullPlacement) : List SortKey → Snapshot → Snapshot → Ordering
  | [] => fun _ _ => .eq
  | key :: rest =>
    compareLex (fun a b => Value.rankedOrder nulls key.direction (key.valueIn a) (key.valueIn b))
      (rankedBy nulls rest)

instance (nulls : NullPlacement) (keys : List SortKey) :
    Std.TransCmp (rankedBy nulls keys) := by
  induction keys with
  | nil => exact { eq_swap := rfl, isLE_trans := fun _ _ => rfl }
  | cons key rest ih =>
    have first : Std.TransCmp fun a b : Snapshot =>
        Value.rankedOrder nulls key.direction (key.valueIn a) (key.valueIn b) :=
      { eq_swap := Std.OrientedCmp.eq_swap, isLE_trans := Std.TransCmp.isLE_trans }
    exact inferInstanceAs (Std.TransCmp (compareLex _ (rankedBy nulls rest)))

theorem order_eq_rankedBy (compares : ∀ key ∈ keys, key.Compares a b) :
    order nulls keys a b = rankedBy nulls keys a b := by
  induction keys with
  | nil => rfl
  | cons key rest ih =>
    rw [List.forall_mem_cons] at compares
    simp only [order, rankedBy, compareLex, SortKey.orderBy_eq_rankedOrder compares.1,
      ih compares.2]

theorem order_isLE (compares : ∀ key ∈ keys, key.Compares a b) :
    (order nulls keys a b).isLE = true ↔ Before nulls keys a b ∨ Tied keys a b := by
  rw [← order_eq_lt compares, ← order_eq_eq compares, Ordering.isLE_iff_eq_lt_or_eq_eq]

end Order

variable {snapshots : Array Snapshot} {nulls : NullPlacement} {keys : List SortKey}
  {selection sorted : Selection snapshots}

/-- Every sort key has a value at every selected position, and these values compare. -/
def Sortable (keys : List SortKey) (selection : Selection snapshots) : Prop :=
  ∀ i ∈ selection, ∀ j ∈ selection, ∀ key ∈ keys, key.Compares (snapshotAt i) (snapshotAt j)

theorem problem?_eq_none_of_problems (none_found : problems keys selection = [])
    {i : Fin snapshots.size} (mem : i ∈ selection) {key : SortKey} (among : key ∈ keys) :
    problem? selection key.target i = none := by
  have at_i := List.flatMap_eq_nil_iff.mp none_found i (List.mem_finRange i)
  rw [if_pos (List.contains_iff_mem.mpr mem)] at at_i
  exact List.filterMap_eq_nil_iff.mp at_i key among

/-- A position without a problem has a value. It is null, or has an order to the first value of
the selection that is not. -/
theorem value_of_problem?_eq_none {target : Reference} {i : Fin snapshots.size}
    (mem : i ∈ selection) (none_found : problem? selection target i = none) :
    ∃ x, (snapshotAt i).lookup target = .ok x ∧ (x.isNull = false →
      ∃ first ordering, firstValue? target selection = some first ∧
        first.order x = .ok ordering) := by
  unfold problem? at none_found
  cases found : (snapshotAt i).lookup target with
  | error e => simp only [found, reduceCtorEq] at none_found
  | ok x =>
    refine ⟨x, rfl, fun notNull => ?_⟩
    cases reference : firstValue? target selection with
    | none =>
      have absent := List.findSome?_eq_none_iff.mp reference i mem
      simp only [Snapshot.lookup_eq_ok.mp found, Option.filter_some, notNull, Bool.not_false,
        if_true, reduceCtorEq] at absent
    | some first =>
      cases compared : first.order x with
      | error e =>
        simp only [found, reference, notNull, compared, Bool.false_eq_true, if_false,
          reduceCtorEq] at none_found
      | ok ordering => exact ⟨first, ordering, rfl, compared⟩

theorem sortable_of_problems (none_found : problems keys selection = []) :
    Sortable keys selection := by
  intro i hi j hj key among
  obtain ⟨x, hx, orderX⟩ :=
    value_of_problem?_eq_none hi (problem?_eq_none_of_problems none_found hi among)
  obtain ⟨y, hy, orderY⟩ :=
    value_of_problem?_eq_none hj (problem?_eq_none_of_problems none_found hj among)
  refine ⟨x, y, hx, hy, ?_⟩
  cases nullX : x.isNull with
  | true =>
    cases nullY : y.isNull with
    | true =>
      rw [Value.eq_null_of_isNull nullX, Value.eq_null_of_isNull nullY]
      exact .nulls
    | false =>
      rw [Value.eq_null_of_isNull nullX]
      exact .nullLeft nullY
  | false =>
    cases nullY : y.isNull with
    | true =>
      rw [Value.eq_null_of_isNull nullY]
      exact .nullRight nullX
    | false =>
      obtain ⟨first, ordering, reference, compared⟩ := orderX nullX
      obtain ⟨first', ordering', reference', compared'⟩ := orderY nullY
      cases reference.symm.trans reference'
      exact Value.comparable_of_order compared compared'

theorem sort_eq_ok : sort nulls keys selection = .ok sorted ↔
    problems keys selection = [] ∧ sorted = selection.mergeSort fun i j =>
      (order nulls keys (snapshotAt i) (snapshotAt j)).isLE := by
  cases found : problems keys selection with
  | nil =>
    simp only [sort, sortInPlace, found, true_and, Except.ok.injEq, eq_comm]
  | cons e rest =>
    simp only [sort, sortInPlace, found, reduceCtorEq, false_and]

/-- A selection without problems is sorted by ranks that have the same order. -/
theorem sort_of_ranked {rank : Fin snapshots.size → Nat} (none_found : problems keys selection = [])
    (ranks : ∀ i j, (order nulls keys (snapshotAt i) (snapshotAt j)).isLE =
      decide (rank i ≤ rank j))
    (ranked : sorted = selection.mergeSort fun i j => rank i ≤ rank j) :
    sort nulls keys selection = .ok sorted := by
  refine sort_eq_ok.mpr ⟨none_found, ?_⟩
  simp only [ranks]
  exact ranked

/-- What sorting makes of a selection. -/
structure SortedFrom (nulls : NullPlacement) (keys : List SortKey)
    (selection sorted : Selection snapshots) : Prop where
  perm : sorted.Perm selection
  ordered : sorted.Pairwise fun i j =>
    Before nulls keys (snapshotAt i) (snapshotAt j) ∨ Tied keys (snapshotAt i) (snapshotAt j)
  /-- Positions that tie with each other keep their order. -/
  stable : ∀ run : Selection snapshots, run.Sublist selection →
    run.Pairwise (fun i j => Tied keys (snapshotAt i) (snapshotAt j)) → run.Sublist sorted

/-- On a sortable selection the sort may as well use the ranked orders, which compare any two
snapshots. -/
theorem mergeSort_order (sortable : Sortable keys selection) :
    (selection.mergeSort fun i j => (order nulls keys (snapshotAt i) (snapshotAt j)).isLE) =
      selection.mergeSort fun i j => (rankedBy nulls keys (snapshotAt i) (snapshotAt j)).isLE := by
  have same := List.map_mergeSort (f := id)
    (r := fun i j => (order nulls keys (snapshotAt i) (snapshotAt j)).isLE)
    (s := fun i j => (rankedBy nulls keys (snapshotAt i) (snapshotAt j)).isLE) (l := selection)
    fun i hi j hj => congrArg Ordering.isLE (order_eq_rankedBy (sortable i hi j hj))
  simpa only [List.map_id] using same

theorem mergeSort_sortedFrom (sortable : Sortable keys selection) :
    SortedFrom nulls keys selection
      (selection.mergeSort fun i j => (order nulls keys (snapshotAt i) (snapshotAt j)).isLE) := by
  let le (i j : Fin snapshots.size) : Bool :=
    (rankedBy nulls keys (snapshotAt i) (snapshotAt j)).isLE
  have trans : ∀ i j k, le i j = true → le j k = true → le i k = true :=
    fun _ _ _ => Std.TransCmp.isLE_trans
  have total : ∀ i j, (le i j || le j i) = true := by
    intro i j
    have swaps : rankedBy nulls keys (snapshotAt j) (snapshotAt i) =
        (rankedBy nulls keys (snapshotAt i) (snapshotAt j)).swap := Std.OrientedCmp.eq_swap
    simp only [le, swaps]
    cases rankedBy nulls keys (snapshotAt i) (snapshotAt j) <;> rfl
  have le_iff {i j : Fin snapshots.size} (hi : i ∈ selection) (hj : j ∈ selection) :
      le i j = true ↔ Before nulls keys (snapshotAt i) (snapshotAt j) ∨
        Tied keys (snapshotAt i) (snapshotAt j) := by
    have compares := sortable i hi j hj
    rw [← order_isLE compares, order_eq_rankedBy compares]
  have perm : (selection.mergeSort le).Perm selection := List.mergeSort_perm selection le
  -- `order` compares only what is selected; the facts about sorting ask for more.
  rw [mergeSort_order sortable]
  refine ⟨perm, ?_, fun run sub tied => ?_⟩
  · have pairs : (selection.mergeSort le).Pairwise fun i j => le i j = true :=
      List.pairwise_mergeSort trans total selection
    exact pairs.imp_of_mem fun hi hj => (le_iff (perm.mem_iff.mp hi) (perm.mem_iff.mp hj)).mp
  · have pairs : run.Pairwise fun i j => le i j = true :=
      tied.imp_of_mem fun hi hj tie => (le_iff (sub.subset hi) (sub.subset hj)).mpr (Or.inr tie)
    exact List.sublist_mergeSort trans total pairs sub

/-- Picked positions that all tie are picked in the same order before and after. -/
theorem SortedFrom.filter_eq (sorts : SortedFrom nulls keys selection sorted)
    {picked : Fin snapshots.size → Bool}
    (tied : ∀ i j, picked i = true → picked j = true → Tied keys (snapshotAt i) (snapshotAt j)) :
    List.filter picked sorted = List.filter picked selection := by
  have run : (List.filter picked selection).Sublist sorted := by
    refine sorts.stable _ List.filter_sublist ?_
    rw [List.pairwise_iff_forall_sublist]
    intro i j sub
    have hi : i ∈ List.filter picked selection := sub.subset (by simp)
    have hj : j ∈ List.filter picked selection := sub.subset (by simp)
    exact tied i j (List.mem_filter.mp hi).2 (List.mem_filter.mp hj).2
  have within : (List.filter picked selection).Sublist (List.filter picked sorted) := by
    simpa only [List.filter_filter, Bool.and_self] using run.filter picked
  exact (within.eq_of_length (sorts.perm.filter picked).length_eq.symm).symm

/-- Two positions that tie are selected in the same turns before and after. Either may be selected
more than once. -/
theorem SortedFrom.filter_pair (sorts : SortedFrom nulls keys selection sorted)
    {i j : Fin snapshots.size} (tied : Tied keys (snapshotAt i) (snapshotAt j)) :
    List.filter (fun k => k == i || k == j) sorted =
      List.filter (fun k => k == i || k == j) selection := by
  refine sorts.filter_eq fun k l hk hl => ?_
  rw [Bool.or_eq_true, beq_iff_eq, beq_iff_eq] at hk hl
  rcases hk with rfl | rfl <;> rcases hl with rfl | rfl
  · exact tied.self
  · exact tied
  · exact tied.symm
  · exact tied.symm.self

/-- Ties of a sorted selection stand in the order in which they were selected. -/
theorem SortedFrom.sublist_of_tied (sorts : SortedFrom nulls keys selection sorted)
    {i j : Fin snapshots.size} (sub : [i, j].Sublist sorted)
    (tied : Tied keys (snapshotAt i) (snapshotAt j)) : [i, j].Sublist selection := by
  -- The pair alone need not be all of `i` and `j`, which may be selected more than once.
  have pair := sub.filter fun k => k == i || k == j
  rw [sorts.filter_pair tied] at pair
  have both : List.filter (fun k => k == i || k == j) [i, j] = [i, j] := by
    simp only [List.filter_cons, List.filter_nil, beq_self_eq_true, Bool.true_or, Bool.or_true,
      if_true]
  exact (both ▸ pair).trans List.filter_sublist

theorem sort_sortedFrom (success : sort nulls keys selection = .ok sorted) :
    SortedFrom nulls keys selection sorted := by
  obtain ⟨none_found, rfl⟩ := sort_eq_ok.mp success
  exact mergeSort_sortedFrom (sortable_of_problems none_found)

/-- A sorted selection is the given one, in the order of the keys, and its ties are kept as they
were. Every selection without problems is sorted, by a comparison that is total and transitive
there and says what comes before what and what ties. -/
theorem sort_stable (nulls : NullPlacement) (keys : List SortKey)
    (selection : Selection snapshots) :
    (∀ sorted, sort nulls keys selection = .ok sorted →
      SortedFrom nulls keys selection sorted) ∧
    (problems keys selection = [] →
      (∃ sorted, sort nulls keys selection = .ok sorted) ∧
      Std.TransCmp (fun i j : { i // i ∈ selection } =>
        order nulls keys (snapshotAt i.val) (snapshotAt j.val)) ∧
      ∀ i ∈ selection, ∀ j ∈ selection,
        (order nulls keys (snapshotAt i) (snapshotAt j) = .lt ↔
          Before nulls keys (snapshotAt i) (snapshotAt j)) ∧
        (order nulls keys (snapshotAt i) (snapshotAt j) = .eq ↔
          Tied keys (snapshotAt i) (snapshotAt j))) := by
  refine ⟨fun sorted => sort_sortedFrom, fun none_found => ?_⟩
  have sortable := sortable_of_problems none_found
  refine ⟨⟨_, sort_eq_ok.mpr ⟨none_found, rfl⟩⟩, ?_, fun i hi j hj => ?_⟩
  · have ranked : (fun i j : { i // i ∈ selection } =>
        order nulls keys (snapshotAt i.val) (snapshotAt j.val)) =
          fun i j => rankedBy nulls keys (snapshotAt i.val) (snapshotAt j.val) := by
      funext i j
      exact order_eq_rankedBy (sortable i.val i.property j.val j.property)
    rw [ranked]
    exact { eq_swap := Std.OrientedCmp.eq_swap, isLE_trans := Std.TransCmp.isLE_trans }
  · have compares := sortable i hi j hj
    exact ⟨order_eq_lt compares, order_eq_eq compares⟩

/-- Snapshots by age, one of which has none, and two of which are equal. -/
def agesSample : Array Snapshot :=
  #[⟨[("a", .scalar (.int 3))], [], []⟩, ⟨[("a", .null)], [], []⟩,
    ⟨[("a", .scalar (.int 5))], [], []⟩, ⟨[("a", .scalar (.int 5))], [], []⟩]

def agesSelection (positions : List (Fin 4)) : Selection agesSample := positions

def agesKeys : List SortKey := [⟨⟨none, "a"⟩, .descending⟩]

/-- The rank of the ages, the greatest first. -/
def agesRank : Fin 4 → Nat
  | 0 => 1
  | 1 => 2
  | _ => 0

theorem ages_order : ∀ i j : Fin agesSample.size,
    (order .last agesKeys (snapshotAt i) (snapshotAt j)).isLE =
      decide (agesRank i ≤ agesRank j) := by
  decide +kernel

/-- The greatest age comes first and null still comes last. A position may be selected twice. -/
theorem sort_stable_sample :
    problems agesKeys (agesSelection [3, 0, 1, 2, 0]) = [] ∧
    sort .last agesKeys (agesSelection [3, 0, 1, 2, 0]) =
      .ok (agesSelection [3, 2, 0, 0, 1]) ∧
    SortedFrom .last agesKeys (agesSelection [3, 0, 1, 2, 0]) (agesSelection [3, 2, 0, 0, 1]) ∧
    Std.TransCmp (fun i j : { i // i ∈ agesSelection [3, 0, 1, 2, 0] } =>
      order .last agesKeys (snapshotAt i.val) (snapshotAt j.val)) := by
  have none_found : problems agesKeys (agesSelection [3, 0, 1, 2, 0]) = [] := by rfl
  have success : sort .last agesKeys (agesSelection [3, 0, 1, 2, 0]) =
      .ok (agesSelection [3, 2, 0, 0, 1]) := by
    have ranked : [3, 2, 0, 0, 1] =
        ([3, 0, 1, 2, 0] : List (Fin 4)).mergeSort fun i j => agesRank i ≤ agesRank j := by
      simp [agesRank, List.mergeSort]
    exact sort_of_ranked none_found ages_order ranked
  obtain ⟨sorts, orders⟩ := sort_stable .last agesKeys (agesSelection [3, 0, 1, 2, 0])
  exact ⟨none_found, success, sorts _ success, (orders none_found).2.1⟩

end Selection

end RecordQuery
