import RecordQuery.Proofs.Query.Stages
import RecordQuery.Proofs.Sorting.SortProblems

/-!
Sorting by several keys one at a time. A sort is stable, so what an earlier sort by a less
significant key arranged is kept where the later key ties. There is only one arrangement of a
selection that is in order and keeps ties as they were: sorting by the last key first and by the
first key last must therefore end in what sorting by all keys at once does.
-/

namespace RecordQuery

/-- Two arrangements of the same elements are one if both are in order and elements that may stand
either way around stand the same in both. -/
theorem eq_of_perm_of_filter_pair {α : Type} [DecidableEq α] {le : α → α → Prop} {xs ys : List α}
    (perm : xs.Perm ys) (ordered : xs.Pairwise le) (ordered' : ys.Pairwise le)
    (pairs : ∀ a b, le a b → le b a →
      xs.filter (fun k => k == a || k == b) = ys.filter fun k => k == a || k == b) : xs = ys := by
  induction xs generalizing ys with
  | nil => exact perm.nil_eq
  | cons x xs ih =>
    cases ys with
    | nil => exact perm.eq_nil
    | cons y ys =>
      rw [List.pairwise_cons] at ordered ordered'
      have heads : x = y := by
        rcases List.mem_cons.mp (perm.mem_iff.mp List.mem_cons_self) with same | later
        · exact same
        rcases List.mem_cons.mp (perm.mem_iff.mpr List.mem_cons_self) with same | later'
        · exact same.symm
        -- Each head stands somewhere behind the other, so they tie, and a filter keeps both in front.
        have first := pairs x y (ordered.1 y later') (ordered'.1 x later)
        simp only [List.filter_cons, beq_self_eq_true, Bool.true_or, Bool.or_true, if_true] at first
        exact (List.cons.inj first).1
      subst heads
      rw [ih ((List.perm_cons x).mp perm) ordered.2 ordered'.2 fun a b forth back => ?_]
      have whole := pairs a b forth back
      rw [List.filter_cons, List.filter_cons] at whole
      split at whole
      · exact (List.cons.inj whole).2
      · exact whole

namespace Selection

variable {snapshots : Array Snapshot} {nulls : NullPlacement} {keys rest : List SortKey}
  {key : SortKey} {selection between sorted : Selection snapshots}

/-- Whether a column can be sorted by does not depend on how the positions are arranged. -/
theorem uniform_congr (same : ∀ i, i ∈ sorted ↔ i ∈ selection) {target : Reference} :
    Uniform target sorted ↔ Uniform target selection := by
  simp only [Uniform, same]

/-! What sorting makes of a selection, without the algorithm. -/

/-- There is only one way to sort a selection. -/
theorem SortedFrom.unique {sorted' : Selection snapshots}
    (sorts : SortedFrom nulls keys selection sorted)
    (sorts' : SortedFrom nulls keys selection sorted') : sorted = sorted' := by
  refine eq_of_perm_of_filter_pair (sorts.perm.trans sorts'.perm.symm) sorts.ordered sorts'.ordered
    fun i j forth back => ?_
  have tied : Tied keys (snapshotAt i) (snapshotAt j) := by
    rcases forth with before | tied
    · rcases back with after | tied
      · exact absurd after before.asymm
      · exact absurd tied.symm before.not_tied
    · exact tied
  exact (sorts.filter_pair tied).trans (sorts'.filter_pair tied).symm

/-- A sorted selection stays as it is. -/
theorem SortedFrom.self (sorts : SortedFrom nulls keys selection sorted) :
    SortedFrom nulls keys sorted sorted :=
  ⟨.refl sorted, sorts.ordered, fun _ sub _ => sub⟩

/-- Sorting by one more key keeps, among its ties, the order by the keys behind it. -/
theorem SortedFrom.cons (sorts : SortedFrom nulls rest selection between)
    (sorts' : SortedFrom nulls [key] between sorted) :
    SortedFrom nulls (key :: rest) selection sorted := by
  refine ⟨sorts'.perm.trans sorts.perm, ?_, fun run sub tied => ?_⟩
  · rw [List.pairwise_iff_forall_sublist]
    intro i j pair
    rcases List.pairwise_iff_forall_sublist.mp sorts'.ordered pair with before | tied
    · cases before with
      | here precedes => exact Or.inl (.here precedes)
      | later _ none => cases none
    · have ties := tied key List.mem_cons_self
      have pair := sorts'.sublist_of_tied pair tied
      rcases List.pairwise_iff_forall_sublist.mp sorts.ordered pair with before | tied'
      · exact Or.inl (.later ties before)
      · exact Or.inr (List.forall_mem_cons.mpr ⟨ties, tied'⟩)
  · have tied_rest := tied.imp fun ties => (List.forall_mem_cons.mp ties).2
    refine sorts'.stable run (sorts.stable run sub tied_rest) (tied.imp fun ties => ?_)
    exact List.forall_mem_singleton.mpr (List.forall_mem_cons.mp ties).1

/-- The sort succeeds where the columns of all keys are uniform, with the one arrangement that is in
order and stable. -/
theorem sort_eq_ok_iff : sort nulls keys selection = .ok sorted ↔
    (∀ key ∈ keys, Uniform key.target selection) ∧ SortedFrom nulls keys selection sorted := by
  constructor
  · intro success
    refine ⟨fun key among => ?_, sort_sortedFrom success⟩
    by_contra mixed
    exact problems_ne_nil_iff.mpr ⟨key, among, mixed⟩ (sort_eq_ok.mp success).1
  · rintro ⟨uniform, sorts⟩
    obtain ⟨sorted', success⟩ := exists_sort_eq_ok nulls keys uniform
    rw [sorts.unique (sort_sortedFrom success), success]

theorem exists_sort_eq_ok_iff : (∃ sorted, sort nulls keys selection = .ok sorted) ↔
    ∀ key ∈ keys, Uniform key.target selection :=
  ⟨fun ⟨_, success⟩ => (sort_eq_ok_iff.mp success).1, exists_sort_eq_ok nulls keys⟩

/-- What a sort leaves can be sorted by the same columns as before. -/
theorem exists_sort_congr (sorts : SortedFrom nulls rest selection between) :
    (∃ sorted, sort nulls keys between = .ok sorted) ↔
      ∃ sorted, sort nulls keys selection = .ok sorted := by
  simp only [exists_sort_eq_ok_iff, uniform_congr fun _ => sorts.perm.mem_iff]

/-! One key at a time. -/

/-- The first key sorts what the keys behind it have sorted. -/
theorem sort_cons : sort nulls (key :: rest) selection = .ok sorted ↔
    ∃ between, sort nulls rest selection = .ok between ∧
      sort nulls [key] between = .ok sorted := by
  constructor
  · intro success
    obtain ⟨uniform, sorts⟩ := sort_eq_ok_iff.mp success
    rw [List.forall_mem_cons] at uniform
    obtain ⟨between, success_rest⟩ := exists_sort_eq_ok nulls rest uniform.2
    have sorts_rest := sort_sortedFrom success_rest
    obtain ⟨sorted', success_key⟩ := (exists_sort_congr sorts_rest).mpr
      (exists_sort_eq_ok nulls [key] (List.forall_mem_singleton.mpr uniform.1))
    have composed := sorts_rest.cons (sort_sortedFrom success_key)
    exact ⟨between, success_rest, sorts.unique composed ▸ success_key⟩
  · rintro ⟨between, success_rest, success_key⟩
    obtain ⟨uniform_rest, sorts_rest⟩ := sort_eq_ok_iff.mp success_rest
    obtain ⟨uniform_key, sorts_key⟩ := sort_eq_ok_iff.mp success_key
    refine sort_eq_ok_iff.mpr ⟨List.forall_mem_cons.mpr ⟨?_, uniform_rest⟩, sorts_rest.cons sorts_key⟩
    exact (uniform_congr fun _ => sorts_rest.perm.mem_iff).mp
      (uniform_key key List.mem_cons_self)

/-- Sorts by each key alone, by the last one first and by the first one last. -/
def sortKeyByKey (nulls : NullPlacement) :
    List SortKey → Selection snapshots → Except Error (Selection snapshots)
  | [], selection => .ok selection
  | key :: rest, selection => do sort nulls [key] (← sortKeyByKey nulls rest selection)

theorem sort_eq_ok_iff_keyByKey : sort nulls keys selection = .ok sorted ↔
    sortKeyByKey nulls keys selection = .ok sorted := by
  induction keys generalizing sorted with
  | nil => rw [sort_nil, sortKeyByKey]
  | cons key rest ih =>
    rw [sort_cons, sortKeyByKey, bind_eq_ok]
    simp only [ih]

/-- A selection can be sorted by several keys exactly if it can be by each alone. Sorting by all of
them then does the same as sorting by one after another, from the last to the first, and sorting
again changes nothing. -/
theorem sort_key_by_key (nulls : NullPlacement) (keys : List SortKey)
    (selection : Selection snapshots) :
    ((∃ sorted, sort nulls keys selection = .ok sorted) ↔
      ∀ key ∈ keys, ∃ sorted, sort nulls [key] selection = .ok sorted) ∧
    ∀ sorted, (sort nulls keys selection = .ok sorted ↔
        sortKeyByKey nulls keys selection = .ok sorted) ∧
      (sort nulls keys selection = .ok sorted → sort nulls keys sorted = .ok sorted) := by
  refine ⟨?_, fun sorted => ⟨sort_eq_ok_iff_keyByKey, fun success => ?_⟩⟩
  · simp only [exists_sort_eq_ok_iff, List.forall_mem_singleton]
  · obtain ⟨uniform, sorts⟩ := sort_eq_ok_iff.mp success
    refine sort_eq_ok_iff.mpr ⟨fun key among => ?_, sorts.self⟩
    exact (uniform_congr fun _ => sorts.perm.mem_iff).mpr (uniform key among)

/-- Snapshots by a number, one of which is null, and a text. -/
def gradesSample : Array Snapshot :=
  #[⟨[("a", .scalar (.int 2)), ("b", .scalar (.string "x"))], [], []⟩,
    ⟨[("a", .scalar (.int 1)), ("b", .scalar (.string "y"))], [], []⟩,
    ⟨[("a", .scalar (.int 2)), ("b", .scalar (.string "y"))], [], []⟩,
    ⟨[("a", .null), ("b", .scalar (.string "x"))], [], []⟩]

def gradesSelection (positions : List (Fin 4)) : Selection gradesSample := positions

def gradesKeys : List SortKey := [⟨⟨none, "a"⟩, .ascending⟩, ⟨⟨none, "b"⟩, .descending⟩]

/-- The rank of the snapshots, the least number first and among equal ones the greatest text. -/
def gradesRank : Fin 4 → Nat
  | 0 => 2
  | 1 => 0
  | 2 => 1
  | 3 => 3

theorem grades_order : ∀ i j : Fin gradesSample.size,
    (order .last gradesKeys (snapshotAt i) (snapshotAt j)).isLE =
      decide (gradesRank i ≤ gradesRank j) := by
  decide +kernel

/-- The sort by text puts 2 before 0, and the sort by number keeps them so. -/
theorem sort_key_by_key_grades :
    sort .last gradesKeys (gradesSelection [0, 3, 1, 2, 1]) =
      .ok (gradesSelection [1, 1, 2, 0, 3]) ∧
    (∀ key ∈ gradesKeys, ∃ sorted,
      sort .last [key] (gradesSelection [0, 3, 1, 2, 1]) = .ok sorted) ∧
    sortKeyByKey .last gradesKeys (gradesSelection [0, 3, 1, 2, 1]) =
      .ok (gradesSelection [1, 1, 2, 0, 3]) ∧
    sort .last gradesKeys (gradesSelection [1, 1, 2, 0, 3]) =
      .ok (gradesSelection [1, 1, 2, 0, 3]) := by
  have success : sort .last gradesKeys (gradesSelection [0, 3, 1, 2, 1]) =
      .ok (gradesSelection [1, 1, 2, 0, 3]) := by
    have ranked : [1, 1, 2, 0, 3] =
        ([0, 3, 1, 2, 1] : List (Fin 4)).mergeSort fun i j => gradesRank i ≤ gradesRank j := by
      simp [gradesRank, List.mergeSort]
    exact sort_of_ranked (by rfl) grades_order ranked
  obtain ⟨alone, outcome⟩ :=
    sort_key_by_key .last gradesKeys (gradesSelection [0, 3, 1, 2, 1])
  obtain ⟨one_by_one, again⟩ := outcome _
  exact ⟨success, alone.mp ⟨_, success⟩, one_by_one.mp success, again success⟩

end Selection

end RecordQuery
