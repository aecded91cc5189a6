import RecordQuery.Proofs.Grouping.LastOfGroup
import RecordQuery.Proofs.Sorting.RangeFilter
import RecordQuery.Proofs.Text.HexBytes
import RecordQuery.Proofs.Time.InstantText

/-!
Groups and the equality of conditions. Two values of one kind belong to one group exactly if a
condition finds them equal, with one exception: conditions compare instants to the second, and
groups tell instants apart by the part of the second too. Floats are left out, since a condition
finds no NaN equal to itself.
-/

namespace RecordQuery

/-- Both are instants, and their nanoseconds within the second differ. -/
def Scalar.DifferWithinSecond (a b : Scalar) : Prop :=
  ∃ t u, a = .time t ∧ b = .time u ∧ t.nanos ≠ u.nanos

/-- Outside floats the value of a scalar is the key of its group. -/
theorem Value.groupKey_scalar {a : Scalar} (exactKind : a.kind.isExact = true) :
    (Value.scalar a).groupKey = .scalar a := by
  cases a with
  | float x => cases exactKind
  | string _ | int _ | uint _ | bool _ | time _ | bytes _ => rfl

theorem placeOrder_eq_eq {p q : Int × String} : placeOrder p q = .eq ↔ p = q := by
  rw [placeOrder, compareLex_eq_eq, compareOn, compareOn, Std.LawfulEqCmp.compare_eq_iff_eq,
    Std.LawfulEqCmp.compare_eq_iff_eq, Prod.ext_iff]

theorem Comparison.bit_inj {a b : Bool} (same : bit a = bit b) : a = b := by
  cases a <;> cases b <;> first | rfl | cases same

theorem Text.hexBytes_inj {a b : List UInt8} (same : hexBytes a = hexBytes b) : a = b := by
  rw [← hexChars_inj, ← toList_hexBytes, same, toList_hexBytes]

/-- Scalars of one kind that have one place are the same, up to the part of a second. -/
theorem Scalar.eq_of_place {a b : Scalar} (exactKind : a.kind.isExact = true)
    (same : a.kind = b.kind) (places : a.place = b.place) (agree : ¬ a.DifferWithinSecond b) :
    a = b := by
  cases a <;> cases b <;> simp only [Scalar.kind, reduceCtorEq] at same
  case float.float => cases exactKind
  all_goals simp only [place, Prod.mk.injEq, true_and, and_true, Int.natCast_inj] at places
  case string.string => rw [places]
  case int.int => rw [Int64.toInt_inj.mp places]
  case uint.uint => rw [UInt64.toNat_inj.mp places]
  case bool.bool => rw [Comparison.bit_inj places]
  case time.time t u =>
    have parts : t.nanos = u.nanos := by
      by_contra differ
      exact agree ⟨t, u, rfl, rfl, differ⟩
    rw [Instant.eq_of_text places parts]
  case bytes.bytes => rw [Text.hexBytes_inj places]

namespace Matching

/-- A condition finds two values of one kind equal exactly if they are the same, up to the part of
a second. -/
theorem holds_eq_iff {semantics : NullSemantics} {a b : Scalar} (exactKind : a.kind.isExact = true)
    (same : a.kind = b.kind) :
    Holds semantics .eq a b ∧ ¬ a.DifferWithinSecond b ↔ a = b := by
  have equal : Holds semantics .eq a b ↔ a.place = b.place := by
    rw [← placeOrder_eq_eq]
    exact holds_ofOrdering_iff exactKind same .eq
  rw [equal]
  constructor
  · rintro ⟨places, agree⟩
    exact Scalar.eq_of_place exactKind same places agree
  · rintro rfl
    refine ⟨rfl, ?_⟩
    rintro ⟨t, u, rfl, itself, differ⟩
    exact differ (congrArg Instant.nanos (Scalar.time.inj itself))

end Matching

namespace Selection

variable {snapshots : Array Snapshot} {targets : List Reference} {target : Reference} {place : Nat}
  {i j : Fin snapshots.size} {a b : Scalar}

/-- Both positions join one group by the column at the place. -/
def Together (targets : List Reference) (place : Nat) (i j : Fin snapshots.size) : Prop :=
  ∃ key, Joins targets i (place, key) ∧ Joins targets j (place, key)

/-- The snapshot at the position has the scalar in the column. -/
def HasScalar (target : Reference) (i : Fin snapshots.size) (a : Scalar) : Prop :=
  (snapshotAt i).get? target.table target.column = some (.scalar a)

/-- By the column at a place a snapshot joins the group of its value. -/
theorem joins_iff (at_place : targets[place]? = some target) (value : HasScalar target i a)
    (exactKind : a.kind.isExact = true) {key : Value} :
    Joins targets i (place, key) ↔ key = .scalar a := by
  constructor
  · rintro ⟨target', x, at_place', found, rfl⟩
    cases at_place.symm.trans at_place'
    cases value.symm.trans found
    exact Value.groupKey_scalar exactKind
  · rintro rfl
    exact ⟨target, .scalar a, at_place, value, Value.groupKey_scalar exactKind⟩

theorem together_iff (at_place : targets[place]? = some target) (value_i : HasScalar target i a)
    (value_j : HasScalar target j b) (exactKind : a.kind.isExact = true) (same : a.kind = b.kind) :
    Together targets place i j ↔ a = b := by
  simp only [Together, joins_iff at_place value_i exactKind,
    joins_iff at_place value_j (same ▸ exactKind), exists_eq_left, Value.scalar.injEq]

theorem groupsOf_singleton (target : Reference) (s : Snapshot) : groupsOf [target] s =
    ((s.get? target.table target.column).map fun value => (0, value.groupKey)).toList := by
  cases found : s.get? target.table target.column <;> simp [groupsOf, found]

/-- By one column a position joins at most one group. -/
theorem Joins.unique {g h : Group} (joins_g : Joins [target] i g) (joins_h : Joins [target] i h) :
    g = h := by
  rw [← mem_groupsOf, groupsOf_singleton, Option.mem_toList] at joins_g joins_h
  exact Option.some.inj (joins_g.symm.trans joins_h)

/-- The last position of a group is the only one of it that grouping by one column keeps. -/
theorem eq_of_together {selection : Selection snapshots} (kept_i : i ∈ group [target] selection)
    (kept_j : j ∈ group [target] selection) (together : Together [target] 0 i j) : i = j := by
  obtain ⟨key, joins_i, joins_j⟩ := together
  have last {k : Fin snapshots.size} (kept : k ∈ group [target] selection)
      (joins : Joins [target] k (0, key)) : LastOf [target] selection (0, key) k := by
    obtain ⟨g, lastOf⟩ := (mem_group_iff (List.cons_ne_nil target [])).mp kept
    rwa [lastOf.joins.unique joins] at lastOf
  exact (last kept_i joins_i).unique (last kept_j joins_j)

/-- Two positions join one group by a column exactly if a condition finds the values that they have
there equal, and these are no instants whose nanoseconds within the second differ. So of the
positions that grouping by the column keeps no two have values that a condition finds equal, unless
these are instants whose nanoseconds within the second differ. -/
theorem groups_by_equality (semantics : NullSemantics)
    (value_i : HasScalar target i a) (value_j : HasScalar target j b)
    (exactKind : a.kind.isExact = true) (same : a.kind = b.kind) :
    (∀ targets place, targets[place]? = some target → (Together targets place i j ↔
      Matching.Holds semantics .eq a b ∧ ¬ a.DifferWithinSecond b)) ∧
    ∀ selection : Selection snapshots, i ∈ group [target] selection →
      j ∈ group [target] selection → i ≠ j → Matching.Holds semantics .eq a b →
      a.DifferWithinSecond b := by
  have together (targets : List Reference) (place : Nat) (here : targets[place]? = some target) :
      Together targets place i j ↔
        Matching.Holds semantics .eq a b ∧ ¬ a.DifferWithinSecond b := by
    rw [together_iff here value_i value_j exactKind same, Matching.holds_eq_iff exactKind same]
  refine ⟨together, fun selection kept_i kept_j differ holds => ?_⟩
  by_contra agree
  exact differ (eq_of_together kept_i kept_j ((together [target] 0 rfl).mpr ⟨holds, agree⟩))

/-- Arrivals at the start of 1970, and twice half a second later. -/
def arrivals : Array Snapshot :=
  #[⟨[("at", .scalar (.time ⟨0, 0⟩))], [], []⟩,
    ⟨[("at", .scalar (.time ⟨0, 500000000⟩))], [], []⟩,
    ⟨[("at", .scalar (.time ⟨0, 500000000⟩))], [], []⟩]

def arrival (n : Fin 3) : Fin arrivals.size := n

def arrivalColumn : Reference := ⟨none, "at"⟩

/-- The two later arrivals are of one group, and a condition finds them equal. -/
theorem groups_by_equality_arrivals :
    HasScalar arrivalColumn (arrival 1) (.time ⟨0, 500000000⟩) ∧
    HasScalar arrivalColumn (arrival 2) (.time ⟨0, 500000000⟩) ∧
    Together [arrivalColumn] 0 (arrival 1) (arrival 2) ∧
    Matching.Holds .strict .eq (.time ⟨0, 500000000⟩) (.time ⟨0, 500000000⟩) := by
  have value_1 : HasScalar arrivalColumn (arrival 1) (.time ⟨0, 500000000⟩) := rfl
  have value_2 : HasScalar arrivalColumn (arrival 2) (.time ⟨0, 500000000⟩) := rfl
  have together : Together [arrivalColumn] 0 (arrival 1) (arrival 2) :=
    ⟨_, ⟨_, _, rfl, rfl, rfl⟩, ⟨_, _, rfl, rfl, rfl⟩⟩
  obtain ⟨iff_equal, -⟩ := groups_by_equality .strict value_1 value_2 rfl rfl
  exact ⟨value_1, value_2, together, ((iff_equal [arrivalColumn] 0 rfl).mp together).1⟩

/-- A condition finds arrivals of one second equal, but they are of different groups, and grouping
keeps both. -/
theorem group_keeps_one_second :
    Matching.Holds .strict .eq (.time ⟨0, 0⟩) (.time ⟨0, 500000000⟩) ∧
    ¬ Together [arrivalColumn] 0 (arrival 0) (arrival 1) ∧
    group [arrivalColumn] [arrival 0, arrival 1] = [arrival 0, arrival 1] := by
  refine ⟨by rfl, fun together => ?_, by decide +kernel⟩
  have value_0 : HasScalar arrivalColumn (arrival 0) (.time ⟨0, 0⟩) := rfl
  have value_1 : HasScalar arrivalColumn (arrival 1) (.time ⟨0, 500000000⟩) := rfl
  have here : [arrivalColumn][0]? = some arrivalColumn := rfl
  exact absurd ((together_iff here value_0 value_1 rfl rfl).mp together) (by decide)

end Selection

end RecordQuery
