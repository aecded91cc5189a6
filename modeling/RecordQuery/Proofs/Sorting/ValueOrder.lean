import Mathlib.Order.Basic
import RecordQuery.Proofs.Order.Lexicographic
import RecordQuery.Selection

/-!
The order of values by one sort key. Nulls stand at one end whatever the direction, and other
values compare with those of their own kind. Among values that compare this order is total and
transitive, since it is the order of pairs of a number and a text.
-/

namespace RecordQuery

/-- Two scalars of one kind are ordered by these pairs. Only one part of a pair tells scalars of
one kind apart. -/
def Scalar.place : Scalar → Int × String
  | .string s => (0, s)
  | .int n => (n.toInt, "")
  | .uint n => (n.toNat, "")
  | .float x => (x.rank, "")
  | .bool b => (Comparison.bit b, "")
  | .time t => (0, t.text)
  | .bytes bs => (0, Text.hexBytes bs)

/-- The order of places, of the numbers first. -/
def placeOrder : Int × String → Int × String → Ordering :=
  compareLex (compareOn Prod.fst) (compareOn Prod.snd)

instance : Std.TransCmp placeOrder :=
  inferInstanceAs (Std.TransCmp (compareLex (compareOn Prod.fst) (compareOn Prod.snd)))

/-- Scalars of one kind compare, by their places. -/
theorem Scalar.order?_of_kind {x y : Scalar} (same : x.kind = y.kind) :
    x.order? y = some (placeOrder x.place y.place) := by
  cases x <;> cases y <;> simp only [Scalar.kind, reduceCtorEq] at same
  all_goals
    simp [Scalar.order?, Scalar.place, placeOrder, compareLex, compareOn, compare_natCast,
      Binary64.order]

theorem Scalar.order?_of_kind_ne {x y : Scalar} (differ : x.kind ≠ y.kind) :
    x.order? y = none := by
  cases x <;> cases y <;> first | rfl | exact absurd rfl differ

namespace Value

/-- By one sort key the first value comes before the second. Nulls come before all other values,
or after all of them, whatever the direction. -/
inductive Precedes (nulls : NullPlacement) (direction : Direction) : Value → Value → Prop
  | nullFirst {y : Value} : nulls = .first → y.isNull = false → Precedes nulls direction .null y
  | nullLast {x : Value} : nulls = .last → x.isNull = false → Precedes nulls direction x .null
  | less {x y : Value} : direction ≠ .descending → x.order y = .ok .lt →
      Precedes nulls direction x y
  | greater {x y : Value} : direction = .descending → x.order y = .ok .gt →
      Precedes nulls direction x y

/-- By any sort key neither value comes before the other. -/
inductive Ties : Value → Value → Prop
  | nulls : Ties .null .null
  | equal {x y : Value} : x.order y = .ok .eq → Ties x y

/-- Nulls compare with every value, other values with those that they have an order to. -/
inductive Comparable : Value → Value → Prop
  | nulls : Comparable .null .null
  | nullLeft {y : Value} : y.isNull = false → Comparable .null y
  | nullRight {x : Value} : x.isNull = false → Comparable x .null
  | ordered {x y : Value} {ordering : Ordering} : x.order y = .ok ordering → Comparable x y

/-- Values that have an order are scalars of one kind. -/
theorem order_eq_ok {x y : Value} {ordering : Ordering} :
    x.order y = .ok ordering ↔ ∃ a b, x = .scalar a ∧ y = .scalar b ∧ a.kind = b.kind ∧
      ordering = placeOrder a.place b.place := by
  constructor
  · intro success
    cases x with
    | scalar a =>
      cases y with
      | scalar b =>
        by_cases same : a.kind = b.kind
        · simp only [order, Scalar.order?_of_kind same, Except.ok.injEq] at success
          exact ⟨a, b, rfl, rfl, same, success.symm⟩
        · simp only [order, Scalar.order?_of_kind_ne same, reduceCtorEq] at success
      | null | list _ | nested _ => cases success
    | null | list _ | nested _ => cases success
  · rintro ⟨a, b, rfl, rfl, same, rfl⟩
    simp only [order, Scalar.order?_of_kind same]

/-- Two values that both have an order to a third one compare with each other. -/
theorem comparable_of_order {first x y : Value} {o o' : Ordering}
    (hx : first.order x = .ok o) (hy : first.order y = .ok o') : Comparable x y := by
  obtain ⟨a, b, rfl, rfl, sameX, -⟩ := order_eq_ok.mp hx
  obtain ⟨a', b', same, rfl, sameY, -⟩ := order_eq_ok.mp hy
  cases same
  exact .ordered (order_eq_ok.mpr ⟨b, b', rfl, rfl, sameX.symm.trans sameY, rfl⟩)

/-- Which end of the order a value stands at, nulls at one and all others at the other. -/
def nullRank (nulls : NullPlacement) (x : Value) : Nat :=
  match nulls with
  | .first => if x.isNull then 0 else 1
  | .last => if x.isNull then 1 else 0

/-- The place of a value among those of its kind. -/
def place : Value → Int × String
  | .scalar a => a.place
  | _ => (0, "")

/-- An order of all values. It ranks nulls apart and then compares places in the direction. -/
def rankedOrder (nulls : NullPlacement) (direction : Direction) : Value → Value → Ordering :=
  compareLex (compareOn (nullRank nulls)) fun x y => direction.apply (placeOrder x.place y.place)

theorem transCmp_apply (direction : Direction) :
    Std.TransCmp fun x y : Value => direction.apply (placeOrder x.place y.place) := by
  have ascending : Std.TransCmp fun x y : Value => placeOrder x.place y.place :=
    { eq_swap := Std.OrientedCmp.eq_swap, isLE_trans := Std.TransCmp.isLE_trans }
  cases direction with
  | unspecified | ascending => exact ascending
  | descending =>
    have swapped : (fun x y : Value => (placeOrder x.place y.place).swap) =
        fun x y => placeOrder y.place x.place := by
      funext x y
      exact Std.OrientedCmp.eq_swap.symm
    simp only [Direction.apply, swapped]
    exact Std.TransCmp.opposite

instance (nulls : NullPlacement) (direction : Direction) :
    Std.TransCmp (rankedOrder nulls direction) := by
  have := transCmp_apply direction
  exact inferInstanceAs (Std.TransCmp (compareLex (compareOn (nullRank nulls)) _))

@[simp]
theorem isNull_null : Value.null.isNull = true := rfl

theorem eq_null_of_isNull {x : Value} (null : x.isNull = true) : x = .null := by
  cases x with
  | null => rfl
  | scalar _ | list _ | nested _ => cases null

theorem orderValues_nullLeft {y : Value} (hy : y.isNull = false) (nulls : NullPlacement)
    (direction : Direction) :
    Selection.orderValues nulls direction .null y =
      match nulls with
      | .first => .lt
      | .last => .gt := by
  cases nulls <;> simp only [Selection.orderValues, isNull_null, hy]

theorem orderValues_nullRight {x : Value} (hx : x.isNull = false) (nulls : NullPlacement)
    (direction : Direction) :
    Selection.orderValues nulls direction x .null =
      match nulls with
      | .first => .gt
      | .last => .lt := by
  cases nulls <;> simp only [Selection.orderValues, isNull_null, hx, Ordering.swap]

/-- Values that have an order are sorted by it, in the direction. -/
theorem orderValues_of_order {x y : Value} {ordering : Ordering}
    (success : x.order y = .ok ordering) (nulls : NullPlacement) (direction : Direction) :
    Selection.orderValues nulls direction x y = direction.apply ordering := by
  obtain ⟨a, b, rfl, rfl, -, -⟩ := order_eq_ok.mp success
  simp only [Selection.orderValues, isNull, success]

/-- Where values compare, they are sorted by the ranked order. -/
theorem orderValues_eq_rankedOrder {x y : Value} (comparable : Comparable x y)
    (nulls : NullPlacement) (direction : Direction) :
    Selection.orderValues nulls direction x y = rankedOrder nulls direction x y := by
  cases comparable with
  | nulls => cases nulls <;> cases direction <;> rfl
  | nullLeft hy =>
    rw [orderValues_nullLeft hy]
    cases nulls <;> simp [rankedOrder, compareLex, compareOn, nullRank, hy] <;> rfl
  | nullRight hx =>
    rw [orderValues_nullRight hx]
    cases nulls <;> simp [rankedOrder, compareLex, compareOn, nullRank, hx] <;> rfl
  | ordered success =>
    rw [orderValues_of_order success]
    obtain ⟨a, b, rfl, rfl, -, rfl⟩ := order_eq_ok.mp success
    cases nulls <;> simp [rankedOrder, compareLex, compareOn, nullRank, isNull, place]

/-- Where values compare, the less one comes before the other. -/
theorem orderValues_eq_lt {x y : Value} (comparable : Comparable x y) {nulls : NullPlacement}
    {direction : Direction} :
    Selection.orderValues nulls direction x y = .lt ↔ Precedes nulls direction x y := by
  constructor
  · intro less
    cases comparable with
    | nulls => cases less
    | nullLeft hy =>
      rw [orderValues_nullLeft hy] at less
      cases nulls with
      | first => exact .nullFirst rfl hy
      | last => cases less
    | nullRight hx =>
      rw [orderValues_nullRight hx] at less
      cases nulls with
      | first => cases less
      | last => exact .nullLast rfl hx
    | ordered success =>
      rw [orderValues_of_order success] at less
      cases direction with
      | unspecified | ascending => exact .less nofun (less ▸ success)
      | descending => exact .greater rfl (Ordering.swap_eq_lt.mp less ▸ success)
  · intro precedes
    cases precedes with
    | nullFirst first hy => rw [orderValues_nullLeft hy, first]
    | nullLast last hx => rw [orderValues_nullRight hx, last]
    | less upward success =>
      rw [orderValues_of_order success]
      cases direction with
      | unspecified | ascending => rfl
      | descending => exact absurd rfl upward
    | greater downward success =>
      rw [orderValues_of_order success, downward]
      rfl

/-- Where values compare, the equal ones tie. -/
theorem orderValues_eq_eq {x y : Value} (comparable : Comparable x y) {nulls : NullPlacement}
    {direction : Direction} :
    Selection.orderValues nulls direction x y = .eq ↔ Ties x y := by
  constructor
  · intro equal
    cases comparable with
    | nulls => exact .nulls
    | nullLeft hy =>
      rw [orderValues_nullLeft hy] at equal
      cases nulls <;> cases equal
    | nullRight hx =>
      rw [orderValues_nullRight hx] at equal
      cases nulls <;> cases equal
    | ordered success =>
      rw [orderValues_of_order success] at equal
      cases direction with
      | unspecified | ascending => exact .equal (equal ▸ success)
      | descending => exact .equal (Ordering.swap_eq_eq.mp equal ▸ success)
  · intro ties
    cases ties with
    | nulls => rfl
    | equal success =>
      rw [orderValues_of_order success]
      cases direction <;> rfl

theorem Precedes.comparable {x y : Value} {nulls : NullPlacement} {direction : Direction}
    (precedes : Precedes nulls direction x y) : Comparable x y := by
  cases precedes with
  | nullFirst _ hy => exact .nullLeft hy
  | nullLast _ hx => exact .nullRight hx
  | less _ success | greater _ success => exact .ordered success

theorem Ties.comparable {x y : Value} (ties : Ties x y) : Comparable x y := by
  cases ties with
  | nulls => exact .nulls
  | equal success => exact .ordered success

theorem Precedes.asymm {x y : Value} {nulls : NullPlacement} {direction : Direction}
    (forth : Precedes nulls direction x y) : ¬ Precedes nulls direction y x := by
  intro back
  have less := (orderValues_eq_lt forth.comparable).mpr forth
  have greater := (orderValues_eq_lt back.comparable).mpr back
  rw [orderValues_eq_rankedOrder forth.comparable] at less
  rw [orderValues_eq_rankedOrder back.comparable, Std.OrientedCmp.gt_of_lt less] at greater
  cases greater

theorem Precedes.not_ties {x y : Value} {nulls : NullPlacement} {direction : Direction}
    (precedes : Precedes nulls direction x y) : ¬ Ties x y := by
  intro ties
  have less := (orderValues_eq_lt precedes.comparable).mpr precedes
  rw [(orderValues_eq_eq ties.comparable).mpr ties] at less
  cases less

theorem Ties.symm {x y : Value} (ties : Ties x y) : Ties y x := by
  cases ties with
  | nulls => exact .nulls
  | equal success =>
    obtain ⟨a, b, rfl, rfl, same, equal⟩ := order_eq_ok.mp success
    have back := Std.OrientedCmp.eq_symm equal.symm
    exact .equal (order_eq_ok.mpr ⟨b, a, rfl, rfl, same.symm, back.symm⟩)

/-- A value that ties with some value ties with itself. -/
theorem Ties.self {x y : Value} (ties : Ties x y) : Ties x x := by
  cases ties with
  | nulls => exact .nulls
  | equal success =>
    obtain ⟨a, b, rfl, rfl, -, -⟩ := order_eq_ok.mp success
    exact .equal (order_eq_ok.mpr ⟨a, a, rfl, rfl, rfl, Std.ReflCmp.compare_self.symm⟩)

end Value

end RecordQuery
