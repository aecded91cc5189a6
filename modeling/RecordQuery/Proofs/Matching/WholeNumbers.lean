import Mathlib.Algebra.Group.Int.Defs
import RecordQuery.Proofs.Matching.Membership
import RecordQuery.Proofs.Number.IntegerText

/-!
Whole numbers against literals. A signed or unsigned value compares with a literal as their numbers
do, however the literal writes its number: as a signed or an unsigned one or as decimal text. A
number that values of the kind cannot hold is a mismatch; it is never brought into their range.
-/

namespace RecordQuery

/-- Values of the kind can hold the whole number. -/
def Kind.CanHold : Kind → Int → Prop
  | .int, n => -2 ^ 63 ≤ n ∧ n < 2 ^ 63
  | .uint, n => 0 ≤ n ∧ n < 2 ^ 64
  | _, _ => False

theorem int64?_eq_none {n : Int} : int64? n = none ↔ ¬ Kind.int.CanHold n := by
  have least : Int64.minValue.toInt = -2 ^ 63 := rfl
  have greatest : Int64.maxValue.toInt = 2 ^ 63 - 1 := rfl
  simp only [int64?, ite_eq_right_iff, reduceCtorEq, imp_false, Kind.CanHold]
  omega

theorem uint64?_eq_none {n : Int} : uint64? n = none ↔ ¬ Kind.uint.CanHold n := by
  simp only [uint64?, ite_eq_right_iff, reduceCtorEq, imp_false, Kind.CanHold]
  omega

namespace Scalar

/-- The scalar is of a kind of whole numbers, and holds the number. -/
inductive IsWhole : Scalar → Int → Prop
  | int (n : Int64) : IsWhole (.int n) n.toInt
  | uint (n : UInt64) : IsWhole (.uint n) n.toNat

/-- The literal writes a whole number: as one or in decimal text. -/
inductive Writes : Scalar → Int → Prop
  | whole {literal : Scalar} {n : Int} : IsWhole literal n → Writes literal n
  | text (n : Int) : Writes (.string (toString n)) n

variable {s literal : Scalar} {a n : Int}

theorem Writes.asInt? (writes : literal.Writes n) : literal.asInt? = int64? n := by
  cases writes with
  | whole whole =>
    cases whole with
    | int n => exact (int64?_eq_some.mpr rfl).symm
    | uint n => rfl
  | text n => exact readInt64?_toString_int n

theorem Writes.asUInt? (writes : literal.Writes n) : literal.asUInt? = uint64? n := by
  cases writes with
  | whole whole =>
    cases whole with
    | int n => rfl
    | uint n => exact (uint64?_eq_some.mpr rfl).symm
  | text n => exact readUInt64?_toString_int n

end Scalar

/-- Values of the kind stand for whole numbers. They compare as these do, and a literal is read as
the value that stands for its number. -/
structure Reading.Exact (reading : Reading) (kind : Kind) (number : reading.α → Int) : Prop where
  compares : ∀ x y, reading.by'.compare? x y = some (compare (number x) (number y))
  reads : ∀ literal n, literal.Writes n → ∀ x, reading.read? literal = some x → number x = n
  refuses_iff : ∀ literal n, literal.Writes n → (reading.read? literal = none ↔ ¬ kind.CanHold n)

theorem Scalar.IsWhole.exact {s : Scalar} {a : Int} (whole : s.IsWhole a) :
    ∃ number, s.reading.Exact s.kind number ∧ number s.reading.value = a := by
  cases whole with
  | int a =>
    refine ⟨Int64.toInt, ⟨fun _ _ => rfl, fun literal n writes x reads => ?_,
      fun literal n writes => ?_⟩, rfl⟩
    · exact int64?_eq_some.mp (writes.asInt?.symm.trans reads)
    · exact (iff_of_eq (congrArg (· = none) writes.asInt?)).trans int64?_eq_none
  | uint a =>
    refine ⟨fun n : UInt64 => n.toNat, ⟨fun x y => ?_, fun literal n writes x reads => ?_,
      fun literal n writes => ?_⟩, rfl⟩
    · exact congrArg some (compare_natCast x.toNat y.toNat).symm
    · exact uint64?_eq_some.mp (writes.asUInt?.symm.trans reads)
    · exact (iff_of_eq (congrArg (· = none) writes.asUInt?)).trans uint64?_eq_none

namespace Operator

/-- What an operator that looks at the order says of two whole numbers. -/
def Relates : Operator → Int → Int → Prop
  | .eq, a, n => a = n
  | .ne, a, n => a ≠ n
  | .gt, a, n => n < a
  | .ge, a, n => n ≤ a
  | .lt, a, n => a < n
  | .le, a, n => a ≤ n
  | _, _, _ => False

theorem holdsFor?_compare {op : Operator} {a n : Int} {answer : Bool}
    (decides : op.holdsFor? (compare a n) = some answer) : answer = true ↔ op.Relates a n := by
  cases op with
  | eq | ne | gt | ge | lt | le =>
    cases decides
    simp only [Relates, beq_iff_eq, bne_iff_ne, ne_eq, Int.compare_eq_eq, Int.compare_eq_lt,
      Int.compare_eq_gt, Int.not_lt]
  | isIn | notIn | isNull | isNotNull | contains | startsWith | endsWith => cases decides

end Operator

namespace Matching

variable {op : Operator} {s : Scalar} {a : Int} {number : s.reading.α → Int}

theorem exists_read (exactly : s.reading.Exact s.kind number) {literal : Scalar} {n : Int}
    (writes : literal.Writes n) (held : s.kind.CanHold n) :
    ∃ x, s.reading.read? literal = some x ∧ number x = n := by
  have readable : s.reading.read? literal ≠ none := fun unread =>
    (exactly.refuses_iff literal n writes).mp unread held
  obtain ⟨x, reads⟩ := Option.ne_none_iff_exists'.mp readable
  exact ⟨x, reads, exactly.reads literal n writes x reads⟩

/-- An operator that looks at the order says of the value and one literal what it says of their
numbers. -/
theorem scalarHolds_whole (exactly : s.reading.Exact s.kind number)
    (among : op ∈ Operator.orderings) {literal : Scalar} {n : Int} (writes : literal.Writes n)
    (held : s.kind.CanHold n) : ∃ answer, scalarHolds op s [literal] = .ok answer ∧
      (answer = true ↔ op.Relates (number s.reading.value) n) := by
  obtain ⟨x, reads, rfl⟩ := exists_read exactly writes held
  obtain ⟨answer, decides⟩ := Operator.exists_holdsFor? among
    (compare (number s.reading.value) (number x))
  refine ⟨answer, scalarHolds_eq_ok.mpr ⟨[x], .cons reads .nil, ?_⟩, ?_⟩
  · exact Comparison.holds_of_compare (exactly.compares _ _) decides
  · exact Operator.holdsFor?_compare decides

/-! Literals in a list, with the numbers that they write. -/

variable {members : List (Scalar × Int)}

theorem map_number_eq (exactly : s.reading.Exact s.kind number)
    (write : ∀ m ∈ members, m.1.Writes m.2) {xs : List s.reading.α}
    (reads : List.Forall₂ (fun literal x => s.reading.read? literal = some x)
      (members.map Prod.fst) xs) : xs.map number = members.map Prod.snd := by
  induction members generalizing xs with
  | nil =>
    cases reads
    rfl
  | cons m rest ih =>
    rw [List.forall_mem_cons] at write
    obtain ⟨x, xs, first, others, rfl⟩ := List.forall₂_cons_left_iff.mp reads
    rw [List.map_cons, List.map_cons, exactly.reads m.1 m.2 write.1 x first, ih write.2 others]

/-- Membership among the values is that among their numbers. -/
theorem any_same_eq (exactly : s.reading.Exact s.kind number) (v : s.reading.α)
    (xs : List s.reading.α) :
    (xs.any fun x => s.reading.by'.same x v) = decide (number v ∈ xs.map number) := by
  have same_iff (x : s.reading.α) : s.reading.by'.same x v = true ↔ number x = number v := by
    rw [Comparison.same_iff, exactly.compares, Option.some.injEq, Int.compare_eq_eq]
  rw [Bool.eq_iff_iff, decide_eq_true_iff, List.any_eq_true, List.mem_map]
  simp only [same_iff]

/-- If the kind can hold the numbers of all literals, a comparison with them decides. -/
theorem exists_scalarHolds_members (exactly : s.reading.Exact s.kind number)
    (write : ∀ m ∈ members, m.1.Writes m.2) (held : ∀ m ∈ members, s.kind.CanHold m.2)
    (op : Operator) : ∃ xs, xs.map number = members.map Prod.snd ∧
      scalarHolds op s (members.map Prod.fst) =
        .ok (s.reading.by'.holds op s.reading.value xs) := by
  cases outcome : scalarHolds op s (members.map Prod.fst) with
  | error e =>
    obtain ⟨_, mem, unread⟩ := (exists_scalarHolds_eq_error op).mp ⟨e, outcome⟩
    obtain ⟨m, among, rfl⟩ := List.mem_map.mp mem
    exact absurd (held m among) ((exactly.refuses_iff m.1 m.2 (write m among)).mp unread)
  | ok answer =>
    obtain ⟨xs, reads, rfl⟩ := scalarHolds_eq_ok.mp outcome
    exact ⟨xs, map_number_eq exactly write reads, rfl⟩

/-- The first literal whose number the kind cannot hold is reported, whatever stands behind it. -/
theorem scalarHolds_beyond (exactly : s.reading.Exact s.kind number)
    (write : ∀ m ∈ members, m.1.Writes m.2) (held : ∀ m ∈ members, s.kind.CanHold m.2)
    {literal : Scalar} {n : Int} (writes : literal.Writes n) (beyond : ¬ s.kind.CanHold n)
    (op : Operator) (rest : List Scalar) :
    scalarHolds op s (members.map Prod.fst ++ literal :: rest) =
      .error (unreadable op s.kind literal) := by
  refine scalarHolds_eq_error.mpr ⟨_, literal, rest, rfl, fun l mem unread => ?_,
    (exactly.refuses_iff literal n writes).mpr beyond, rfl⟩
  obtain ⟨m, among, rfl⟩ := List.mem_map.mp mem
  exact (exactly.refuses_iff m.1 m.2 (write m among)).mp unread (held m among)

/-- How a value that is a whole number compares with literals that write whole numbers. -/
structure ComparesExactly (semantics : NullSemantics) (s : Scalar) (a : Int) : Prop where
  /-- An operator that looks at the order decides by the two numbers. -/
  ordered : ∀ op ∈ Operator.orderings, ∀ literal n, literal.Writes n → s.kind.CanHold n →
    ∃ answer, valueHolds semantics op (.scalar s) (some (.single literal)) = .ok answer ∧
      (answer = true ↔ op.Relates a n)
  /-- A number beyond the range of the kind is a mismatch. -/
  refused : ∀ op ∈ Operator.orderings, ∀ literal n, literal.Writes n → ¬ s.kind.CanHold n →
    valueHolds semantics op (.scalar s) (some (.single literal)) =
      .error (unreadable op s.kind literal)
  /-- Membership in a list is that of the number among the numbers. -/
  member : ∀ members : List (Scalar × Int), (∀ m ∈ members, m.1.Writes m.2) →
    (∀ m ∈ members, s.kind.CanHold m.2) →
    valueHolds semantics .isIn (.scalar s) (some (.list (members.map Prod.fst))) =
        .ok (decide (a ∈ members.map Prod.snd)) ∧
      valueHolds semantics .notIn (.scalar s) (some (.list (members.map Prod.fst))) =
        .ok (decide (a ∉ members.map Prod.snd))
  /-- The first number of a list that is beyond the range is a mismatch, wherever the others
  are. -/
  memberRefused : ∀ op ∈ [Operator.isIn, .notIn], ∀ members : List (Scalar × Int),
    (∀ m ∈ members, m.1.Writes m.2) → (∀ m ∈ members, s.kind.CanHold m.2) →
    ∀ literal n, literal.Writes n → ¬ s.kind.CanHold n → ∀ rest,
    valueHolds semantics op (.scalar s)
        (some (.list (members.map Prod.fst ++ literal :: rest))) =
      .error (unreadable op s.kind literal)

/-- A signed or unsigned value compares with literals as the whole numbers do that they write, be
it as signed ones, as unsigned ones or as texts. Where values of the kind cannot hold a number, the
answer is a mismatch, and never that about another number. -/
theorem valueHolds_whole (semantics : NullSemantics) {s : Scalar} {a : Int}
    (whole : s.IsWhole a) : ComparesExactly semantics s a := by
  obtain ⟨number, exactly, rfl⟩ := whole.exact
  refine ⟨fun op among literal n writes held => ?_, fun op among literal n writes beyond => ?_,
    fun members write held => ⟨?_, ?_⟩,
    fun op membership members write held literal n writes beyond rest => ?_⟩
  · rw [valueHolds_single semantics op (Operator.isNullCheck_of_orderings among)]
    exact scalarHolds_whole exactly among writes held
  · rw [valueHolds_single semantics op (Operator.isNullCheck_of_orderings among)]
    exact scalarHolds_eq_error.mpr ⟨[], literal, [], rfl, nofun,
      (exactly.refuses_iff literal n writes).mpr beyond, rfl⟩
  · obtain ⟨xs, numbers, decides⟩ := exists_scalarHolds_members exactly write held .isIn
    rw [valueHolds_membership semantics rfl, Operand.literals, decides, Comparison.holds,
      any_same_eq exactly, numbers]
  · obtain ⟨xs, numbers, decides⟩ := exists_scalarHolds_members exactly write held .notIn
    rw [valueHolds_membership semantics rfl, Operand.literals, decides, Comparison.holds,
      any_same_eq exactly, numbers, decide_not]
  · rw [valueHolds_membership semantics (takesList_of_mem membership)]
    exact scalarHolds_beyond exactly write held writes beyond op rest

/-- The least signed value is less than the greatest, given as text, and does not compare with the
unsigned number one greater, not even in a list behind itself. -/
theorem valueHolds_whole_least :
    Scalar.IsWhole (.int (-9223372036854775808)) (-9223372036854775808) ∧
    (∃ answer, valueHolds .strict .lt (.scalar (.int (-9223372036854775808)))
        (some (.single (.string "9223372036854775807"))) = .ok answer ∧
      (answer = true ↔ Operator.lt.Relates (-9223372036854775808) 9223372036854775807)) ∧
    valueHolds .strict .lt (.scalar (.int (-9223372036854775808)))
        (some (.single (.uint 9223372036854775808))) =
      .error (unreadable .lt .int (.uint 9223372036854775808)) ∧
    valueHolds .strict .isIn (.scalar (.int (-9223372036854775808)))
        (some (.list [.string "-9223372036854775808", .uint 9223372036854775808, .bool true])) =
      .error (unreadable .isIn .int (.uint 9223372036854775808)) := by
  have whole : Scalar.IsWhole (.int (-9223372036854775808)) (-9223372036854775808) := .int _
  have exactly := valueHolds_whole .strict whole
  have greater : Scalar.Writes (.uint 9223372036854775808) 9223372036854775808 :=
    .whole (.uint _)
  have beyond : ¬ Kind.int.CanHold 9223372036854775808 := by simp [Kind.CanHold]
  have least : Kind.int.CanHold (-9223372036854775808) := by simp [Kind.CanHold]
  have text : Scalar.Writes (.string "9223372036854775807") 9223372036854775807 :=
    .text 9223372036854775807
  have leastText : Scalar.Writes (.string "-9223372036854775808") (-9223372036854775808) := by
    have written : toString (-9223372036854775808 : Int) = "-9223372036854775808" := by decide
    exact written ▸ .text _
  refine ⟨whole, exactly.ordered .lt (by decide) _ _ text ?_,
    exactly.refused .lt (by decide) _ _ greater beyond, ?_⟩
  · simp [Kind.CanHold, Scalar.kind]
  · refine exactly.memberRefused .isIn (by decide)
      [(.string "-9223372036854775808", -9223372036854775808)] ?_ ?_ _ _ greater beyond _
    · exact fun m mem => List.mem_singleton.mp mem ▸ leastText
    · exact fun m mem => List.mem_singleton.mp mem ▸ least

end Matching

end RecordQuery
