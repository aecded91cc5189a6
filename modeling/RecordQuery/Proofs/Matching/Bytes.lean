import RecordQuery.Proofs.Matching.Membership
import RecordQuery.Proofs.Sql.Like
import RecordQuery.Proofs.Text.HexBytes

/-!
Conditions on bytes. Bytes compare by their hexadecimal digits, which decides the lexicographic order
of the bytes and whether they begin or end with others. A condition with `contains` looks for the
digits of its operand among the digits of the value, and finds them also half a byte off the borders
of the bytes.
-/

namespace RecordQuery

/-- The literal stands for the bytes, as such or as the string that they encode. -/
inductive Scalar.StandsFor : Scalar → List UInt8 → Prop
  | bytes (e : List UInt8) : StandsFor (.bytes e) e
  | string (s : String) : StandsFor (.string s) s.toUTF8.data.toList

theorem Scalar.StandsFor.asHex? {literal : Scalar} {e : List UInt8}
    (denotes : literal.StandsFor e) : literal.asHex? = some (Text.hexBytes e) := by
  cases denotes with
  | bytes e => rfl
  | string s => rfl

namespace Matching

/-- Bytes against one literal are decided by the digits of both. -/
theorem valueHolds_bytes (semantics : NullSemantics) (a : List UInt8) {literal : Scalar}
    {e : List UInt8} (denotes : literal.StandsFor e) {op : Operator}
    (compares : op.isNullCheck = false) :
    valueHolds semantics op (.scalar (.bytes a)) (some (.single literal)) =
      .ok (Comparison.strings.holds op (Text.hexBytes a) [Text.hexBytes e]) := by
  rw [valueHolds_single semantics op compares]
  exact scalarHolds_eq_ok.mpr ⟨_, .cons denotes.asHex? .nil, rfl⟩

/-! The order of bytes. -/

theorem compare_bytes_eq_lt {a b : List UInt8} : compare a b = .lt ↔ a < b := by
  rw [compare_lists fun _ _ => rfl]
  exact compareOfLessAndEq_eq_lt

theorem compare_bytes_eq_gt {a b : List UInt8} : compare a b = .gt ↔ b < a := by
  rw [← compare_bytes_eq_lt]
  exact Std.OrientedCmp.gt_iff_lt

/-- What sorting and the operators that look at the order say of two lists of bytes: the first byte
that differs decides, and a list that ends there is less. -/
structure OrdersBytes (semantics : NullSemantics) (a b : List UInt8) : Prop where
  sorted : Value.order (.scalar (.bytes a)) (.scalar (.bytes b)) = .ok (compareOfLessAndEq a b)
  eq : valueHolds semantics .eq (.scalar (.bytes a)) (some (.single (.bytes b))) =
    .ok (decide (a = b))
  ne : valueHolds semantics .ne (.scalar (.bytes a)) (some (.single (.bytes b))) =
    .ok (decide (a ≠ b))
  lt : valueHolds semantics .lt (.scalar (.bytes a)) (some (.single (.bytes b))) =
    .ok (decide (a < b))
  ge : valueHolds semantics .ge (.scalar (.bytes a)) (some (.single (.bytes b))) =
    .ok (decide (b ≤ a))
  gt : valueHolds semantics .gt (.scalar (.bytes a)) (some (.single (.bytes b))) =
    .ok (decide (b < a))
  le : valueHolds semantics .le (.scalar (.bytes a)) (some (.single (.bytes b))) =
    .ok (decide (a ≤ b))

/-- An operator that looks at the order is decided by the order of the bytes. -/
theorem valueHolds_bytes_of_holdsFor? (semantics : NullSemantics) {a b : List UInt8} {op : Operator}
    {answer : Bool} (decides : op.holdsFor? (compare a b) = some answer)
    (compares : op.isNullCheck = false) :
    valueHolds semantics op (.scalar (.bytes a)) (some (.single (.bytes b))) = .ok answer := by
  have digits : Comparison.strings.compare? (Text.hexBytes a) (Text.hexBytes b) =
      some (compare a b) := congrArg some (Text.compare_hexBytes a b)
  rw [valueHolds_bytes semantics a (.bytes b) compares, Comparison.holds_of_compare digits decides]

/-- Bytes are sorted and compared in their lexicographic order. -/
theorem orders_bytes (semantics : NullSemantics) (a b : List UInt8) :
    OrdersBytes semantics a b := by
  have equal : (compare a b == .eq) = decide (a = b) := by
    rw [Bool.eq_iff_iff, beq_iff_eq, decide_eq_true_iff]
    exact Std.LawfulEqCmp.compare_eq_iff_eq
  have less : (compare a b == .lt) = decide (a < b) := by
    rw [Bool.eq_iff_iff, beq_iff_eq, decide_eq_true_iff, compare_bytes_eq_lt]
  have greater : (compare a b == .gt) = decide (b < a) := by
    rw [Bool.eq_iff_iff, beq_iff_eq, decide_eq_true_iff, compare_bytes_eq_gt]
  constructor
  case sorted =>
    change Except.ok (compare (Text.hexBytes a) (Text.hexBytes b)) = _
    rw [Text.compare_hexBytes, compare_lists fun _ _ => rfl]
  case eq => exact valueHolds_bytes_of_holdsFor? semantics (congrArg some equal) rfl
  case lt => exact valueHolds_bytes_of_holdsFor? semantics (congrArg some less) rfl
  case gt => exact valueHolds_bytes_of_holdsFor? semantics (congrArg some greater) rfl
  case ne =>
    refine valueHolds_bytes_of_holdsFor? semantics (congrArg some ?_) rfl
    rw [bne, equal, decide_not]
  case ge =>
    refine valueHolds_bytes_of_holdsFor? semantics (congrArg some ?_) rfl
    rw [bne, less, ← decide_not]
    exact decide_eq_decide.mpr List.not_lt
  case le =>
    refine valueHolds_bytes_of_holdsFor? semantics (congrArg some ?_) rfl
    rw [bne, greater, ← decide_not]
    exact decide_eq_decide.mpr List.not_lt

/-! Bytes in one another. -/

/-- A value of bytes starts and ends with the bytes that its digits start and end with. It contains
those that stand in it, and those that stand in the bytes across the borders of its own. -/
theorem valueHolds_bytes_substring (semantics : NullSemantics) (a : List UInt8) {literal : Scalar}
    {e : List UInt8} (denotes : literal.StandsFor e) :
    valueHolds semantics .startsWith (.scalar (.bytes a)) (some (.single literal)) =
      .ok (decide (e <+: a)) ∧
    valueHolds semantics .endsWith (.scalar (.bytes a)) (some (.single literal)) =
      .ok (decide (e <:+ a)) ∧
    valueHolds semantics .contains (.scalar (.bytes a)) (some (.single literal)) =
      .ok (decide (e <:+: a ∨ e <:+: Text.straddling a)) := by
  have holds {op : Operator} {p : Prop} [Decidable p] (seeks : Sql.SeeksNeedle op)
      (found : Sql.PieceOf op (Text.hexChars e) (Text.hexChars a) ↔ p) :
      valueHolds semantics op (.scalar (.bytes a)) (some (.single literal)) = .ok (decide p) := by
    have compares : op.isNullCheck = false := by cases seeks <;> rfl
    have text : Comparison.strings.holds op (Text.hexBytes a) [Text.hexBytes e] =
        Comparison.textHolds op (Text.hexBytes a) (Text.hexBytes e) := by cases seeks <;> rfl
    rw [valueHolds_bytes semantics a denotes compares, text, Except.ok.injEq, Bool.eq_iff_iff,
      Sql.textHolds_iff, Text.toList_hexBytes, Text.toList_hexBytes, found, decide_eq_true_iff]
  exact ⟨holds .startsWith Text.hexChars_prefix_iff, holds .endsWith Text.hexChars_suffix_iff,
    holds .contains Text.hexChars_infix_iff⟩

/-- The letter é, in the bytes C3 and A9, across the borders of the bytes 0C, 3A and 9F. -/
theorem valueHolds_bytes_substring_letter :
    Scalar.StandsFor (.string "é") [0xC3, 0xA9] ∧
    valueHolds .strict .startsWith (.scalar (.bytes [0x0C, 0x3A, 0x9F]))
      (some (.single (.string "é"))) = .ok false ∧
    valueHolds .strict .contains (.scalar (.bytes [0x0C, 0x3A, 0x9F]))
      (some (.single (.string "é"))) = .ok true := by
  have denotes : Scalar.StandsFor (.string "é") [0xC3, 0xA9] := .string "é"
  obtain ⟨starts, -, contains⟩ :=
    valueHolds_bytes_substring .strict [0x0C, 0x3A, 0x9F] denotes
  exact ⟨denotes, starts, contains⟩

/-- The bytes 12 and 34 contain the byte 23, which is neither of them. -/
theorem contains_byte_across :
    valueHolds .strict .contains (.scalar (.bytes [0x12, 0x34]))
      (some (.single (.bytes [0x23]))) = .ok true ∧
    ¬ ([0x23] : List UInt8) <:+: [0x12, 0x34] :=
  ⟨rfl, by decide⟩

end Matching

end RecordQuery
