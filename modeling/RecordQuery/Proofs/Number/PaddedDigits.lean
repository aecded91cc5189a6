import Mathlib.Algebra.Group.Nat.Defs
import RecordQuery.Number.Integer
import RecordQuery.Proofs.Order.Lexicographic

/-!
Decimal texts of a fixed width, with zeros in front. Numbers that fit the width compare like their
texts, and are what their texts stand for.
-/

namespace RecordQuery

/-- The last digits of a number, as many as the width. -/
def padded : (width : Nat) → Nat → List Char
  | 0, _ => []
  | width + 1, n => padded width (n / 10) ++ [Nat.digitChar (n % 10)]

theorem length_padded (width n : Nat) : (padded width n).length = width := by
  induction width generalizing n with
  | zero => rfl
  | succ width ih => rw [padded, List.length_append, ih, List.length_singleton]

theorem padded_zero (width : Nat) : padded width 0 = List.replicate width '0' := by
  induction width with
  | zero => rfl
  | succ width ih =>
    rw [padded, Nat.zero_div, ih, List.replicate_succ']
    rfl

theorem isDigit_digitChar : ∀ i < 10, (Nat.digitChar i).isDigit = true := by
  decide

theorem isDigit_of_mem_padded {width n : Nat} {c : Char} (mem : c ∈ padded width n) :
    c.isDigit = true := by
  induction width generalizing n with
  | zero => cases mem
  | succ width ih =>
    rw [padded, List.mem_append, List.mem_singleton] at mem
    rcases mem with front | rfl
    · exact ih front
    · exact isDigit_digitChar _ (Nat.mod_lt n (by decide))

theorem digitValue_digitChar : ∀ i < 10, digitValue (Nat.digitChar i) = i := by
  decide

/-- A number that fits is what its text stands for. -/
theorem digitsValue_padded {width n : Nat} (fits : n < 10 ^ width) :
    digitsValue (padded width n) = n := by
  induction width generalizing n with
  | zero => exact (Nat.lt_one_iff.mp fits).symm
  | succ width ih =>
    rw [Nat.pow_succ] at fits
    have front := ih (n := n / 10) (by omega)
    unfold digitsValue at front ⊢
    rw [padded, List.foldl_append, front, List.foldl_cons, List.foldl_nil,
      digitValue_digitChar _ (Nat.mod_lt n (by decide)), Nat.div_add_mod]

/-- A number that fits has its own digits after the zeros. -/
theorem padded_eq_toDigits {width n : Nat} (positive : 0 < width) (fits : n < 10 ^ width) :
    padded width n =
      List.replicate (width - (Nat.toDigits 10 n).length) '0' ++ Nat.toDigits 10 n := by
  induction width generalizing n with
  | zero => omega
  | succ width ih =>
    rw [padded]
    by_cases single : n < 10
    · rw [Nat.toDigits_of_lt_base single, Nat.div_eq_of_lt single, Nat.mod_eq_of_lt single,
        padded_zero, List.length_singleton, Nat.add_sub_cancel]
    · rw [Nat.pow_succ] at fits
      have fits_front : n / 10 < 10 ^ width := by omega
      have positive_front : 0 < width := by
        apply Nat.pos_of_ne_zero
        intro zero
        rw [zero] at fits_front
        omega
      have own := Nat.toDigits_of_base_le (b := 10) (by decide) (Nat.not_lt.mp single)
      rw [own, ih positive_front fits_front, List.append_assoc, List.length_append,
        List.length_singleton, Nat.add_sub_add_right]

theorem compare_digitChar :
    ∀ i < 10, ∀ j < 10, compare [Nat.digitChar i] [Nat.digitChar j] = compare i j := by
  decide

/-- Numbers that fit the width compare like their texts, by the last digit after all others. -/
theorem compare_padded {width m n : Nat} (fits_m : m < 10 ^ width) (fits_n : n < 10 ^ width) :
    compare (padded width m) (padded width n) = compare m n := by
  induction width generalizing m n with
  | zero =>
    obtain rfl : m = 0 := by omega
    obtain rfl : n = 0 := by omega
    rfl
  | succ width ih =>
    rw [Nat.pow_succ] at fits_m fits_n
    have front := ih (m := m / 10) (n := n / 10) (by omega) (by omega)
    have last := compare_digitChar _ (Nat.mod_lt m (by decide)) _ (Nat.mod_lt n (by decide))
    have parts := compare_div_mod (by decide : (0 : Int) < 10) m n
    rw [compare_natCast] at parts
    rw [padded, padded, Text.compare_append (by rw [length_padded, length_padded]), front, last,
      parts, ← compare_natCast, ← compare_natCast]
    rfl

end RecordQuery
