import Mathlib.Data.List.Infix
import RecordQuery.Proofs.Order.Lexicographic
import RecordQuery.Text.Hex

/-!
Bytes in hexadecimal digits. Every byte has two digits, which compare as its halves do, so texts of
bytes compare as the bytes. Such a text begins or ends with another one exactly if the bytes do. But
it can also have the other one inside where no byte begins: behind the high half of one byte and up
to the high half of another.
-/

namespace RecordQuery.Text

theorem compare_hexDigit : ∀ i < 16, ∀ j < 16, compare (hexDigit i) (hexDigit j) = compare i j := by
  decide

theorem compare_toNat (x y : UInt8) : compare x y = compare x.toNat y.toNat := by
  change compareOfLessAndEq x y = compareOfLessAndEq x.toNat y.toNat
  simp only [compareOfLessAndEq, UInt8.lt_iff_toNat_lt, UInt8.toNat_inj]

/-- The high digits of two bytes decide first. -/
theorem compare_hexByte (x y : UInt8) (xs ys : List Char) :
    compare (hexByte x ++ xs) (hexByte y ++ ys) = (compare x y).then (compare xs ys) := by
  have small_x := x.toNat_lt
  have small_y := y.toNat_lt
  have high := compare_hexDigit (x.toNat / 16) (by omega) (y.toNat / 16) (by omega)
  have low := compare_hexDigit (x.toNat % 16) (by omega) (y.toNat % 16) (by omega)
  have halves := compare_div_mod (by decide : (0 : Int) < 16) x.toNat y.toNat
  rw [compare_natCast, ← compare_toNat] at halves
  rw [halves, hexByte, hexByte]
  simp only [List.cons_append, List.nil_append, List.compare_cons_cons, high, low,
    Ordering.then_assoc, ← compare_natCast]
  rfl

/-- The digits of bytes, as characters. -/
def hexChars (bytes : List UInt8) : List Char := bytes.flatMap hexByte

theorem toList_hexBytes (bytes : List UInt8) : (hexBytes bytes).toList = hexChars bytes :=
  String.toList_ofList

theorem hexChars_cons (x : UInt8) (bytes : List UInt8) : hexChars (x :: bytes) =
    hexDigit (x.toNat / 16) :: hexDigit (x.toNat % 16) :: hexChars bytes := rfl

theorem length_hexChars (bytes : List UInt8) : (hexChars bytes).length = 2 * bytes.length := by
  induction bytes with
  | nil => rfl
  | cons x bytes ih =>
    rw [hexChars_cons, List.length_cons, List.length_cons, List.length_cons, ih]
    omega

/-- Bytes compare as their digits do. -/
theorem compare_hexChars (a b : List UInt8) : compare (hexChars a) (hexChars b) = compare a b := by
  induction a generalizing b with
  | nil => cases b <;> rfl
  | cons x a ih =>
    cases b with
    | nil => rfl
    | cons y b =>
      have first := compare_hexByte x y (hexChars a) (hexChars b)
      rw [ih, ← List.compare_cons_cons] at first
      exact first

theorem compare_hexBytes (a b : List UInt8) : compare (hexBytes a) (hexBytes b) = compare a b := by
  rw [compare_toList, toList_hexBytes, toList_hexBytes, compare_hexChars]

theorem hexChars_inj {a b : List UInt8} : hexChars a = hexChars b ↔ a = b := by
  have same := compare_hexChars a b
  constructor
  · intro equal
    have itself : compare (hexChars b) (hexChars b) = .eq := Std.ReflCmp.compare_self
    rw [equal, itself] at same
    exact Std.LawfulEqCmp.eq_of_compare same.symm
  · rintro rfl
    rfl

theorem hexDigits_inj {x y : UInt8} : hexDigit (x.toNat / 16) = hexDigit (y.toNat / 16) ∧
    hexDigit (x.toNat % 16) = hexDigit (y.toNat % 16) ↔ x = y := by
  have single : hexChars [x] = hexChars [y] ↔ [x] = [y] := hexChars_inj
  simpa [hexChars_cons] using single

/-! Texts of bytes in one another. -/

theorem hexChars_prefix_iff {e a : List UInt8} : hexChars e <+: hexChars a ↔ e <+: a := by
  induction e generalizing a with
  | nil => exact iff_of_true (List.nil_prefix) (List.nil_prefix)
  | cons x e ih =>
    cases a with
    | nil =>
      have nothing : hexChars [] = [] := rfl
      rw [nothing, List.prefix_nil, List.prefix_nil, hexChars_cons]
      exact iff_of_false (List.cons_ne_nil _ _) (List.cons_ne_nil _ _)
    | cons y a =>
      rw [hexChars_cons, hexChars_cons, List.cons_prefix_cons, List.cons_prefix_cons, ih,
        List.cons_prefix_cons, ← and_assoc, hexDigits_inj]

/-- Texts of bytes have an even length. -/
theorem hexChars_ne_cons (c : Char) (e a : List UInt8) : hexChars e ≠ c :: hexChars a := by
  intro same
  have lengths := congrArg List.length same
  rw [List.length_cons, length_hexChars, length_hexChars] at lengths
  omega

theorem hexChars_suffix_iff {e a : List UInt8} : hexChars e <:+ hexChars a ↔ e <:+ a := by
  induction a with
  | nil =>
    have nothing : hexChars e = hexChars [] ↔ e = [] := hexChars_inj
    rw [List.suffix_nil, ← nothing]
    exact List.suffix_nil
  | cons x a ih =>
    have whole : hexChars e = hexChars (x :: a) ↔ e = x :: a := hexChars_inj
    rw [List.suffix_cons_iff, ← whole, hexChars_cons, List.suffix_cons_iff, List.suffix_cons_iff,
      ih, or_iff_right (hexChars_ne_cons _ e a)]

/-- The bytes that lie across the borders of the given ones: the low half of each with the high half
of the next. -/
def straddling : List UInt8 → List UInt8
  | x :: y :: rest => UInt8.ofNat (16 * (x.toNat % 16) + y.toNat / 16) :: straddling (y :: rest)
  | _ => []

/-- Without the first digit, the text of bytes is that of the bytes across their borders and one
more digit. -/
theorem exists_straddling (x : UInt8) (a : List UInt8) : ∃ c,
    hexDigit (x.toNat % 16) :: hexChars a = hexChars (straddling (x :: a)) ++ [c] := by
  induction a generalizing x with
  | nil => exact ⟨_, rfl⟩
  | cons y a ih =>
    obtain ⟨c, rest⟩ := ih y
    have small := y.toNat_lt
    have value : (UInt8.ofNat (16 * (x.toNat % 16) + y.toNat / 16)).toNat =
        16 * (x.toNat % 16) + y.toNat / 16 := by
      rw [UInt8.toNat_ofNat']
      omega
    refine ⟨c, ?_⟩
    rw [straddling, hexChars_cons, hexChars_cons, List.cons_append, List.cons_append, ← rest, value]
    congr 3 <;> omega

theorem hexChars_prefix_tail_iff {e a : List UInt8} {x : UInt8} :
    hexChars e <+: hexDigit (x.toNat % 16) :: hexChars a ↔ e <+: straddling (x :: a) := by
  obtain ⟨c, rest⟩ := exists_straddling x a
  have odd : hexChars e ≠ hexChars (straddling (x :: a)) ++ [c] := by
    rw [← rest]
    exact hexChars_ne_cons _ e a
  rw [rest, List.prefix_concat_iff, or_iff_right odd, hexChars_prefix_iff]

theorem infix_straddling_cons {e a : List UInt8} {x : UInt8} :
    e <:+: straddling (x :: a) ↔ e <+: straddling (x :: a) ∨ e <:+: straddling a := by
  cases a with
  | nil => simp [straddling]
  | cons y a => rw [straddling, List.infix_cons_iff]

/-- A text of bytes stands inside another one where a byte begins, or else where bytes across the
borders begin. -/
theorem hexChars_infix_iff {e a : List UInt8} :
    hexChars e <:+: hexChars a ↔ e <:+: a ∨ e <:+: straddling a := by
  induction a with
  | nil =>
    have nothing : hexChars e = hexChars [] ↔ e = [] := hexChars_inj
    change hexChars e <:+: [] ↔ e <:+: [] ∨ e <:+: []
    rw [or_self, List.infix_nil, List.infix_nil, ← nothing]
    rfl
  | cons x a ih =>
    have front := hexChars_prefix_iff (e := e) (a := x :: a)
    rw [hexChars_cons] at front
    rw [hexChars_cons, List.infix_cons_iff, List.infix_cons_iff, List.infix_cons_iff, front,
      hexChars_prefix_tail_iff, ih, infix_straddling_cons, or_assoc, or_left_comm (b := e <:+: a)]

end RecordQuery.Text
