import Mathlib.Algebra.Order.Field.Power
import Mathlib.Tactic.FieldSimp
import Mathlib.Tactic.Linarith
import Mathlib.Tactic.NormNum
import Mathlib.Tactic.Positivity
import Mathlib.Tactic.Ring
import RecordQuery.Number.Binary64

/-!
Which ratios are rounded to a given number. Around every positive number m * 2^e of double
precision lies an interval, and each ratio in it is rounded to that number. The interval reaches
half way to both neighbours. Below a power of two the numbers stand twice as close as above it. The
ends of the interval belong to it if m is even.
-/

namespace RecordQuery

namespace Rounding

/-! Quotients to the nearest whole number. -/

/-- A quotient within a half of a whole number is rounded to it, from the very half if the number
is even. -/
theorem divideToEven_eq {num den m : Nat} (positive : 0 < den)
    (low : 2 * (m * den) ≤ 2 * num + den) (high : 2 * num ≤ 2 * (m * den) + den)
    (odd : m % 2 = 1 → 2 * (m * den) < 2 * num + den ∧ 2 * num < 2 * (m * den) + den) :
    divideToEven num den = m := by
  have split := Nat.div_add_mod num den
  have rest := Nat.mod_lt num positive
  rw [Nat.mul_comm] at split
  unfold divideToEven
  generalize num / den = quotient at split ⊢
  generalize num % den = r at split rest ⊢
  -- the whole number is the quotient rounded down, or the one after it
  have above : quotient ≤ m := by
    by_contra below
    have := Nat.mul_le_mul_right den (Nat.lt_of_not_le below)
    rw [Nat.succ_mul] at this
    omega
  have below : m ≤ quotient + 1 := by
    by_contra above
    have := Nat.mul_le_mul_right den (Nat.lt_of_not_le above)
    rw [Nat.succ_mul, Nat.succ_mul] at this
    omega
  rcases Nat.lt_or_ge quotient m with next | same
  · obtain rfl : m = quotient + 1 := by omega
    simp only [Nat.add_mul, Nat.one_mul] at low high odd
    dsimp only
    split
    · omega
    · split
      · rfl
      · omega
  · obtain rfl : m = quotient := by omega
    dsimp only
    split
    · rfl
    · split
      · omega
      · omega

theorem cast_pow_toNat (base : Nat) {e : Int} (nonneg : 0 ≤ e) :
    ((Nat.pow base e.toNat : Nat) : ℚ) = (base : ℚ) ^ e := by
  have cast : ((Nat.pow base e.toNat : Nat) : ℚ) = (base : ℚ) ^ e.toNat :=
    Nat.cast_pow base e.toNat
  rw [cast, ← zpow_natCast, Int.toNat_of_nonneg nonneg]

theorem two_zpow_of_nonneg {e : Int} (nonneg : 0 ≤ e) :
    ((Nat.pow 2 e.toNat : Nat) : ℚ) = 2 ^ e :=
  (cast_pow_toNat 2 nonneg).trans (by rw [Nat.cast_ofNat])

theorem ten_zpow_of_nonneg {e : Int} (nonneg : 0 ≤ e) :
    ((Nat.pow 10 e.toNat : Nat) : ℚ) = 10 ^ e :=
  (cast_pow_toNat 10 nonneg).trans (by rw [Nat.cast_ofNat])

theorem zpow_mul_zpow_neg {b : ℚ} (nonzero : b ≠ 0) (k : Int) : b ^ k * b ^ (-k) = 1 := by
  rw [mul_comm, zpow_neg_mul_zpow_self k nonzero]

/-- The ratio divided by 2^e is rounded as a quotient of whole numbers. -/
theorem scaleBy_eq_divideToEven (num : Nat) {den : Nat} (positive : 0 < den) (e : Int) :
    ∃ a b : Nat, 0 < b ∧ (a : ℚ) * 2 ^ e = (num : ℚ) / den * b ∧
      scaleBy num den e = divideToEven a b := by
  have nonzero : (den : ℚ) ≠ 0 := Nat.cast_ne_zero.mpr positive.ne'
  unfold scaleBy
  split
  next nonneg =>
    refine ⟨num, den * Nat.pow 2 e.toNat, Nat.mul_pos positive (Nat.pow_pos (by decide)), ?_, rfl⟩
    rw [Nat.cast_mul, two_zpow_of_nonneg nonneg]
    field_simp
  next negative =>
    refine ⟨num * Nat.pow 2 (-e).toNat, den, positive, ?_, rfl⟩
    rw [Nat.cast_mul, two_zpow_of_nonneg (by omega), zpow_neg]
    field_simp

/-- A ratio within half of 2^e of m * 2^e is m * 2^e to the nearest multiple of 2^e. -/
theorem scaleBy_eq {num den m : Nat} {e : Int} (positive : 0 < den)
    (low : (m - 1 / 2) * 2 ^ e ≤ (num : ℚ) / den) (high : (num : ℚ) / den ≤ (m + 1 / 2) * 2 ^ e)
    (odd : m % 2 = 1 →
      (m - 1 / 2) * 2 ^ e < (num : ℚ) / den ∧ (num : ℚ) / den < (m + 1 / 2) * 2 ^ e) :
    scaleBy num den e = m := by
  obtain ⟨a, b, positive_b, same, quotient⟩ := scaleBy_eq_divideToEven num positive e
  have unit : (0 : ℚ) < 2 ^ e := zpow_pos (by norm_num) e
  have b_pos : (0 : ℚ) < b := Nat.cast_pos.mpr positive_b
  have ratio : (num : ℚ) / den = a / b * 2 ^ e := by
    field_simp
    field_simp at same
    linarith
  simp only [ratio, mul_le_mul_iff_of_pos_right unit, mul_lt_mul_iff_of_pos_right unit,
    le_div_iff₀ b_pos, div_le_iff₀ b_pos, lt_div_iff₀ b_pos, div_lt_iff₀ b_pos] at low high odd
  rw [quotient]
  apply divideToEven_eq positive_b
  · have : (2 * (m * b) : ℚ) ≤ 2 * a + b := by linarith
    exact_mod_cast this
  · have : (2 * a : ℚ) ≤ 2 * (m * b) + b := by linarith
    exact_mod_cast this
  · intro parity
    obtain ⟨inner_low, inner_high⟩ := odd parity
    have below : (2 * (m * b) : ℚ) < 2 * a + b := by linarith
    have above : (2 * a : ℚ) < 2 * (m * b) + b := by linarith
    exact ⟨by exact_mod_cast below, by exact_mod_cast above⟩

/-! The binary logarithm. -/

theorem log2_bounds {n : Nat} (positive : 0 < n) :
    (2 : ℚ) ^ (n.log2 : Int) ≤ n ∧ (n : ℚ) < 2 ^ ((n.log2 : Int) + 1) :=
  ⟨by exact_mod_cast Nat.log2_self_le positive.ne', by exact_mod_cast Nat.lt_log2_self⟩

/-- The difference of the logarithms of its ends is the logarithm of a ratio, or one more. -/
theorem log2_estimate {num den : Nat} (positive_num : 0 < num) (positive_den : 0 < den) :
    (2 : ℚ) ^ ((num.log2 : Int) - den.log2 - 1) ≤ (num : ℚ) / den ∧
      (num : ℚ) / den < 2 ^ ((num.log2 : Int) - den.log2 + 1) := by
  have two : (2 : ℚ) ≠ 0 := by norm_num
  have den_pos : (0 : ℚ) < den := Nat.cast_pos.mpr positive_den
  obtain ⟨num_low, num_high⟩ := log2_bounds positive_num
  obtain ⟨den_low, den_high⟩ := log2_bounds positive_den
  generalize estimated : (num.log2 : Int) - den.log2 = estimate
  rw [le_div_iff₀ den_pos, div_lt_iff₀ den_pos]
  constructor
  · calc
      (2 : ℚ) ^ (estimate - 1) * den ≤ 2 ^ (estimate - 1) * 2 ^ ((den.log2 : Int) + 1) := by gcongr
      _ = 2 ^ (num.log2 : Int) := by
        rw [← zpow_add₀ two]
        congr 1
        omega
      _ ≤ num := num_low
  · calc
      (num : ℚ) < 2 ^ ((num.log2 : Int) + 1) := num_high
      _ = 2 ^ (estimate + 1) * 2 ^ (den.log2 : Int) := by
        rw [← zpow_add₀ two]
        congr 1
        omega
      _ ≤ 2 ^ (estimate + 1) * den := by gcongr

/-- A ratio is compared with a power of two in whole numbers. -/
theorem reached_iff (num : Nat) {den : Nat} (positive : 0 < den) (e : Int) :
    (if 0 ≤ e then den * Nat.pow 2 e.toNat ≤ num else den ≤ num * Nat.pow 2 (-e).toNat) ↔
      (2 : ℚ) ^ e ≤ (num : ℚ) / den := by
  have den_pos : (0 : ℚ) < den := Nat.cast_pos.mpr positive
  rw [le_div_iff₀ den_pos]
  split
  next nonneg =>
    rw [← two_zpow_of_nonneg nonneg, mul_comm]
    exact_mod_cast Iff.rfl
  next negative =>
    have unit : (0 : ℚ) < 2 ^ (-e) := zpow_pos (by norm_num) _
    have scaled : (2 : ℚ) ^ e * den * 2 ^ (-e) = den := by
      rw [mul_right_comm, zpow_mul_zpow_neg (by norm_num), one_mul]
    rw [← mul_le_mul_iff_of_pos_right unit, scaled, ← two_zpow_of_nonneg (by omega)]
    exact_mod_cast Iff.rfl

theorem log2_spec {num den : Nat} (positive_num : 0 < num) (positive_den : 0 < den) :
    (2 : ℚ) ^ log2 num den ≤ (num : ℚ) / den ∧ (num : ℚ) / den < 2 ^ (log2 num den + 1) := by
  obtain ⟨above, below⟩ := log2_estimate positive_num positive_den
  have reached := reached_iff num positive_den (num.log2 - den.log2)
  unfold log2
  generalize (num.log2 : Int) - den.log2 = estimate at above below reached ⊢
  dsimp only
  rcases lt_or_ge ((num : ℚ) / den) (2 ^ estimate) with less | enough
  · rw [if_neg (mt reached.mp (not_le.mpr less)), sub_add_cancel]
    exact ⟨above, less⟩
  · rw [if_pos (reached.mpr enough)]
    exact ⟨enough, below⟩

end Rounding

namespace Binary64

/-! The interval of a number. -/

/-- How far below m * 2^e its interval begins, in units of 2^e. -/
def lowerHalf (m : Nat) (e : Int) : ℚ :=
  if m = 0x10000000000000 ∧ e ≠ -1074 then 1 / 4 else 1 / 2

/-- The ratio is rounded to m * 2^e. -/
structure RoundsTo (m : Nat) (e : Int) (q : ℚ) : Prop where
  low : (m - lowerHalf m e) * 2 ^ e ≤ q
  high : q ≤ (m + 1 / 2) * 2 ^ e
  odd : m % 2 = 1 → (m - lowerHalf m e) * 2 ^ e < q ∧ q < (m + 1 / 2) * 2 ^ e

/-- The m and e of positive finite numbers. -/
structure IsParts (m : Nat) (e : Int) : Prop where
  positive : 0 < m
  short : m < 0x20000000000000
  least : -1074 ≤ e
  normal : -1074 < e → 0x10000000000000 ≤ m

theorem lowerHalf_le (m : Nat) (e : Int) : 1 / 4 ≤ lowerHalf m e ∧ lowerHalf m e ≤ 1 / 2 := by
  unfold lowerHalf
  split <;> norm_num

theorem roundsTo_self {m : Nat} (e : Int) : RoundsTo m e (m * 2 ^ e) := by
  have unit : (0 : ℚ) < 2 ^ e := zpow_pos (by norm_num) e
  have half := (lowerHalf_le m e).1
  have below : (m - lowerHalf m e) * 2 ^ e < m * 2 ^ e := by
    gcongr
    linarith
  have above : (m : ℚ) * 2 ^ e < (m + 1 / 2) * 2 ^ e := by
    gcongr
    linarith
  exact ⟨below.le, above.le, fun _ => ⟨below, above⟩⟩

/-- In units of 2^e itself the ratio is m to the nearest whole number. -/
theorem RoundsTo.scaleBy {m num den : Nat} {e : Int} (positive : 0 < den)
    (rounds : RoundsTo m e (num / den)) : Rounding.scaleBy num den e = m := by
  have unit : (0 : ℚ) < 2 ^ e := zpow_pos (by norm_num) e
  have half : ((m : ℚ) - 1 / 2) * 2 ^ e ≤ (m - lowerHalf m e) * 2 ^ e := by
    have := (lowerHalf_le m e).2
    gcongr
  apply Rounding.scaleBy_eq positive (half.trans rounds.low) rounds.high
  intro odd
  obtain ⟨low, high⟩ := rounds.odd odd
  exact ⟨half.trans_lt low, high⟩

/-- The interval stays below the next power of two. -/
theorem RoundsTo.lt_zpow {m : Nat} {e : Int} {q : ℚ} (isParts : IsParts m e)
    (rounds : RoundsTo m e q) : q < 2 ^ (e + 53) := by
  have unit : (0 : ℚ) < 2 ^ e := zpow_pos (by norm_num) e
  have short : (m : ℚ) + 1 ≤ 0x20000000000000 := by exact_mod_cast isParts.short
  have power : (2 : ℚ) ^ (e + 53) = 0x20000000000000 * 2 ^ e := by
    rw [zpow_add₀ (by norm_num), mul_comm]
    norm_num
  rw [power]
  apply rounds.high.trans_lt
  gcongr
  linarith

/-- Only the interval of a power of two reaches below that power, and there by a quarter of 2^e. -/
theorem RoundsTo.below_power {m : Nat} {e : Int} {q : ℚ} (normal : 0x10000000000000 ≤ m)
    (beyond : -1074 < e) (rounds : RoundsTo m e q) (below : q < 2 ^ (e + 52)) :
    m = 0x10000000000000 ∧ (0x20000000000000 - 1 / 2) * 2 ^ (e - 1) ≤ q := by
  have unit : (0 : ℚ) < 2 ^ e := zpow_pos (by norm_num) e
  have power : (2 : ℚ) ^ (e + 52) = 0x10000000000000 * 2 ^ e := by
    rw [zpow_add₀ (by norm_num), mul_comm]
    norm_num
  have halved : (2 : ℚ) ^ e = 2 * 2 ^ (e - 1) := by
    rw [← zpow_one_add₀ (by norm_num), add_sub_cancel]
  have bound : ((m : ℚ) - lowerHalf m e) * 2 ^ e < 0x10000000000000 * 2 ^ e :=
    power ▸ rounds.low.trans_lt below
  have same : m = 0x10000000000000 := by
    have less := lt_of_mul_lt_mul_right bound unit.le
    have half := (lowerHalf_le m e).2
    have next : (m : ℚ) < (0x10000000000001 : Nat) := by
      push_cast
      linarith
    have := Nat.cast_lt.mp next
    omega
  refine ⟨same, le_trans (le_of_eq ?_) rounds.low⟩
  have quarter : lowerHalf m e = 1 / 4 := if_pos ⟨same, by omega⟩
  rw [quarter, same, halved]
  push_cast
  ring

/-- Double precision has the interval of m * 2^e rounded to m * 2^e, perhaps written with twice the
m. -/
theorem toBinary_eq {m num den : Nat} {e : Int} (isParts : IsParts m e) (positive : 0 < num)
    (positive_den : 0 < den) (rounds : RoundsTo m e (num / den)) :
    Rounding.toBinary 53 (-1074) num den = (m, e) ∨
      m = 0x10000000000000 ∧ -1074 < e ∧
        Rounding.toBinary 53 (-1074) num den = (0x20000000000000, e - 1) := by
  obtain ⟨log_low, log_high⟩ := Rounding.log2_spec positive positive_den
  have two : (1 : ℚ) < 2 := by norm_num
  have log_lt : Rounding.log2 num den < e + 53 :=
    (zpow_lt_zpow_iff_right₀ two).mp (log_low.trans_lt (rounds.lt_zpow isParts))
  have least := isParts.least
  have exact (exponent : max (Rounding.log2 num den - ((53 - 1 : Nat) : Int)) (-1074) = e) :
      Rounding.toBinary 53 (-1074) num den = (m, e) := by
    rw [Rounding.toBinary, exponent, rounds.scaleBy positive_den]
  by_cases subnormal : e = -1074
  · exact .inl (exact (by omega))
  have beyond : -1074 < e := by omega
  rcases lt_or_ge ((num : ℚ) / den) (2 ^ (e + 52)) with below | reaches
  · -- the ratio is counted in units half as large as those of m * 2^e
    obtain ⟨same, low⟩ := rounds.below_power (isParts.normal beyond) beyond below
    have log_below : Rounding.log2 num den < e + 52 :=
      (zpow_lt_zpow_iff_right₀ two).mp (log_low.trans_lt below)
    have unit : (0 : ℚ) < 2 ^ (e - 1) := zpow_pos (by norm_num) _
    have power (n : Nat) : (2 : ℚ) ^ (e - 1 + n) = 2 ^ n * 2 ^ (e - 1) := by
      rw [zpow_add₀ (by norm_num), zpow_natCast, mul_comm]
    have log_above : e + 51 < Rounding.log2 num den + 1 := by
      apply (zpow_lt_zpow_iff_right₀ two).mp
      refine lt_of_le_of_lt (le_trans ?_ low) log_high
      rw [(by omega : e + 51 = e - 1 + (52 : Nat)), power]
      gcongr
      norm_num
    have high : (num : ℚ) / den ≤ (0x20000000000000 + 1 / 2) * 2 ^ (e - 1) := by
      refine below.le.trans ?_
      rw [(by omega : e + 52 = e - 1 + (53 : Nat)), power]
      gcongr
      norm_num
    refine .inr ⟨same, beyond, ?_⟩
    have exponent : max (Rounding.log2 num den - ((53 - 1 : Nat) : Int)) (-1074) = e - 1 := by omega
    have scaled : Rounding.scaleBy num den (e - 1) = 0x20000000000000 :=
      Rounding.scaleBy_eq positive_den (by exact_mod_cast low) (by exact_mod_cast high)
        (fun odd => absurd odd (by decide))
    rw [Rounding.toBinary, exponent, scaled]
  · have log_ge : e + 52 < Rounding.log2 num den + 1 :=
      (zpow_lt_zpow_iff_right₀ two).mp (reaches.trans_lt log_high)
    exact .inl (exact (by omega))

/-- A ratio in the interval of a finite positive number is rounded to this number. -/
theorem ofRatio_eq {m num den : Nat} {e : Int} (negative : Bool) (isParts : IsParts m e)
    (positive : 0 < num) (positive_den : 0 < den) (rounds : RoundsTo m e (num / den))
    (finite : (e + 1074).toNat * 0x10000000000000 + m < infiniteMagnitude) :
    ofRatio negative num den =
      ofMagnitude negative ((e + 1074).toNat * 0x10000000000000 + m) := by
  have nonzero : (num == 0) = false := beq_eq_false_iff_ne.mpr positive.ne'
  unfold ofRatio
  rw [nonzero]
  dsimp only
  rw [if_neg Bool.false_ne_true]
  rcases toBinary_eq isParts positive positive_den rounds with same | ⟨rfl, beyond, twice⟩
  · rw [same, Nat.min_eq_left finite.le]
  · have carry : (e - 1 + 1074).toNat * 0x10000000000000 + 0x20000000000000 =
        (e + 1074).toNat * 0x10000000000000 + 0x10000000000000 := by omega
    rw [twice, carry, Nat.min_eq_left finite.le]

/-! The fields of a number. -/

theorem parts_eq (x : Binary64) : x.parts =
    if x.magnitude / 0x10000000000000 = 0 then (x.magnitude % 0x10000000000000, -1074)
    else (0x10000000000000 + x.magnitude % 0x10000000000000,
      ((x.magnitude / 0x10000000000000 : Nat) : Int) - 1075) := by
  simp only [parts, beq_iff_eq]

theorem magnitude_of_parts (x : Binary64) :
    (x.parts.2 + 1074).toNat * 0x10000000000000 + x.parts.1 = x.magnitude := by
  rw [parts_eq]
  split
  · dsimp only
    omega
  · dsimp only
    omega

theorem isParts_parts {x : Binary64} (nonzero : x.isZero = false) :
    IsParts x.parts.1 x.parts.2 := by
  have positive : x.magnitude ≠ 0 := beq_eq_false_iff_ne.mp nonzero
  rw [parts_eq]
  split
  · constructor <;> dsimp only <;> omega
  · constructor <;> dsimp only <;> omega

/-- The numbers end below 2^1024. -/
theorem parts_le {x : Binary64} (finite : x.isFinite = true) : x.parts.2 ≤ 971 := by
  have below : x.magnitude < 0x7FF0000000000000 := of_decide_eq_true finite
  rw [parts_eq]
  split
  · dsimp only
    omega
  · dsimp only
    omega

theorem ofMagnitude_magnitude (x : Binary64) : ofMagnitude x.isNegative x.magnitude = x := by
  have bits := x.bits.toNat_lt
  have whole : (if x.isNegative then 0x8000000000000000 + x.magnitude else x.magnitude) =
      x.bits.toNat := by
    unfold isNegative magnitude
    split
    next negative =>
      have := of_decide_eq_true negative
      omega
    next notNegative =>
      have := of_decide_eq_false (Bool.eq_false_of_not_eq_true notNegative)
      omega
  rw [ofMagnitude, whole, UInt64.ofNat_toNat]

/-- A ratio in the interval of a number is rounded to the number. -/
theorem ofRatio_of_roundsTo {x : Binary64} (finite : x.isFinite = true)
    (nonzero : x.isZero = false) {num den : Nat} (positive : 0 < num) (positive_den : 0 < den)
    (rounds : RoundsTo x.parts.1 x.parts.2 (num / den)) :
    ofRatio x.isNegative num den = x := by
  have below : x.magnitude < infiniteMagnitude := of_decide_eq_true finite
  rw [ofRatio_eq x.isNegative (isParts_parts nonzero) positive positive_den rounds
    (by rwa [magnitude_of_parts]), magnitude_of_parts, ofMagnitude_magnitude]

end Binary64

end RecordQuery
