import Mathlib.Data.List.TakeWhile
import Mathlib.Tactic.LinearCombination
import RecordQuery.Number.Decimal
import RecordQuery.Proofs.Number.IntegerText
import RecordQuery.Proofs.Number.Rounding

/-!
The shortest decimal of a number lies in the interval of the ratios that are rounded to it. With
seventeen digits the multiples of the last place stand so close that one of the two next to the
number lies in the interval, so the search for digits ends there at the latest. For a whole number
it ends before it comes to digits behind the point.
-/

namespace RecordQuery.Decimal

open Binary64 Rounding

/-! Places of decimals. -/

/-- Rounded down to a multiple of 10^k. -/
theorem floorAt_spec (num : Nat) {den : Nat} (positive : 0 < den) (k : Int) :
    (floorAt num den k : ℚ) * 10 ^ k ≤ (num : ℚ) / den ∧
      (num : ℚ) / den < (floorAt num den k + 1) * 10 ^ k := by
  have den_pos : (0 : ℚ) < den := Nat.cast_pos.mpr positive
  have floor (a b : Nat) (positive_b : 0 < b) :
      ((a / b : Nat) : ℚ) * b ≤ a ∧ (a : ℚ) < ((a / b : Nat) + 1) * b := by
    have low : a / b * b ≤ a := Nat.div_mul_le_self a b
    have high : a < (a / b + 1) * b := by
      rw [mul_comm]
      exact Nat.lt_mul_div_succ a positive_b
    exact ⟨by exact_mod_cast low, by exact_mod_cast high⟩
  rw [le_div_iff₀ den_pos, div_lt_iff₀ den_pos]
  unfold floorAt
  split
  next nonneg =>
    obtain ⟨low, high⟩ := floor num (den * Nat.pow 10 k.toNat)
      (Nat.mul_pos positive (Nat.pow_pos (by decide)))
    rw [Nat.cast_mul, ten_zpow_of_nonneg nonneg] at low high
    constructor
    · linarith
    · linarith
  next negative =>
    have unit : (0 : ℚ) < 10 ^ (-k) := zpow_pos (by norm_num) _
    have cancel (f : ℚ) : f * 10 ^ k * den * 10 ^ (-k) = f * den := by
      calc
        f * 10 ^ k * den * 10 ^ (-k) = f * den * (10 ^ k * 10 ^ (-k)) := by ring
        _ = f * den := by rw [zpow_mul_zpow_neg (by norm_num), mul_one]
    obtain ⟨low, high⟩ := floor (num * Nat.pow 10 (-k).toNat) den positive
    rw [Nat.cast_mul, ten_zpow_of_nonneg (by omega)] at low high
    rw [← mul_le_mul_iff_of_pos_right unit, ← mul_lt_mul_iff_of_pos_right unit, cancel, cancel]
    exact ⟨low, high⟩

/-- The number of digits of a whole number. -/
theorem toDigits_length_spec {n : Nat} (positive : 0 < n) :
    ∃ l, (Nat.toDigits 10 n).length = l + 1 ∧ 10 ^ l ≤ n ∧ n < 10 ^ (l + 1) := by
  have some : 0 < (Nat.toDigits 10 n).length := Nat.length_toDigits_pos
  obtain ⟨l, length⟩ : ∃ l, (Nat.toDigits 10 n).length = l + 1 :=
    ⟨(Nat.toDigits 10 n).length - 1, by omega⟩
  have fits (k : Nat) (nonzero : 0 < k) : l + 1 ≤ k ↔ n < 10 ^ k := by
    rw [← length]
    exact Nat.length_toDigits_le_iff (by decide) nonzero
  refine ⟨l, length, ?_, (fits (l + 1) (by omega)).mp le_rfl⟩
  cases l with
  | zero => exact positive
  | succ l =>
    rw [← not_lt, ← fits (l + 1) (by omega)]
    omega

/-- A ratio has its first digit behind the point of the place just below `pointOf`. -/
theorem pointOf_spec {num den : Nat} (positive : 0 < num) (positive_den : 0 < den) :
    (10 : ℚ) ^ (pointOf num den - 1) ≤ (num : ℚ) / den ∧
      (num : ℚ) / den < 10 ^ pointOf num den := by
  have den_pos : (0 : ℚ) < den := Nat.cast_pos.mpr positive_den
  rw [le_div_iff₀ den_pos, div_lt_iff₀ den_pos]
  unfold pointOf
  split
  next atLeastOne =>
    obtain ⟨l, length, low, high⟩ := toDigits_length_spec (Nat.div_pos atLeastOne positive_den)
    rw [Nat.le_div_iff_mul_le positive_den] at low
    rw [Nat.div_lt_iff_lt_mul positive_den] at high
    have before : ((l + 1 : Nat) : Int) - 1 = l := by omega
    rw [length, before, zpow_natCast, zpow_natCast]
    exact ⟨by exact_mod_cast low, by exact_mod_cast high⟩
  next belowOne =>
    have several : 0 < (den - 1) / num := Nat.div_pos (by omega) positive
    obtain ⟨l, length, low, high⟩ := toDigits_length_spec several
    rw [Nat.le_div_iff_mul_le positive] at low
    rw [Nat.div_lt_iff_lt_mul positive] at high
    have inverse (n : Nat) (f : ℚ) : 10 ^ (-(n : Int)) * f = f / 10 ^ n := by
      rw [zpow_neg, zpow_natCast, mul_comm, div_eq_mul_inv]
    have before : 1 - ((l + 1 : Nat) : Int) - 1 = -((l + 1 : Nat) : Int) := by omega
    have after : 1 - ((l + 1 : Nat) : Int) = -(l : Int) := by omega
    rw [length, before, after, inverse, inverse, div_le_iff₀ (by positivity),
      lt_div_iff₀ (by positivity)]
    have low' : 10 ^ l * num < den := by omega
    have high' : den ≤ 10 ^ (l + 1) * num := by omega
    constructor
    · rw [mul_comm]
      exact_mod_cast high'
    · rw [mul_comm]
      exact_mod_cast low'

/-! The interval of a number. -/

/-- The ratio lies between the ends, which may belong to the interval. -/
structure Reach.Contains (r : Reach) (q : ℚ) : Prop where
  low : (r.low : ℚ) / r.den ≤ q
  high : q ≤ (r.high : ℚ) / r.den
  inner : r.closed = false → (r.low : ℚ) / r.den < q ∧ q < (r.high : ℚ) / r.den

/-- Whether a multiple of 10^k lies in an interval is decided by whole numbers: everything is
multiplied by the denominator and by the power of ten that clears the fraction. -/
theorem Reach.exists_scaled (r : Reach) (n : Nat) (k : Int) :
    ∃ value unit : Nat, (0 : ℚ) < unit ∧ (n : ℚ) * 10 ^ k * r.den * unit = value ∧
      (r.holds n k =
        if r.closed then decide (r.low * unit ≤ value) && decide (value ≤ r.high * unit)
        else decide (r.low * unit < value) && decide (value < r.high * unit)) := by
  unfold Reach.holds
  split
  next nonneg =>
    refine ⟨n * Nat.pow 10 k.toNat * r.den, 1, by norm_num, ?_, rfl⟩
    rw [Nat.cast_mul, Nat.cast_mul, ten_zpow_of_nonneg nonneg, Nat.cast_one, mul_one]
  next negative =>
    refine ⟨n * r.den, Nat.pow 10 (-k).toNat, ?_, ?_, rfl⟩
    · rw [ten_zpow_of_nonneg (by omega)]
      exact zpow_pos (by norm_num) _
    · rw [ten_zpow_of_nonneg (by omega), Nat.cast_mul]
      calc
        (n : ℚ) * 10 ^ k * r.den * 10 ^ (-k) = n * r.den * (10 ^ k * 10 ^ (-k)) := by ring
        _ = n * r.den := by rw [zpow_mul_zpow_neg (by norm_num), mul_one]

theorem Reach.holds_iff {r : Reach} (positive : 0 < r.den) (n : Nat) (k : Int) :
    r.holds n k = true ↔ r.Contains (n * 10 ^ k) := by
  have den_pos : (0 : ℚ) < r.den := Nat.cast_pos.mpr positive
  obtain ⟨value, unit, unit_pos, scaled, decided⟩ := r.exists_scaled n k
  have low_le : (r.low : ℚ) / r.den ≤ n * 10 ^ k ↔ r.low * unit ≤ value := by
    rw [div_le_iff₀ den_pos, ← mul_le_mul_iff_of_pos_right unit_pos, scaled]
    exact_mod_cast Iff.rfl
  have le_high : (n : ℚ) * 10 ^ k ≤ r.high / r.den ↔ value ≤ r.high * unit := by
    rw [le_div_iff₀ den_pos, ← mul_le_mul_iff_of_pos_right unit_pos, scaled]
    exact_mod_cast Iff.rfl
  have low_lt : (r.low : ℚ) / r.den < n * 10 ^ k ↔ r.low * unit < value := by
    rw [div_lt_iff₀ den_pos, ← mul_lt_mul_iff_of_pos_right unit_pos, scaled]
    exact_mod_cast Iff.rfl
  have lt_high : (n : ℚ) * 10 ^ k < r.high / r.den ↔ value < r.high * unit := by
    rw [lt_div_iff₀ den_pos, ← mul_lt_mul_iff_of_pos_right unit_pos, scaled]
    exact_mod_cast Iff.rfl
  rw [decided]
  cases closed : r.closed with
  | true =>
    simp only [if_true, Bool.and_eq_true, decide_eq_true_eq, ← low_le, ← le_high]
    exact ⟨fun ⟨low, high⟩ => ⟨low, high, fun opened => by simp [closed] at opened⟩,
      fun within => ⟨within.low, within.high⟩⟩
  | false =>
    simp only [Bool.false_eq_true, if_false, Bool.and_eq_true, decide_eq_true_eq, ← low_lt,
      ← lt_high]
    exact ⟨fun ⟨low, high⟩ => ⟨low.le, high.le, fun _ => ⟨low, high⟩⟩,
      fun within => within.inner closed⟩

theorem reachOf_den_pos (m : Nat) (e : Int) : 0 < (reachOf m e).den := by
  unfold reachOf
  dsimp only
  split
  · decide
  · exact Nat.pow_pos (by decide)

/-- The numbers of the interval in units of a quarter of 2^e. -/
theorem reachOf_unit (m : Nat) (e : Int) : ∃ scale : Nat,
    (scale : ℚ) / (reachOf m e).den = 2 ^ e / 4 ∧
    (reachOf m e).low = (4 * m - if m = 0x10000000000000 ∧ e ≠ -1074 then 1 else 2) * scale ∧
    (reachOf m e).mid = 4 * m * scale ∧ (reachOf m e).high = (4 * m + 2) * scale := by
  have quarter : (2 : ℚ) ^ (e - 2) = 2 ^ e / 4 := by
    rw [zpow_sub₀ (by norm_num)]
    norm_num
  have gap : (if (m == 0x10000000000000 && e != -1074) = true then 1 else 2) =
      if m = 0x10000000000000 ∧ e ≠ -1074 then 1 else 2 := by
    simp only [Bool.and_eq_true, beq_iff_eq, bne_iff_ne]
  refine ⟨if 2 ≤ e then Nat.pow 2 (e - 2).toNat else 1, ?_, by rw [← gap]; rfl, rfl, rfl⟩
  unfold reachOf
  dsimp only
  split
  next large => rw [two_zpow_of_nonneg (by omega), quarter, Nat.cast_one, div_one]
  next small =>
    rw [two_zpow_of_nonneg (by omega), Nat.cast_one, ← quarter, one_div, ← zpow_neg, neg_sub]

theorem reachOf_mid (m : Nat) (e : Int) :
    ((reachOf m e).mid : ℚ) / (reachOf m e).den = m * 2 ^ e := by
  obtain ⟨scale, unit, -, mid, -⟩ := reachOf_unit m e
  rw [mid, Nat.cast_mul, mul_div_assoc, unit]
  push_cast
  ring

theorem reachOf_mid_pos {m : Nat} {e : Int} (isParts : IsParts m e) : 0 < (reachOf m e).mid := by
  have den_pos : (0 : ℚ) < (reachOf m e).den := Nat.cast_pos.mpr (reachOf_den_pos m e)
  have ratio : (0 : ℚ) < (reachOf m e).mid / (reachOf m e).den := by
    rw [reachOf_mid]
    exact mul_pos (Nat.cast_pos.mpr isParts.positive) (zpow_pos (by norm_num) e)
  rw [div_pos_iff_of_pos_right den_pos] at ratio
  exact_mod_cast ratio

theorem reachOf_contains {m : Nat} {e : Int} (isParts : IsParts m e) (q : ℚ) :
    (reachOf m e).Contains q ↔ RoundsTo m e q := by
  obtain ⟨scale, unit, low, -, high⟩ := reachOf_unit m e
  have positive := isParts.positive
  have low_eq : ((reachOf m e).low : ℚ) / (reachOf m e).den = (m - lowerHalf m e) * 2 ^ e := by
    rw [low, Nat.cast_mul, mul_div_assoc, unit, lowerHalf]
    split
    · rw [Nat.cast_sub (by omega)]
      push_cast
      ring
    · rw [Nat.cast_sub (by omega)]
      push_cast
      ring
  have high_eq : ((reachOf m e).high : ℚ) / (reachOf m e).den = (m + 1 / 2) * 2 ^ e := by
    rw [high, Nat.cast_mul, mul_div_assoc, unit]
    push_cast
    ring
  have closed_iff : (reachOf m e).closed = false ↔ m % 2 = 1 := by
    change (m % 2 == 0) = false ↔ m % 2 = 1
    rw [beq_eq_false_iff_ne]
    omega
  constructor
  · rintro ⟨low, high, inner⟩
    rw [low_eq, high_eq, closed_iff] at *
    exact ⟨low, high, inner⟩
  · rintro ⟨low, high, odd⟩
    rw [← low_eq, ← high_eq, ← closed_iff] at *
    exact ⟨low, high, odd⟩

/-! The search for the fewest digits. -/

/-- Of two multiples that serve one is taken. -/
theorem Reach.pick?_of_both {r : Reach} (tie : Tie) {k : Int}
    (below : r.holds (floorAt r.mid r.den k) k = true)
    (above : r.holds (floorAt r.mid r.den k + 1) k = true) :
    ∃ n, r.pick? tie k = some n ∧ r.holds n k = true := by
  have either : r.pick? tie k = some (floorAt r.mid r.den k) ∨
      r.pick? tie k = some (floorAt r.mid r.den k + 1) := by
    simp only [Reach.pick?, below, above]
    cases tie <;> split_ifs <;> simp
  rcases either with taken | taken
  · exact ⟨_, taken, below⟩
  · exact ⟨_, taken, above⟩

/-- What is taken lies in the interval. -/
theorem Reach.pick?_holds {r : Reach} {tie : Tie} {k : Int} {n : Nat}
    (picked : r.pick? tie k = some n) : r.holds n k = true := by
  cases below : r.holds (floorAt r.mid r.den k) k <;>
    cases above : r.holds (floorAt r.mid r.den k + 1) k
  case true.true =>
    obtain ⟨n', taken, serves⟩ := Reach.pick?_of_both tie below above
    rw [taken] at picked
    cases picked
    exact serves
  all_goals
    simp only [Reach.pick?, below, above, reduceCtorEq, Option.some.injEq] at picked
  · exact picked ▸ above
  · exact picked ▸ below

theorem Reach.pick?_isSome {r : Reach} (tie : Tie) {k : Int}
    (either : r.holds (floorAt r.mid r.den k) k = true ∨
      r.holds (floorAt r.mid r.den k + 1) k = true) : (r.pick? tie k).isSome = true := by
  cases below : r.holds (floorAt r.mid r.den k) k <;>
    cases above : r.holds (floorAt r.mid r.den k + 1) k
  case true.true =>
    obtain ⟨n, taken, -⟩ := Reach.pick?_of_both tie below above
    rw [taken, Option.isSome_some]
  case false.false => simp only [below, above, Bool.false_eq_true, or_self] at either
  all_goals simp only [Reach.pick?, below, above, Option.isSome_some]

/-- Where half of a place is less than the distance to both ends, one of the two multiples next to
the number lies in its interval. -/
theorem pick?_isSome_of_close {m : Nat} {e : Int} (isParts : IsParts m e) (tie : Tie) {k : Int}
    (close : (10 : ℚ) ^ k / 2 < lowerHalf m e * 2 ^ e) :
    ((reachOf m e).pick? tie k).isSome = true := by
  have den_pos := reachOf_den_pos m e
  have half : lowerHalf m e * 2 ^ e ≤ 1 / 2 * 2 ^ e := by
    have := (lowerHalf_le m e).2
    gcongr
  obtain ⟨below, above⟩ := floorAt_spec (reachOf m e).mid den_pos k
  rw [reachOf_mid] at below above
  apply Reach.pick?_isSome
  rw [Reach.holds_iff den_pos, Reach.holds_iff den_pos, reachOf_contains isParts,
    reachOf_contains isParts, Nat.cast_succ]
  generalize (floorAt (reachOf m e).mid (reachOf m e).den k : ℚ) = n at below above ⊢
  have within (q : ℚ) (low : (m : ℚ) * 2 ^ e - 10 ^ k / 2 ≤ q)
      (high : q ≤ (m : ℚ) * 2 ^ e + 10 ^ k / 2) :
      RoundsTo m e q := by
    have inner_low : (m - lowerHalf m e) * 2 ^ e < q := by linarith
    have inner_high : q < (m + 1 / 2) * 2 ^ e := by linarith
    exact ⟨inner_low.le, inner_high.le, fun _ => ⟨inner_low, inner_high⟩⟩
  have unit : (0 : ℚ) < 10 ^ k := zpow_pos (by norm_num) k
  rcases le_total ((m : ℚ) * 2 ^ e - 10 ^ k / 2) (n * 10 ^ k) with near | far
  · exact .inl (within _ near (by linarith))
  · exact .inr (within _ (by linarith) (by linarith))

/-- Seventeen digits are enough. -/
theorem pick?_isSome_seventeen {m : Nat} {e : Int} (isParts : IsParts m e) (tie : Tie) :
    ((reachOf m e).pick? tie
      (pointOf (reachOf m e).mid (reachOf m e).den - (17 : Nat))).isSome = true := by
  have den_pos := reachOf_den_pos m e
  have unit : (0 : ℚ) < 2 ^ e := zpow_pos (by norm_num) e
  obtain ⟨first, -⟩ := pointOf_spec (reachOf_mid_pos isParts) den_pos
  generalize pointOf (reachOf m e).mid (reachOf m e).den = point at first ⊢
  rw [reachOf_mid] at first
  apply pick?_isSome_of_close isParts
  have places : (10 : ℚ) ^ (point - 1) = 10 ^ 16 * 10 ^ (point - (17 : Nat)) := by
    rw [← zpow_natCast, ← zpow_add₀ (by norm_num)]
    congr 1
    push_cast
    omega
  rw [places] at first
  -- a number has at most 53 binary digits, and 2^53 is less than 10^16
  have short : (m : ℚ) / 10 ^ 16 / 2 < lowerHalf m e := by
    unfold lowerHalf
    split
    next power =>
      rw [power.1]
      norm_num
    next =>
      have : (m : ℚ) < 0x20000000000000 := by exact_mod_cast isParts.short
      norm_num
      linarith
  calc
    (10 : ℚ) ^ (point - (17 : Nat)) / 2 ≤ m / 10 ^ 16 / 2 * 2 ^ e := by
      norm_num at first ⊢
      linarith
    _ < lowerHalf m e * 2 ^ e := mul_lt_mul_of_pos_right short unit

/-- The search ends with the first count of digits that serves. -/
theorem shortestFrom_spec (r : Reach) (tie : Tie) (point : Int) {fuel count c : Nat}
    (from_count : count ≤ c) (below : c < count + fuel)
    (serves : (r.pick? tie (point - c)).isSome = true) :
    ∃ n k, shortestFrom r tie point fuel count = (n, k) ∧ r.holds n k = true ∧ point - c ≤ k := by
  induction fuel generalizing count with
  | zero => omega
  | succ fuel ih =>
    unfold shortestFrom
    split
    next n picked => exact ⟨n, _, rfl, Reach.pick?_holds picked, by omega⟩
    next unpicked =>
      rcases Nat.eq_or_lt_of_le from_count with rfl | later
      · rw [unpicked] at serves
        cases serves
      · exact ih later (by omega)

/-! Whole numbers. -/

theorem isWhole_iff (x : Binary64) : x.isWhole = true ↔
    x.isFinite = true ∧ ∃ w : Nat, (x.parts.1 : ℚ) * 2 ^ x.parts.2 = w := by
  rw [Binary64.isWhole, Bool.and_eq_true, beq_iff_eq]
  refine and_congr_right fun _ => ?_
  unfold ratio
  dsimp only
  split
  next nonneg =>
    rw [Nat.mod_one]
    refine iff_of_true rfl ⟨x.parts.1 * Nat.pow 2 x.parts.2.toNat, ?_⟩
    rw [Nat.cast_mul, two_zpow_of_nonneg nonneg]
  next negative =>
    have unit := two_zpow_of_nonneg (by omega : 0 ≤ -x.parts.2)
    have inverse := zpow_mul_zpow_neg (by norm_num : (2 : ℚ) ≠ 0) x.parts.2
    rw [← Nat.dvd_iff_mod_eq_zero]
    constructor
    · rintro ⟨w, whole⟩
      refine ⟨w, ?_⟩
      rw [whole, Nat.cast_mul, unit]
      linear_combination (w : ℚ) * inverse
    · rintro ⟨w, whole⟩
      refine ⟨w, ?_⟩
      have scaled : (x.parts.1 : ℚ) = Nat.pow 2 (-x.parts.2).toNat * w := by
        rw [unit]
        linear_combination 2 ^ (-x.parts.2) * whole - (x.parts.1 : ℚ) * inverse
      exact_mod_cast scaled

/-- A whole number is a multiple of 1. -/
theorem pick?_isSome_whole {m w : Nat} {e : Int} (isParts : IsParts m e) (tie : Tie)
    (whole : (m : ℚ) * 2 ^ e = w) : ((reachOf m e).pick? tie 0).isSome = true := by
  have den_pos := reachOf_den_pos m e
  obtain ⟨below, above⟩ := floorAt_spec (reachOf m e).mid den_pos 0
  rw [reachOf_mid, whole, zpow_zero, mul_one] at below above
  have same : floorAt (reachOf m e).mid (reachOf m e).den 0 = w := by
    have low := Nat.cast_le.mp below
    have high : w < floorAt (reachOf m e).mid (reachOf m e).den 0 + 1 := by exact_mod_cast above
    omega
  apply Reach.pick?_isSome
  left
  rw [Reach.holds_iff den_pos, reachOf_contains isParts, same, zpow_zero, mul_one, ← whole]
  exact roundsTo_self e

/-- A whole ratio in the interval of a number makes the number whole: it is the ratio. -/
theorem whole_of_roundsTo {m : Nat} {e : Int} {n : Nat} (rounds : RoundsTo m e n) :
    ∃ w : Nat, (m : ℚ) * 2 ^ e = w := by
  rcases Int.le_total 0 e with nonneg | negative
  · refine ⟨m * Nat.pow 2 e.toNat, ?_⟩
    rw [Nat.cast_mul, two_zpow_of_nonneg nonneg]
  · have unit := two_zpow_of_nonneg (by omega : 0 ≤ -e)
    have positive : (0 : ℚ) < 2 ^ (-e) := zpow_pos (by norm_num) _
    have inverse := zpow_mul_zpow_neg (by norm_num : (2 : ℚ) ≠ 0) e
    have half := (lowerHalf_le m e).2
    have low : (m : ℚ) - 1 / 2 ≤ n * 2 ^ (-e) := by
      have := mul_le_mul_of_nonneg_right rounds.low positive.le
      rw [mul_assoc, inverse, mul_one] at this
      linarith
    have high : n * 2 ^ (-e) ≤ (m : ℚ) + 1 / 2 := by
      have := mul_le_mul_of_nonneg_right rounds.high positive.le
      rwa [mul_assoc, inverse, mul_one] at this
    -- both are whole numbers, at most a half apart
    have same : m = n * Nat.pow 2 (-e).toNat := by
      rw [← unit] at low high
      have below : (m : ℚ) < (n * Nat.pow 2 (-e).toNat + 1 : Nat) := by
        push_cast at low ⊢
        linarith
      have above : ((n * Nat.pow 2 (-e).toNat : Nat) : ℚ) < (m + 1 : Nat) := by
        push_cast at high ⊢
        linarith
      have := Nat.cast_lt.mp below
      have := Nat.cast_lt.mp above
      omega
    refine ⟨n, ?_⟩
    rw [same, Nat.cast_mul, unit]
    linear_combination (n : ℚ) * inverse

/-! The decimal that is found. -/

/-- The number that a decimal stands for. -/
def value (d : Decimal) : ℚ :=
  digitsValue d.digits * 10 ^ (d.point - d.digits.length)

/-- The search ends with at most seventeen digits, and for a whole number before the point. -/
theorem exists_serving {m : Nat} {e : Int} (isParts : IsParts m e) (tie : Tie) :
    ∃ c : Nat, 1 ≤ c ∧ c < 1 + 17 ∧
      ((reachOf m e).pick? tie (pointOf (reachOf m e).mid (reachOf m e).den - c)).isSome = true ∧
      ((∃ w : Nat, (m : ℚ) * 2 ^ e = w) →
        0 ≤ pointOf (reachOf m e).mid (reachOf m e).den - c) := by
  have seventeen := pick?_isSome_seventeen isParts tie
  obtain ⟨-, below⟩ := pointOf_spec (reachOf_mid_pos isParts) (reachOf_den_pos m e)
  rw [reachOf_mid] at below
  generalize pointOf (reachOf m e).mid (reachOf m e).den = point at seventeen below ⊢
  by_cases short : (∃ w : Nat, (m : ℚ) * 2 ^ e = w) ∧ point ≤ 17
  · obtain ⟨⟨w, whole⟩, atMost⟩ := short
    have atLeastOne : (1 : ℚ) ≤ m * 2 ^ e := by
      have positive : (0 : ℚ) < m * 2 ^ e :=
        mul_pos (Nat.cast_pos.mpr isParts.positive) (zpow_pos (by norm_num) e)
      rw [whole] at positive ⊢
      exact_mod_cast positive
    have positive : 0 < point := by
      have : (10 : ℚ) ^ (0 : Int) < 10 ^ point := by
        rw [zpow_zero]
        exact atLeastOne.trans_lt below
      exact (zpow_lt_zpow_iff_right₀ (by norm_num)).mp this
    have serves := pick?_isSome_whole isParts tie whole
    refine ⟨point.toNat, by omega, by omega, ?_, fun _ => by omega⟩
    rwa [Int.toNat_of_nonneg positive.le, sub_self]
  · refine ⟨17, by decide, by decide, seventeen, fun whole => ?_⟩
    have beyond : ¬ point ≤ 17 := fun atMost => short ⟨whole, atMost⟩
    push_cast
    omega

/-- What the search finds, before the zeros at the end are taken off. -/
theorem exists_shortest (tie : Tie) {x : Binary64} (nonzero : x.isZero = false) :
    ∃ (n : Nat) (k : Int), 0 < n ∧ RoundsTo x.parts.1 x.parts.2 (n * 10 ^ k) ∧
      ((∃ w : Nat, (x.parts.1 : ℚ) * 2 ^ x.parts.2 = w) → 0 ≤ k) ∧
      shortest tie x = ⟨Text.dropEndWhile (· == '0') (Nat.toDigits 10 n),
        (Nat.toDigits 10 n).length + k⟩ := by
  have isParts := isParts_parts nonzero
  obtain ⟨c, first, last, serves, whole⟩ := exists_serving isParts tie
  obtain ⟨n, k, found, holds, atLeast⟩ := shortestFrom_spec _ tie _ first last serves
  rw [Reach.holds_iff (reachOf_den_pos _ _), reachOf_contains isParts] at holds
  refine ⟨n, k, ?_, holds, fun w => (whole w).trans atLeast, ?_⟩
  · rw [Nat.pos_iff_ne_zero]
    rintro rfl
    have half := (lowerHalf_le x.parts.1 x.parts.2).2
    have one : (1 : ℚ) ≤ x.parts.1 := by exact_mod_cast isParts.positive
    have unit : (0 : ℚ) < 2 ^ x.parts.2 := zpow_pos (by norm_num) _
    have positive : 0 < (x.parts.1 - lowerHalf x.parts.1 x.parts.2) * (2 : ℚ) ^ x.parts.2 :=
      mul_pos (by linarith) unit
    have low := holds.low
    rw [Nat.cast_zero, zero_mul] at low
    exact absurd low (not_le.mpr positive)
  · unfold shortest
    dsimp only
    rw [found]

theorem exists_trailing_zeros (cs : List Char) :
    ∃ j, cs = Text.dropEndWhile (· == '0') cs ++ List.replicate j '0' := by
  have split := List.takeWhile_append_dropWhile (p := (· == '0')) (l := cs.reverse)
  have zeros : (cs.reverse.takeWhile (· == '0')).reverse =
      List.replicate (cs.reverse.takeWhile (· == '0')).length '0' := by
    rw [List.eq_replicate_iff]
    refine ⟨List.length_reverse, fun c mem => ?_⟩
    have zero := List.mem_takeWhile_imp (List.mem_reverse.mp mem)
    simpa using zero
  refine ⟨(cs.reverse.takeWhile (· == '0')).length, ?_⟩
  rw [← zeros, Text.dropEndWhile, ← List.reverse_append, split, List.reverse_reverse]

/-- Zeros at the end of the digits move into the place. -/
theorem value_dropEndWhile (cs : List Char) (k : Int) :
    value ⟨Text.dropEndWhile (· == '0') cs, cs.length + k⟩ = digitsValue cs * 10 ^ k := by
  obtain ⟨j, split⟩ := exists_trailing_zeros cs
  have whole : digitsValue cs = digitsValue (Text.dropEndWhile (· == '0') cs) * 10 ^ j := by
    conv_lhs => rw [split]
    rw [digitsValue_append, List.length_replicate, digitsValue_replicate_zero, Nat.add_zero]
  have length := congrArg List.length split
  rw [List.length_append, List.length_replicate] at length
  have places : (cs.length : Int) + k - (Text.dropEndWhile (· == '0') cs).length = j + k := by omega
  unfold value
  dsimp only
  rw [places, whole, zpow_add₀ (by norm_num), zpow_natCast]
  push_cast
  ring

/-- The shortest decimal of a number is rounded to it, and is whole if the number is. -/
theorem shortest_spec (tie : Tie) {x : Binary64} (finite : x.isFinite = true)
    (nonzero : x.isZero = false) :
    RoundsTo x.parts.1 x.parts.2 (shortest tie x).value ∧
      (∀ c ∈ (shortest tie x).digits, c.isDigit = true) ∧ 0 < digitsValue (shortest tie x).digits ∧
      (shortest tie x).isWhole = x.isWhole := by
  obtain ⟨n, k, positive, rounds, whole, found⟩ := exists_shortest tie nonzero
  have same := value_dropEndWhile (Nat.toDigits 10 n) k
  rw [← found, digitsValue_toDigits] at same
  have trailing : (shortest tie x).digits <+: Nat.toDigits 10 n := by
    obtain ⟨j, split⟩ := exists_trailing_zeros (Nat.toDigits 10 n)
    rw [found]
    exact ⟨_, split.symm⟩
  have digits : ∀ c ∈ (shortest tie x).digits, c.isDigit = true :=
    fun c mem => isDigit_of_mem_toDigits c (trailing.subset mem)
  rw [← same] at rounds
  refine ⟨rounds, digits, ?_, ?_⟩
  · rw [Nat.pos_iff_ne_zero]
    intro zero
    rw [value, zero, Nat.cast_zero, zero_mul] at same
    have : (0 : ℚ) < n * 10 ^ k := mul_pos (Nat.cast_pos.mpr positive) (zpow_pos (by norm_num) k)
    rw [← same] at this
    exact lt_irrefl _ this
  · rw [Bool.eq_iff_iff, isWhole_iff, and_iff_right finite, isWhole, decide_eq_true_eq]
    constructor
    · intro short
      refine whole_of_roundsTo (n := digitsValue (shortest tie x).digits *
        Nat.pow 10 ((shortest tie x).point - (shortest tie x).digits.length).toNat) ?_
      rw [Nat.cast_mul, ten_zpow_of_nonneg (by omega)]
      exact rounds
    · intro w
      have := whole w
      have := trailing.length_le
      rw [found] at this ⊢
      dsimp only at this ⊢
      omega

end RecordQuery.Decimal
