import Mathlib.Data.Nat.Cast.Order.Field
import RecordQuery.Number.Binary32
import RecordQuery.Proofs.Number.Rounding

/-!
Numbers of single precision in double precision and back. Every number comes back as it was, but a
signaling NaN is made quiet on the way.
-/

namespace RecordQuery

namespace Rounding

/-- A ratio that is a whole number of units is that number, counted in them. -/
theorem scaleBy_exact {num den m : Nat} {e : Int} (positive : 0 < den)
    (same : (num : ℚ) / den = m * 2 ^ e) : scaleBy num den e = m := by
  have unit : (0 : ℚ) < 2 ^ e := zpow_pos (by norm_num) e
  have below : ((m : ℚ) - 1 / 2) * 2 ^ e < m * 2 ^ e := by
    gcongr
    linarith
  have above : (m : ℚ) * 2 ^ e < (m + 1 / 2) * 2 ^ e := by
    gcongr
    linarith
  rw [← same] at below above
  exact scaleBy_eq positive below.le above.le fun _ => ⟨below, above⟩

theorem num_pos_iff {m num den : Nat} {e : Int} (positive_den : 0 < den)
    (same : (num : ℚ) / den = m * 2 ^ e) : 0 < num ↔ 0 < m := by
  have unit : (0 : ℚ) < 2 ^ e := zpow_pos (by norm_num) e
  have den_pos : (0 : ℚ) < den := Nat.cast_pos.mpr positive_den
  have number : (0 : ℚ) < num ↔ (0 : ℚ) < m := by
    rw [← div_pos_iff_of_pos_right den_pos, same, mul_pos_iff_of_pos_right unit]
  exact_mod_cast number

/-- A ratio of no more binary digits than the precision has a small logarithm. -/
theorem log2_lt {precision m num den : Nat} {e : Int} (positive : 0 < num) (positive_den : 0 < den)
    (same : (num : ℚ) / den = m * 2 ^ e) (short : m < 2 ^ precision) :
    log2 num den < e + precision := by
  have unit : (0 : ℚ) < 2 ^ e := zpow_pos (by norm_num) e
  apply (zpow_lt_zpow_iff_right₀ (by norm_num : (1 : ℚ) < 2)).mp
  calc
    (2 : ℚ) ^ log2 num den ≤ num / den := (log2_spec positive positive_den).1
    _ = m * 2 ^ e := same
    _ < 2 ^ precision * 2 ^ e := by
      gcongr
      exact_mod_cast short
    _ = 2 ^ (e + precision) := by rw [zpow_add₀ (by norm_num), zpow_natCast, mul_comm]

/-- Rounding keeps a ratio m * 2^e, if the m has all the digits of the precision or the e is the
least. -/
theorem toBinary_exact {precision m num den : Nat} {least e : Int} (positive : 0 < num)
    (positive_den : 0 < den) (same : (num : ℚ) / den = m * 2 ^ e) (short : m < 2 ^ precision)
    (above : least ≤ e) (normal : least < e → 2 ^ (precision - 1) ≤ m) :
    toBinary precision least num den = (m, e) := by
  have log_lt := log2_lt positive positive_den same short
  have m_pos : 0 < m := (num_pos_iff positive_den same).mp positive
  have digits : 0 < precision := by
    by_contra none
    rw [Nat.eq_zero_of_not_pos none, pow_zero] at short
    omega
  have unit : max (log2 num den - (precision - 1 : Nat)) least = e := by
    rcases above.eq_or_lt with lowest | beyond
    · omega
    · have log_ge : e + (precision - 1 : Nat) < log2 num den + 1 := by
        apply (zpow_lt_zpow_iff_right₀ (by norm_num : (1 : ℚ) < 2)).mp
        calc
          (2 : ℚ) ^ (e + (precision - 1 : Nat)) = (2 ^ (precision - 1) : Nat) * 2 ^ e := by
            rw [zpow_add₀ (by norm_num), zpow_natCast, mul_comm]
            push_cast
            rfl
          _ ≤ m * 2 ^ e := by
            gcongr
            exact normal beyond
          _ = num / den := same.symm
          _ < 2 ^ (log2 num den + 1) := (log2_spec positive positive_den).2
      omega
  rw [toBinary, unit, scaleBy_exact positive_den same]

end Rounding

namespace Binary64

/-- The number m * 2^e as numerator and denominator. -/
theorem ratio_of_parts {m num den : Nat} {e : Int}
    (same : (if 0 ≤ e then (m * Nat.pow 2 e.toNat, 1) else (m, Nat.pow 2 (-e).toNat)) =
      (num, den)) :
    0 < den ∧ (num : ℚ) / den = m * 2 ^ e := by
  split at same
  next nonneg =>
    cases same
    rw [Nat.cast_mul, Rounding.two_zpow_of_nonneg nonneg, Nat.cast_one, div_one]
    exact ⟨Nat.one_pos, rfl⟩
  next negative =>
    cases same
    rw [Rounding.two_zpow_of_nonneg (by omega), zpow_neg, div_inv_eq_mul]
    exact ⟨Nat.pow_pos (by decide), rfl⟩

theorem ratio_spec (x : Binary64) :
    0 < x.ratio.2 ∧ (x.ratio.1 : ℚ) / x.ratio.2 = x.parts.1 * 2 ^ x.parts.2 :=
  ratio_of_parts (by rw [ratio])

theorem ratio_of_zero {x : Binary64} (zero : x.magnitude = 0) : x.ratio.1 = 0 := by
  have none : x.parts = (0, -1074) := by
    rw [parts_eq, zero]
    rfl
  rw [ratio, none]
  rfl

theorem toNat_ofMagnitude (negative : Bool) {magnitude : Nat}
    (fits : magnitude < 0x8000000000000000) : (ofMagnitude negative magnitude).bits.toNat =
      if negative then 0x8000000000000000 + magnitude else magnitude := by
  have bits : (if negative then 0x8000000000000000 + magnitude else magnitude) < UInt64.size := by
    rw [UInt64.size]
    split <;> omega
  rw [ofMagnitude, UInt64.toNat_ofNat_of_lt' bits]

theorem magnitude_ofMagnitude (negative : Bool) {magnitude : Nat}
    (fits : magnitude < 0x8000000000000000) :
    (ofMagnitude negative magnitude).magnitude = magnitude := by
  unfold Binary64.magnitude
  rw [toNat_ofMagnitude negative fits]
  split <;> omega

theorem isNegative_ofMagnitude (negative : Bool) {magnitude : Nat}
    (fits : magnitude < 0x8000000000000000) :
    (ofMagnitude negative magnitude).isNegative = negative := by
  unfold isNegative
  rw [toNat_ofMagnitude negative fits]
  cases negative with
  | false => exact decide_eq_false (by simpa using fits)
  | true => exact decide_eq_true (by simp)

/-- The number that is written with the m and e of a finite positive one. -/
theorem parts_ofMagnitude (negative : Bool) {m : Nat} {e : Int} (isParts : IsParts m e)
    (finite : (e + 1074).toNat * 0x10000000000000 + m < infiniteMagnitude) :
    (ofMagnitude negative ((e + 1074).toNat * 0x10000000000000 + m)).parts = (m, e) := by
  obtain ⟨positive, short, least, normal⟩ := isParts
  rw [infiniteMagnitude] at finite
  rw [parts_eq, magnitude_ofMagnitude negative (by omega)]
  split
  next zero =>
    refine Prod.ext ?_ ?_ <;> dsimp only <;> omega
  next nonzero =>
    refine Prod.ext ?_ ?_ <;> dsimp only <;> omega

/-- A positive number of single precision has the m and e of one of double precision. -/
theorem exists_parts {m : Nat} {e : Int} (positive : 0 < m) (short : m < 2 ^ 24)
    (least : -149 ≤ e) (greatest : e ≤ 104) : ∃ m' e', IsParts m' e' ∧ e' ≤ 104 ∧
      (m' : ℚ) * 2 ^ e' = m * 2 ^ e := by
  have log_lt : m.log2 < 24 := (Nat.log2_lt positive.ne').mpr short
  obtain ⟨k, digits⟩ : ∃ k, m.log2 + k = 52 := ⟨52 - m.log2, by omega⟩
  have low : 2 ^ 52 ≤ m * 2 ^ k := by
    rw [← digits, pow_add]
    exact Nat.mul_le_mul_right _ (Nat.log2_self_le positive.ne')
  have high : m * 2 ^ k < 2 ^ 53 := by
    have power : 2 ^ 53 = 2 ^ (m.log2 + 1) * 2 ^ k := by
      rw [← pow_add]
      congr 1
      omega
    rw [power]
    exact Nat.mul_lt_mul_of_pos_right Nat.lt_log2_self (Nat.pow_pos (by decide))
  refine ⟨m * 2 ^ k, e - k, ⟨by omega, by omega, by omega, fun _ => low⟩, by omega, ?_⟩
  rw [zpow_sub₀ (by norm_num), zpow_natCast]
  push_cast
  field_simp

end Binary64

namespace Binary32

/-! The fields of a number. -/

theorem parts_eq (x : Binary32) : x.parts =
    if x.magnitude / 0x800000 = 0 then (x.magnitude % 0x800000, -149)
    else (0x800000 + x.magnitude % 0x800000, ((x.magnitude / 0x800000 : Nat) : Int) - 150) := by
  simp only [parts, beq_iff_eq]

theorem magnitude_of_parts (x : Binary32) :
    (x.parts.2 + 149).toNat * 0x800000 + x.parts.1 = x.magnitude := by
  rw [parts_eq]
  split
  · dsimp only
    omega
  · dsimp only
    omega

/-- The m of a number has at most 24 digits, and fewer only with the least e. -/
theorem parts_spec (x : Binary32) : x.parts.1 < 2 ^ 24 ∧ -149 ≤ x.parts.2 ∧
    (-149 < x.parts.2 → 2 ^ 23 ≤ x.parts.1) := by
  rw [parts_eq]
  split
  · dsimp only
    omega
  · dsimp only
    omega

theorem parts_pos {x : Binary32} (nonzero : x.magnitude ≠ 0) : 0 < x.parts.1 := by
  rw [parts_eq]
  split
  · dsimp only
    omega
  · dsimp only
    omega

theorem parts_le {x : Binary32} (finite : x.isFinite = true) : x.parts.2 ≤ 104 := by
  have below : x.magnitude < 0x7F800000 := of_decide_eq_true finite
  rw [parts_eq]
  split
  · dsimp only
    omega
  · dsimp only
    omega

theorem ratio_spec (x : Binary32) :
    0 < x.ratio.2 ∧ (x.ratio.1 : ℚ) / x.ratio.2 = x.parts.1 * 2 ^ x.parts.2 :=
  Binary64.ratio_of_parts (by rw [ratio])

theorem magnitude_lt (x : Binary32) : x.magnitude < 0x80000000 :=
  Nat.mod_lt _ (by decide)

theorem ofMagnitude_magnitude (x : Binary32) : ofMagnitude x.isNegative x.magnitude = x := by
  have bits := x.bits.toNat_lt
  have whole : (if x.isNegative then 0x80000000 + x.magnitude else x.magnitude) =
      x.bits.toNat := by
    unfold isNegative magnitude
    split
    next negative =>
      have := of_decide_eq_true negative
      omega
    next notNegative =>
      have := of_decide_eq_false (Bool.eq_false_of_not_eq_true notNegative)
      omega
  rw [ofMagnitude, whole, UInt32.ofNat_toNat]

theorem toNat_ofMagnitude (negative : Bool) {magnitude : Nat} (fits : magnitude < 0x80000000) :
    (ofMagnitude negative magnitude).bits.toNat =
      if negative then 0x80000000 + magnitude else magnitude := by
  have bits : (if negative then 0x80000000 + magnitude else magnitude) < UInt32.size := by
    rw [UInt32.size]
    split <;> omega
  rw [ofMagnitude, UInt32.toNat_ofNat_of_lt' bits]

theorem magnitude_ofMagnitude (negative : Bool) {magnitude : Nat} (fits : magnitude < 0x80000000) :
    (ofMagnitude negative magnitude).magnitude = magnitude := by
  unfold Binary32.magnitude
  rw [toNat_ofMagnitude negative fits]
  split <;> omega

theorem isNegative_ofMagnitude (negative : Bool) {magnitude : Nat}
    (fits : magnitude < 0x80000000) : (ofMagnitude negative magnitude).isNegative = negative := by
  unfold isNegative
  rw [toNat_ofMagnitude negative fits]
  cases negative with
  | false => exact decide_eq_false (by simpa using fits)
  | true => exact decide_eq_true (by simp)

/-! Finite numbers are rounded to themselves, on the way and back. -/

theorem ratio_of_zero {x : Binary32} (zero : x.magnitude = 0) : x.ratio.1 = 0 := by
  have none : x.parts = (0, -149) := by
    rw [parts_eq, zero]
    rfl
  rw [ratio, none]
  rfl

theorem narrow_widen_of_zero {x : Binary32} (zero : x.magnitude = 0) : x.widen.narrow = x := by
  have finite : x.isFinite = true := by
    rw [isFinite, zero]
    decide
  have widened : x.widen = Binary64.ofMagnitude x.isNegative 0 := by
    rw [widen, if_pos finite, ratio_of_zero zero]
    rfl
  have zero' : x.widen.magnitude = 0 := by
    rw [widened, Binary64.magnitude_ofMagnitude _ (by decide)]
  have sign : x.widen.isNegative = x.isNegative := by
    rw [widened, Binary64.isNegative_ofMagnitude _ (by decide)]
  have finite' : x.widen.isFinite = true := by
    rw [Binary64.isFinite, zero']
    decide
  rw [Binary64.narrow, if_pos finite', Binary64.ratio_of_zero zero', sign, ofRatio,
    if_pos (beq_self_eq_true 0), ← zero, ofMagnitude_magnitude]

/-- A finite number is, in double precision, the same ratio. -/
theorem widen_of_finite {x : Binary32} (finite : x.isFinite = true) (nonzero : x.magnitude ≠ 0) :
    x.widen.isFinite = true ∧ x.widen.isNegative = x.isNegative ∧
      (x.widen.parts.1 : ℚ) * 2 ^ x.widen.parts.2 = x.parts.1 * 2 ^ x.parts.2 := by
  obtain ⟨den_pos, ratio⟩ := x.ratio_spec
  obtain ⟨short, least, -⟩ := x.parts_spec
  have greatest := parts_le finite
  have positive : 0 < x.ratio.1 := (Rounding.num_pos_iff den_pos ratio).mpr (parts_pos nonzero)
  obtain ⟨m, e, isParts, small, same⟩ :=
    Binary64.exists_parts (parts_pos nonzero) short least greatest
  have fits : (e + 1074).toNat * 0x10000000000000 + m < Binary64.infiniteMagnitude := by
    have := isParts.short
    rw [Binary64.infiniteMagnitude]
    omega
  have room := fits.trans (by decide : Binary64.infiniteMagnitude < 0x8000000000000000)
  have rounds : Binary64.RoundsTo m e (x.ratio.1 / x.ratio.2) := by
    rw [ratio, ← same]
    exact Binary64.roundsTo_self e
  have widened : x.widen = Binary64.ofMagnitude x.isNegative
      ((e + 1074).toNat * 0x10000000000000 + m) := by
    rw [widen, if_pos finite, Binary64.ofRatio_eq x.isNegative isParts positive den_pos rounds fits]
  refine ⟨?_, ?_, ?_⟩
  · rw [widened, Binary64.isFinite, Binary64.magnitude_ofMagnitude _ room]
    exact decide_eq_true fits
  · rw [widened, Binary64.isNegative_ofMagnitude _ room]
  · rw [widened, Binary64.parts_ofMagnitude _ isParts fits, same]

theorem narrow_widen_of_finite {x : Binary32} (finite : x.isFinite = true) :
    x.widen.narrow = x := by
  by_cases zero : x.magnitude = 0
  · exact narrow_widen_of_zero zero
  obtain ⟨finite', sign, same⟩ := widen_of_finite finite zero
  obtain ⟨den_pos, ratio⟩ := x.widen.ratio_spec
  obtain ⟨short, least, normal⟩ := x.parts_spec
  have below : x.magnitude ≤ infiniteMagnitude := (of_decide_eq_true finite).le
  rw [same] at ratio
  have positive : 0 < x.widen.ratio.1 :=
    (Rounding.num_pos_iff den_pos ratio).mpr (parts_pos zero)
  have rounded : Rounding.toBinary 24 (-149) x.widen.ratio.1 x.widen.ratio.2 = x.parts :=
    Rounding.toBinary_exact positive den_pos ratio short least normal
  rw [Binary64.narrow, if_pos finite', sign, ofRatio, if_neg (by simp [positive.ne']), rounded]
  dsimp only
  rw [magnitude_of_parts, Nat.min_eq_left below, ofMagnitude_magnitude]

/-! NaNs. -/

theorem quietNaN_spec (negative : Bool) {payload : Nat} (fits : payload < 0x800000) :
    (quietNaN negative payload).isNegative = negative ∧
      (quietNaN negative payload).magnitude =
        infiniteMagnitude + if payload < 0x400000 then 0x400000 + payload else payload := by
  have room : (infiniteMagnitude + if payload < 0x400000 then 0x400000 + payload else payload) <
      0x80000000 := by
    rw [infiniteMagnitude]
    split <;> omega
  exact ⟨isNegative_ofMagnitude negative room, magnitude_ofMagnitude negative room⟩

/-- Making a number quiet keeps its sign. A NaN is left that is quiet. -/
theorem quieted_spec (x : Binary32) : x.quieted.isNegative = x.isNegative ∧
    (x.isNaN = false → x.quieted.magnitude = x.magnitude) ∧
    (x.isNaN = true → infiniteMagnitude + 0x400000 ≤ x.quieted.magnitude ∧
      (infiniteMagnitude + 0x400000 ≤ x.magnitude → x.quieted.magnitude = x.magnitude)) := by
  have limit : infiniteMagnitude = 0x7F800000 := rfl
  have room := x.magnitude_lt
  cases nan : x.isNaN with
  | false =>
    rw [quieted, nan, if_neg Bool.false_ne_true]
    exact ⟨rfl, fun _ => rfl, nofun⟩
  | true =>
    have beyond : infiniteMagnitude < x.magnitude := of_decide_eq_true nan
    have payload : x.magnitude - infiniteMagnitude < 0x800000 := by omega
    obtain ⟨sign, magnitude⟩ := quietNaN_spec x.isNegative payload
    rw [quieted, nan, if_pos rfl, sign, magnitude]
    refine ⟨rfl, nofun, fun _ => ⟨?_, fun quiet => ?_⟩⟩
    · split <;> omega
    · split <;> omega

/-- Only a signaling NaN is changed. -/
theorem quieted_eq_self_iff {x : Binary32} : x.quieted = x ↔ x.isSignaling = false := by
  obtain ⟨sign, number, nan⟩ := x.quieted_spec
  have same : x.quieted = x ↔ x.quieted.magnitude = x.magnitude := by
    refine ⟨congrArg magnitude, fun magnitudes => ?_⟩
    rw [← ofMagnitude_magnitude x.quieted, sign, magnitudes, ofMagnitude_magnitude]
  rw [same, isSignaling]
  cases isNaN : x.isNaN with
  | false => exact iff_of_true (number isNaN) rfl
  | true =>
    obtain ⟨quiet, keeps⟩ := nan isNaN
    rw [Bool.true_and, decide_eq_false_iff_not, Nat.not_lt]
    refine ⟨fun magnitudes => ?_, keeps⟩
    rwa [magnitudes] at quiet

theorem quieted_quieted (x : Binary32) : x.quieted.quieted = x.quieted := by
  obtain ⟨-, number, nan⟩ := x.quieted_spec
  rw [quieted_eq_self_iff, isSignaling, Bool.and_eq_false_iff]
  cases isNaN : x.isNaN with
  | false =>
    refine Or.inl ?_
    rw [Binary32.isNaN, number isNaN]
    exact isNaN
  | true => exact Or.inr (decide_eq_false (Nat.not_lt.mpr (nan isNaN).1))

theorem quieted_of_finite {x : Binary32} (finite : x.isFinite = true) : x.quieted = x := by
  have below : x.magnitude < infiniteMagnitude := of_decide_eq_true finite
  have number : x.isNaN = false := decide_eq_false (Nat.lt_asymm below)
  rw [quieted, number, if_neg Bool.false_ne_true]

/-- An infinity or NaN in double precision. -/
theorem widen_of_not_finite {x : Binary32} (infinite : x.isFinite = false) :
    x.widen.isNegative = x.isNegative ∧ x.widen.magnitude =
      Binary64.infiniteMagnitude + (x.quieted.magnitude - infiniteMagnitude) * 0x20000000 := by
  have room := x.quieted.magnitude_lt
  have fits : Binary64.infiniteMagnitude + (x.quieted.magnitude - infiniteMagnitude) * 0x20000000 <
      0x8000000000000000 := by
    rw [Binary64.infiniteMagnitude, infiniteMagnitude]
    omega
  have widened : x.widen = Binary64.ofMagnitude x.isNegative (Binary64.infiniteMagnitude +
      (x.quieted.magnitude - infiniteMagnitude) * 0x20000000) := by
    rw [widen, infinite, if_neg Bool.false_ne_true]
  rw [widened, Binary64.isNegative_ofMagnitude _ fits, Binary64.magnitude_ofMagnitude _ fits]
  exact ⟨rfl, rfl⟩

theorem narrow_widen_of_not_finite {x : Binary32} (infinite : x.isFinite = false) :
    x.widen.narrow = x.quieted := by
  obtain ⟨sign, magnitude⟩ := widen_of_not_finite infinite
  obtain ⟨sign', number, nan⟩ := x.quieted_spec
  have limit : infiniteMagnitude = 0x7F800000 := rfl
  have room := x.quieted.magnitude_lt
  have reached : infiniteMagnitude ≤ x.magnitude :=
    Nat.not_lt.mp (of_decide_eq_false infinite)
  have infinite' : x.widen.isFinite = false := by
    rw [Binary64.isFinite, magnitude]
    exact decide_eq_false (by omega)
  rw [Binary64.narrow, infinite', if_neg Bool.false_ne_true, Binary64.isNaN, magnitude, sign]
  cases isNaN : x.isNaN with
  | false =>
    have same : x.quieted.magnitude = infiniteMagnitude := by
      have atMost := of_decide_eq_false isNaN
      have := number isNaN
      omega
    rw [same, Nat.sub_self, Nat.zero_mul, Nat.add_zero, if_neg (by simp), ← same, ← sign',
      ofMagnitude_magnitude]
  | true =>
    obtain ⟨quiet, -⟩ := nan isNaN
    have beyond : Binary64.infiniteMagnitude < Binary64.infiniteMagnitude +
        (x.quieted.magnitude - infiniteMagnitude) * 0x20000000 := by omega
    have payload : (x.quieted.magnitude - infiniteMagnitude) * 0x20000000 / 0x20000000 =
        x.quieted.magnitude - infiniteMagnitude := by omega
    have restored : infiniteMagnitude + (x.quieted.magnitude - infiniteMagnitude) =
        x.quieted.magnitude := by omega
    rw [if_pos (decide_eq_true beyond), Nat.add_sub_cancel_left, payload, quietNaN,
      if_neg (by omega), restored, ← sign', ofMagnitude_magnitude]

/-- A number comes back from double precision as it was, but a NaN comes back quiet. -/
theorem narrow_widen (x : Binary32) : x.widen.narrow = x.quieted := by
  cases finite : x.isFinite with
  | true => rw [narrow_widen_of_finite finite, quieted_of_finite finite]
  | false => exact narrow_widen_of_not_finite finite

/-- In double precision a NaN cannot be told from the quiet one that it is made. -/
theorem widen_quieted (x : Binary32) : x.quieted.widen = x.widen := by
  cases finite : x.isFinite with
  | true => rw [quieted_of_finite finite]
  | false =>
    obtain ⟨sign, number, nan⟩ := x.quieted_spec
    have reached : infiniteMagnitude ≤ x.magnitude :=
      Nat.not_lt.mp (of_decide_eq_false finite)
    have atLeast : infiniteMagnitude ≤ x.quieted.magnitude := by
      cases isNaN : x.isNaN with
      | false => rwa [number isNaN]
      | true => exact le_trans (Nat.le_add_right _ _) (nan isNaN).1
    have finite' : x.quieted.isFinite = false := decide_eq_false (Nat.not_lt.mpr atLeast)
    rw [widen, widen, finite, finite', if_neg Bool.false_ne_true, if_neg Bool.false_ne_true,
      quieted_quieted, sign]

end Binary32

end RecordQuery
