import RecordQuery.Proofs.Number.ShortestDecimal
import RecordQuery.Scalar

/-!
The texts of floats. The text of a finite float has digits on both sides of a point, perhaps after
a minus sign, and reads back as the float.
-/

namespace RecordQuery

open Binary64 Rounding

/-! Digits with a point among them. -/

namespace Decimal

/-- The digits before and behind a point stand for the decimal. None stand behind it exactly if the
decimal is whole. -/
structure Spells (whole fraction : List Char) (d : Decimal) : Prop where
  ne_nil : whole ≠ []
  digits : ∀ c ∈ whole ++ fraction, c.isDigit = true
  value : digitsValue (whole ++ fraction) * 10 ^ (-(fraction.length : Int)) = d.value
  whole_iff : fraction = [] ↔ d.isWhole = true

theorem isDigit_of_mem_zeros (n : Nat) : ∀ c ∈ List.replicate n '0', c.isDigit = true := by
  intro c mem
  rw [(List.mem_replicate.mp mem).2]
  decide

/-- Below 1 zeros stand between the point and the digits. -/
theorem spells_small {d : Decimal} (digits : ∀ c ∈ d.digits, c.isDigit = true)
    (nonempty : d.digits ≠ []) (small : d.point ≤ 0) :
    Spells ['0'] (List.replicate (-d.point).toNat '0' ++ d.digits) d where
  ne_nil := List.cons_ne_nil _ _
  digits := by
    rw [List.forall_mem_append, List.forall_mem_append]
    exact ⟨List.forall_mem_singleton.mpr rfl, isDigit_of_mem_zeros _, digits⟩
  value := by
    have leading : digitsValue (['0'] ++ (List.replicate (-d.point).toNat '0' ++ d.digits)) =
        digitsValue d.digits := by
      rw [digitsValue_append, digitsValue_append, digitsValue_replicate_zero]
      have nothing : digitsValue ['0'] = 0 := rfl
      rw [nothing, Nat.zero_mul, Nat.zero_mul, Nat.zero_add, Nat.zero_add]
    rw [leading, List.length_append, List.length_replicate, value]
    congr 2
    push_cast
    omega
  whole_iff := by
    have length := List.length_pos_iff.mpr nonempty
    rw [isWhole, decide_eq_true_eq]
    exact iff_of_false (by simp [nonempty]) (by omega)

/-- From 1 on the point stands among the digits, or zeros fill the places up to it. -/
theorem spells_large {d : Decimal} (digits : ∀ c ∈ d.digits, c.isDigit = true)
    (nonempty : d.digits ≠ []) (large : 0 < d.point) :
    Spells (d.digits.take d.point.toNat ++
        List.replicate (d.point.toNat - (d.digits.take d.point.toNat).length) '0')
      (d.digits.drop d.point.toNat) d where
  ne_nil := by
    intro empty
    have first := (List.append_eq_nil_iff.mp empty).1
    rw [List.take_eq_nil_iff] at first
    rcases first with none | none
    · omega
    · exact nonempty none
  digits := by
    rw [List.forall_mem_append, List.forall_mem_append]
    exact ⟨⟨fun c mem => digits c (List.mem_of_mem_take mem), isDigit_of_mem_zeros _⟩,
      fun c mem => digits c (List.mem_of_mem_drop mem)⟩
  value := by
    have taken := List.take_append_drop d.point.toNat d.digits
    rw [value]
    rcases Nat.le_total d.digits.length d.point.toNat with short | long
    · rw [List.take_of_length_le short, List.drop_eq_nil_of_le short, List.append_nil,
        digitsValue_append, digitsValue_replicate_zero, List.length_replicate, Nat.add_zero,
        List.length_nil, Nat.cast_zero, neg_zero, zpow_zero, mul_one, Nat.cast_mul, Nat.cast_pow,
        Nat.cast_ofNat, ← zpow_natCast]
      congr 2
      omega
    · rw [List.length_take_of_le long, Nat.sub_self, List.replicate_zero, List.append_nil, taken,
        List.length_drop]
      congr 2
      omega
  whole_iff := by
    rw [isWhole, decide_eq_true_eq, List.drop_eq_nil_iff]
    omega

/-- The plain text of a decimal spells the decimal, with a point if digits stand behind it. -/
theorem plain_spec {d : Decimal} (digits : ∀ c ∈ d.digits, c.isDigit = true)
    (positive : 0 < digitsValue d.digits) :
    ∃ whole fraction : List Char, Spells whole fraction d ∧
      d.plain.toList = whole ++ (if fraction = [] then [] else '.' :: fraction) := by
  have nonempty : d.digits ≠ [] := by
    intro empty
    rw [empty] at positive
    exact absurd positive (by decide)
  unfold plain
  rw [String.toList_ofList]
  split
  next small =>
    refine ⟨_, _, spells_small digits nonempty small, ?_⟩
    rw [if_neg (by simp [nonempty])]
    rfl
  next large =>
    refine ⟨_, _, spells_large digits nonempty (not_le.mp large), ?_⟩
    simp only [List.isEmpty_iff]

end Decimal

namespace Binary64

/-- No interval reaches down to 10^-331. -/
theorem RoundsTo.tiny_lt {m : Nat} {e : Int} {q : ℚ} (isParts : IsParts m e)
    (rounds : RoundsTo m e q) : (10 : ℚ) ^ (-331 : Int) < q := by
  have half := (lowerHalf_le m e).2
  have one : (1 : ℚ) ≤ m := by exact_mod_cast isParts.positive
  calc
    (10 : ℚ) ^ (-331 : Int) < 2 ^ (-1075 : Int) := by
      have powers : 2 ^ 1075 < 10 ^ 331 := by decide +kernel
      rw [zpow_neg, zpow_neg]
      apply inv_strictAnti₀ (zpow_pos (by norm_num) _)
      exact_mod_cast powers
    _ = 1 / 2 * 2 ^ (-1074 : Int) := by
      rw [(by norm_num : (-1075 : Int) = -1 + -1074), zpow_add₀ (by norm_num)]
      norm_num
    _ ≤ (m - lowerHalf m e) * 2 ^ e := by
      gcongr
      · linarith
      · linarith
      · norm_num
      · exact isParts.least
    _ ≤ q := rounds.low

/-- The interval of a finite float does not reach up to 10^330. -/
theorem RoundsTo.lt_huge {x : Binary64} (finite : x.isFinite = true) (nonzero : x.isZero = false)
    {q : ℚ} (rounds : RoundsTo x.parts.1 x.parts.2 q) : q < 10 ^ (330 : Int) := by
  have largest := parts_le finite
  calc
    q < 2 ^ (x.parts.2 + 53) := rounds.lt_zpow (isParts_parts nonzero)
    _ ≤ 2 ^ (1024 : Int) := zpow_le_zpow_right₀ (by norm_num) (by omega)
    _ < 10 ^ (330 : Int) := by
      have powers : 2 ^ 1024 < 10 ^ 330 := by decide +kernel
      exact_mod_cast powers

/-- A decimal that is rounded to a float reads as the float: neither guard on its size applies. -/
theorem ofDecimal_eq {x : Binary64} (finite : x.isFinite = true) (nonzero : x.isZero = false)
    {digits : Nat} (positive : 0 < digits) {exponent : Int}
    (rounds : RoundsTo x.parts.1 x.parts.2 (digits * 10 ^ exponent)) :
    ofDecimal x.isNegative digits exponent = x := by
  obtain ⟨l, length, low, high⟩ := Decimal.toDigits_length_spec positive
  have unit : (0 : ℚ) < 10 ^ exponent := zpow_pos (by norm_num) _
  have ten : (1 : ℚ) < 10 := by norm_num
  -- the decimal is at least 10^(size - 1) and less than 10^size
  have size_low : (10 : ℚ) ^ (l + exponent) ≤ digits * 10 ^ exponent := by
    rw [zpow_add₀ (by norm_num), zpow_natCast]
    gcongr
    exact_mod_cast low
  have size_high : (digits : ℚ) * 10 ^ exponent < 10 ^ (((l + 1 : Nat) : Int) + exponent) := by
    rw [zpow_add₀ (by norm_num), zpow_natCast]
    gcongr
    exact_mod_cast high
  have notSmall := (zpow_lt_zpow_iff_right₀ ten).mp
    ((rounds.tiny_lt (isParts_parts nonzero)).trans size_high)
  have notLarge := (zpow_lt_zpow_iff_right₀ ten).mp
    (size_low.trans_lt (rounds.lt_huge finite nonzero))
  unfold ofDecimal
  rw [length]
  dsimp only
  rw [if_neg, if_neg (by omega)]
  · split
    next nonneg =>
      rw [← ten_zpow_of_nonneg nonneg, ← Nat.cast_mul, ← div_one (Nat.cast _), ← Nat.cast_one]
        at rounds
      exact ofRatio_of_roundsTo finite nonzero (Nat.mul_pos positive (Nat.pow_pos (by decide)))
        (by decide) rounds
    next negative =>
      have inverse : (digits : ℚ) * 10 ^ exponent =
          digits / (Nat.pow 10 (-exponent).toNat : Nat) := by
        rw [ten_zpow_of_nonneg (by omega), zpow_neg, div_inv_eq_mul]
      rw [inverse] at rounds
      exact ofRatio_of_roundsTo finite nonzero positive (Nat.pow_pos (by decide)) rounds
  · simp only [Bool.or_eq_true, beq_iff_eq, decide_eq_true_eq, not_or]
    omega

/-- What stands for the shortest decimal of a float reads as the float. -/
theorem ofDecimal_of_shortest {x : Binary64} (finite : x.isFinite = true)
    (nonzero : x.isZero = false) (tie : Tie) {digits : Nat} {exponent : Int}
    (same : (digits : ℚ) * 10 ^ exponent = (Decimal.shortest tie x).value) :
    ofDecimal x.isNegative digits exponent = x := by
  obtain ⟨rounds, -, positive, -⟩ := Decimal.shortest_spec tie finite nonzero
  have value_pos : (0 : ℚ) < (Decimal.shortest tie x).value :=
    mul_pos (Nat.cast_pos.mpr positive) (zpow_pos (by norm_num) _)
  rw [← same] at value_pos rounds
  have digits_pos : 0 < digits := by
    rw [Nat.pos_iff_ne_zero]
    rintro rfl
    rw [Nat.cast_zero, zero_mul] at value_pos
    exact lt_irrefl _ value_pos
  exact ofDecimal_eq finite nonzero digits_pos rounds

/-- The text of a finite float is its sign and the plain text of its shortest decimal. -/
theorem toList_text {x : Binary64} (finite : x.isFinite = true) :
    x.text.toList = (if x.isNegative then ['-'] else []) ++
      (if x.isZero then ['0'] else (Decimal.shortest .up x).plain.toList) := by
  have notNaN : x.isNaN = false := by
    have below : x.magnitude < infiniteMagnitude := of_decide_eq_true finite
    exact decide_eq_false (by omega)
  rw [Binary64.text, notNaN, finite, if_neg Bool.false_ne_true]
  cases x.isNegative <;> cases x.isZero <;> simp

theorem toLower_of_isDigit {c : Char} (digit : c.isDigit = true) : c.toLower = c := by
  have range := Text.toNat_of_isDigit digit
  have code : c.val.toNat = c.toNat := rfl
  have capitals : 'A'.val.toNat = 65 := rfl
  unfold Char.toLower
  split
  next upper =>
    simp only [ge_iff_le, UInt32.le_iff_toNat_le] at upper
    omega
  next => rfl

/-- Digits with a point among them are read without an exponent. -/
theorem readUnsigned?_pointed (negative : Bool) {whole fraction : List Char} (nonempty : whole ≠ [])
    (digits : ∀ c ∈ whole ++ fraction, c.isDigit = true) :
    readUnsigned? negative (whole ++ '.' :: fraction) =
      some (ofDecimal negative (digitsValue (whole ++ fraction)) (-(fraction.length : Int))) := by
  obtain ⟨c, cs, rfl⟩ := List.exists_cons_of_ne_nil nonempty
  rw [List.forall_mem_append] at digits
  have first := digits.1 c List.mem_cons_self
  have noWord {word : String} {d : Char} (begins : word.toList.head? = some d)
      (letter : d.isDigit = false) :
      String.ofList ((c :: cs ++ '.' :: fraction).map Char.toLower) ≠ word := by
    rintro rfl
    rw [String.toList_ofList, List.cons_append, List.map_cons, List.head?_cons,
      toLower_of_isDigit first] at begins
    rw [← Option.some.inj begins, first] at letter
    cases letter
  have wholeEnds : ('.' :: fraction).head?.any Char.isDigit = false := rfl
  have fractionEnds : ([] : List Char).head?.any Char.isDigit = false := rfl
  have taken := Text.takeWhile_run digits.2 fractionEnds
  have left := Text.dropWhile_run digits.2 fractionEnds
  rw [List.append_nil] at taken left
  unfold readUnsigned?
  split
  next word => exact absurd word (noWord rfl (by decide))
  next word => exact absurd word (noWord rfl (by decide))
  next word => exact absurd word (noWord rfl (by decide))
  next =>
    simp only [Text.takeWhile_run digits.1 wholeEnds, Text.dropWhile_run digits.1 wholeEnds, taken,
      left, List.isEmpty_cons, Bool.false_and, Bool.false_eq_true, if_false, readExponent?,
      Option.map_some, zero_sub]

theorem read?_pointed (negative : Bool) {whole fraction : List Char} (nonempty : whole ≠ [])
    (digits : ∀ c ∈ whole ++ fraction, c.isDigit = true) :
    read? ((if negative then ['-'] else []) ++ (whole ++ '.' :: fraction)) =
      some (ofDecimal negative (digitsValue (whole ++ fraction)) (-(fraction.length : Int))) := by
  rw [← readUnsigned?_pointed negative nonempty digits]
  obtain ⟨c, cs, rfl⟩ := List.exists_cons_of_ne_nil nonempty
  obtain ⟨notMinus, notPlus⟩ := sign_not_head (List.forall_mem_append.mp digits).1
  cases negative with
  | true => rfl
  | false =>
    simp only [Bool.false_eq_true, if_false, List.nil_append, List.cons_append]
    unfold read?
    split
    next same => exact absurd (List.cons.inj same).1 notMinus
    next same => exact absurd (List.cons.inj same).1 notPlus
    next => rfl

end Binary64

namespace Scalar

/-- The parts of the text of a finite float. -/
theorem floatText_spec {x : Binary64} (finite : x.isFinite = true) :
    ∃ whole fraction : List Char,
      (floatText x).toList =
        (if x.isNegative then ['-'] else []) ++ (whole ++ '.' :: fraction) ∧
      whole ≠ [] ∧ fraction ≠ [] ∧ (∀ c ∈ whole ++ fraction, c.isDigit = true) ∧
      ofDecimal x.isNegative (digitsValue (whole ++ fraction)) (-(fraction.length : Int)) = x := by
  have text := toList_text finite
  cases zero : x.isZero with
  | true =>
    have magnitude : x.magnitude = 0 := eq_of_beq zero
    have whole : x.isWhole = true := by
      have parts := magnitude_of_parts x
      have nothing : x.parts.1 = 0 := by omega
      exact (Decimal.isWhole_iff x).mpr ⟨finite, 0, by rw [nothing, Nat.cast_zero, zero_mul]⟩
    refine ⟨['0'], ['0'], ?_, by decide, by decide, List.all_eq_true.mp rfl, ?_⟩
    · rw [floatText, if_pos whole, String.toList_append, text, zero, List.append_assoc]
      rfl
    · have same := ofMagnitude_magnitude x
      rw [magnitude] at same
      exact same
  | false =>
    rw [zero, if_neg Bool.false_ne_true] at text
    obtain ⟨-, digits, positive, whole⟩ := Decimal.shortest_spec .up finite zero
    obtain ⟨front, behind, spells, written⟩ := Decimal.plain_spec digits positive
    have none_iff := spells.whole_iff
    rw [whole] at none_iff
    cases isWhole : x.isWhole with
    | true =>
      obtain rfl := none_iff.mpr isWhole
      have all := spells.digits
      have value := spells.value
      rw [List.append_nil] at all value
      refine ⟨front, ['0'], ?_, spells.ne_nil, by decide, ?_,
        ofDecimal_of_shortest finite zero .up ?_⟩
      · rw [floatText, if_pos isWhole, String.toList_append, text, written, if_pos rfl,
          List.append_nil, List.append_assoc]
        rfl
      · rw [List.forall_mem_append]
        exact ⟨all, List.forall_mem_singleton.mpr rfl⟩
      · rw [← value, digitsValue_append]
        simp [digitsValue, digitValue]
    | false =>
      have pointed : behind ≠ [] := fun none => by
        rw [none_iff.mp none] at isWhole
        cases isWhole
      refine ⟨front, behind, ?_, spells.ne_nil, pointed, spells.digits,
        ofDecimal_of_shortest finite zero .up spells.value⟩
      rw [floatText, if_neg (by rw [isWhole]; decide), text, written, if_neg pointed]

/-- The text of a finite float reads back as the float. -/
theorem read?_floatText {x : Binary64} (finite : x.isFinite = true) :
    Binary64.read? (floatText x).toList = some x := by
  obtain ⟨whole, fraction, written, nonempty, -, digits, denotes⟩ := floatText_spec finite
  rw [written, read?_pointed x.isNegative nonempty digits, denotes]

end Scalar

end RecordQuery
