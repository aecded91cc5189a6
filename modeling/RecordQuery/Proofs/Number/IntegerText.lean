import Mathlib.Algebra.Group.Nat.Defs
import RecordQuery.Number.Integer
import RecordQuery.Proofs.Text.Run

/-!
Whole numbers and their decimal texts. The text of a whole number reads back as that number of 64
bits, signed or unsigned, and is refused exactly if there is no such number.
-/

namespace RecordQuery

theorem isDigit_of_mem_toDigits {n : Nat} : ∀ c ∈ Nat.toDigits 10 n, c.isDigit = true :=
  fun _ mem => Nat.isDigit_of_mem_toDigits (by decide) (by decide) mem

theorem digitsValue_toDigits (n : Nat) : digitsValue (Nat.toDigits 10 n) = n := by
  have value : Nat.ofDigitChars 10 (Nat.toDigits 10 n) 0 = n := Nat.ofDigitChars_ten_toDigits
  rw [Nat.ofDigitChars_eq_foldl] at value
  exact value

/-- Digits are read as the number that they stand for. -/
theorem readNat?_digits {cs : List Char} (nonempty : cs ≠ [])
    (digits : ∀ c ∈ cs, c.isDigit = true) : readNat? cs = some (digitsValue cs) := by
  have all : cs.all Char.isDigit = true := List.all_eq_true.mpr digits
  have notEmpty : cs.isEmpty = false := List.isEmpty_eq_false_iff.mpr nonempty
  simp only [readNat?, notEmpty, all]
  rfl

theorem readNat?_toDigits (n : Nat) : readNat? (Nat.toDigits 10 n) = some n := by
  rw [readNat?_digits Nat.toDigits_ne_nil isDigit_of_mem_toDigits, digitsValue_toDigits]

/-- Digits have no sign before them. -/
theorem sign_not_head {c : Char} {cs : List Char} (digits : ∀ d ∈ c :: cs, d.isDigit = true) :
    c ≠ '-' ∧ c ≠ '+' := by
  have digit := digits c List.mem_cons_self
  constructor
  · rintro rfl
    cases digit
  · rintro rfl
    cases digit

theorem readInt?_digits {cs : List Char} (nonempty : cs ≠ [])
    (digits : ∀ c ∈ cs, c.isDigit = true) : readInt? cs = some (digitsValue cs : Int) := by
  have read := readNat?_digits nonempty digits
  obtain ⟨c, cs, rfl⟩ := List.exists_cons_of_ne_nil nonempty
  obtain ⟨notMinus, notPlus⟩ := sign_not_head digits
  unfold readInt?
  split
  next same => exact absurd (List.cons.inj same).1 notMinus
  next same => exact absurd (List.cons.inj same).1 notPlus
  next =>
    rw [read]
    rfl

theorem readInt?_toDigits (n : Nat) : readInt? (Nat.toDigits 10 n) = some (n : Int) := by
  rw [readInt?_digits Nat.toDigits_ne_nil isDigit_of_mem_toDigits, digitsValue_toDigits]

/-- The digits of a number, after a minus sign if it is negative. -/
theorem toList_toString_int (n : Int) : (toString n).toList =
    if n < 0 then '-' :: Nat.toDigits 10 n.natAbs else Nat.toDigits 10 n.natAbs := by
  cases n with
  | ofNat m =>
    have notNegative : ¬ Int.ofNat m < 0 := by
      simp
    rw [if_neg notNegative]
    exact Nat.toList_repr
  | negSucc m =>
    rw [if_pos (Int.negSucc_lt_zero m)]
    show ("-" ++ (m + 1).repr).toList = _
    rw [String.toList_append, Nat.toList_repr]
    rfl

theorem readInt?_toString (n : Int) : readInt? (toString n).toList = some n := by
  rw [toList_toString_int]
  split
  next negative =>
    rw [readInt?, readNat?_toDigits]
    show some (-(n.natAbs : Int)) = some n
    congr 1
    omega
  next nonnegative =>
    rw [readInt?_toDigits]
    congr 1
    omega

theorem int64?_eq_some {n : Int} {m : Int64} : int64? n = some m ↔ m.toInt = n := by
  unfold int64?
  constructor
  · intro found
    split at found
    next within =>
      rw [← Option.some.inj found]
      exact Int64.toInt_ofInt_of_le within.1 (Int.lt_add_one_of_le within.2)
    next => cases found
  · rintro rfl
    rw [if_pos ⟨Int64.minValue_le_toInt m, Int64.toInt_le m⟩, Int64.ofInt_toInt]

theorem uint64?_eq_some {n : Int} {m : UInt64} : uint64? n = some m ↔ (m.toNat : Int) = n := by
  unfold uint64?
  constructor
  · intro found
    split at found
    next within =>
      have size : n.toNat % 2 ^ 64 = n.toNat := Nat.mod_eq_of_lt (by omega)
      rw [← Option.some.inj found, UInt64.toNat_ofNat', size]
      omega
    next => cases found
  · rintro rfl
    have := m.toNat_lt
    rw [if_pos (by omega), Int.toNat_natCast, UInt64.ofNat_toNat]

/-- The text of any whole number reads as a signed number exactly if there is one. -/
theorem readInt64?_toString_int (n : Int) : readInt64? (toString n).toList = int64? n := by
  rw [readInt64?, readInt?_toString, Option.bind_some]

theorem readInt64?_toString (n : Int64) : readInt64? (toString n.toInt).toList = some n :=
  (readInt64?_toString_int n.toInt).trans (int64?_eq_some.mpr rfl)

theorem readInt64?_eq_none {n : Nat} (beyond : Int64.maxValue.toInt < n) :
    readInt64? (toString n).toList = none := by
  have reads : readInt64? (toString n).toList = int64? n := readInt64?_toString_int n
  rw [reads, int64?, if_neg (by omega)]

theorem le_foldl_digits (n : Nat) (cs : List Char) :
    n ≤ cs.foldl (fun n c => 10 * n + digitValue c) n := by
  induction cs generalizing n with
  | nil => exact Nat.le_refl n
  | cons c cs ih =>
    have := ih (10 * n + digitValue c)
    rw [List.foldl_cons]
    omega

/-- Digits are read to the end if their number is within the limit. -/
theorem readDigitsUpTo_of_le {limit n : Nat} {cs : List Char}
    (digits : ∀ c ∈ cs, c.isDigit = true)
    (within : cs.foldl (fun n c => 10 * n + digitValue c) n ≤ limit) :
    readDigitsUpTo limit n cs = .ok (cs.foldl (fun n c => 10 * n + digitValue c) n) := by
  induction cs generalizing n with
  | nil => rfl
  | cons c cs ih =>
    rw [List.forall_mem_cons] at digits
    rw [List.foldl_cons] at within ⊢
    have := le_foldl_digits (10 * n + digitValue c) cs
    have small : ¬ limit < 10 * n + digitValue c := by
      omega
    simp only [readDigitsUpTo, digits.1, small, Bool.not_true, Bool.false_eq_true, if_false]
    exact ih digits.2 within

theorem readDigitsUpTo_cons {limit n : Nat} {c : Char} {cs : List Char} (digit : c.isDigit = true)
    (within : 10 * n + digitValue c ≤ limit) :
    readDigitsUpTo limit n (c :: cs) = readDigitsUpTo limit (10 * n + digitValue c) cs := by
  simp [readDigitsUpTo, digit, Nat.not_lt.mpr within]

/-- Digits are read with a number exactly if nothing else stands among them and it is the number
that they stand for, within the limit. -/
theorem readDigitsUpTo_eq_ok {limit n m : Nat} {cs : List Char} (start : n ≤ limit) :
    readDigitsUpTo limit n cs = .ok m ↔ (∀ c ∈ cs, c.isDigit = true) ∧
      cs.foldl (fun n c => 10 * n + digitValue c) n = m ∧ m ≤ limit := by
  constructor
  · induction cs generalizing n with
    | nil =>
      intro read
      cases read
      exact ⟨nofun, rfl, start⟩
    | cons c cs ih =>
      intro read
      by_cases digit : c.isDigit = true
      · by_cases within : 10 * n + digitValue c ≤ limit
        · rw [readDigitsUpTo_cons digit within] at read
          obtain ⟨digits, value, bound⟩ := ih within read
          exact ⟨List.forall_mem_cons.mpr ⟨digit, digits⟩, value, bound⟩
        · simp [readDigitsUpTo, digit, Nat.not_le.mp within] at read
      · simp [readDigitsUpTo, digit] at read
  · rintro ⟨digits, rfl, within⟩
    exact readDigitsUpTo_of_le digits within

/-- Reading stops for the size of the number exactly if the text begins with digits that stand for
a number beyond the limit. -/
theorem readDigitsUpTo_eq_tooLarge {limit n : Nat} {cs : List Char} (start : n ≤ limit) :
    readDigitsUpTo limit n cs = .error .tooLarge ↔ ∃ ds rest, cs = ds ++ rest ∧
      (∀ d ∈ ds, d.isDigit = true) ∧
      limit < ds.foldl (fun n c => 10 * n + digitValue c) n := by
  induction cs generalizing n with
  | nil =>
    refine iff_of_false nofun ?_
    rintro ⟨ds, rest, split, -, beyond⟩
    obtain ⟨rfl, rfl⟩ := List.append_eq_nil_iff.mp split.symm
    exact absurd beyond (Nat.not_lt.mpr start)
  | cons c cs ih =>
    by_cases digit : c.isDigit = true
    · by_cases within : 10 * n + digitValue c ≤ limit
      · rw [readDigitsUpTo_cons digit within, ih within]
        constructor
        · rintro ⟨ds, rest, rfl, digits, beyond⟩
          exact ⟨c :: ds, rest, rfl, List.forall_mem_cons.mpr ⟨digit, digits⟩, beyond⟩
        · rintro ⟨ds, rest, split, digits, beyond⟩
          cases ds with
          | nil => exact absurd beyond (Nat.not_lt.mpr start)
          | cons d ds =>
            cases split
            exact ⟨ds, rest, rfl, (List.forall_mem_cons.mp digits).2, beyond⟩
      · have beyond : limit < 10 * n + digitValue c := Nat.not_le.mp within
        refine iff_of_true (by simp [readDigitsUpTo, digit, beyond]) ⟨[c], cs, rfl, ?_, beyond⟩
        simp [digit]
    · refine iff_of_false (by simp [readDigitsUpTo, digit]) ?_
      rintro ⟨ds, rest, split, digits, beyond⟩
      cases ds with
      | nil => exact absurd beyond (Nat.not_lt.mpr start)
      | cons d ds =>
        cases split
        exact digit (digits c List.mem_cons_self)

theorem readCount_digits {cs : List Char} (nonempty : cs ≠ [])
    (digits : ∀ c ∈ cs, c.isDigit = true) : readCount cs =
      if digitsValue cs ≤ 0xFFFFFFFFFFFFFFFF then .ok (digitsValue cs) else .error .tooLarge := by
  obtain ⟨c, cs, rfl⟩ := List.exists_cons_of_ne_nil nonempty
  have read : readCount (c :: cs) = readDigitsUpTo 0xFFFFFFFFFFFFFFFF 0 (c :: cs) := by
    unfold readCount
    split
    next same => exact absurd (List.cons.inj same).1 (sign_not_head digits).2
    next => rfl
  rw [read]
  split
  next within => exact readDigitsUpTo_of_le digits within
  next beyond =>
    rw [readDigitsUpTo_eq_tooLarge (Nat.zero_le _)]
    exact ⟨c :: cs, [], (List.append_nil _).symm, digits, Nat.lt_of_not_le beyond⟩

/-- Digits are read as an unsigned number exactly if there is one. -/
theorem readUInt64?_digits {cs : List Char} (nonempty : cs ≠ [])
    (digits : ∀ c ∈ cs, c.isDigit = true) : readUInt64? cs = uint64? (digitsValue cs) := by
  rw [readUInt64?, readCount_digits nonempty digits, uint64?]
  by_cases within : digitsValue cs ≤ 0xFFFFFFFFFFFFFFFF
  · rw [if_pos within, if_pos (by omega), Int.toNat_natCast]
  · rw [if_neg within, if_neg (by omega)]

/-- The text of any whole number reads as an unsigned number exactly if there is one. -/
theorem readUInt64?_toString_int (n : Int) : readUInt64? (toString n).toList = uint64? n := by
  rw [toList_toString_int]
  split
  next negative =>
    rw [uint64?, if_neg (by omega)]
    rfl
  next nonnegative =>
    have size : (n.natAbs : Int) = n := by
      omega
    rw [readUInt64?_digits Nat.toDigits_ne_nil isDigit_of_mem_toDigits, digitsValue_toDigits, size]

theorem readUInt64?_toString (n : UInt64) : readUInt64? (toString n.toNat).toList = some n :=
  (readUInt64?_toString_int n.toNat).trans (uint64?_eq_some.mpr rfl)

theorem digitValue_le {c : Char} (digit : c.isDigit = true) : digitValue c ≤ 9 := by
  have range := Text.toNat_of_isDigit digit
  unfold digitValue
  omega

theorem foldl_digits (n : Nat) (cs : List Char) :
    cs.foldl (fun n c => 10 * n + digitValue c) n = n * 10 ^ cs.length + digitsValue cs := by
  unfold digitsValue
  induction cs generalizing n with
  | nil => simp
  | cons c cs ih =>
    rw [List.foldl_cons, List.foldl_cons, ih, ih (10 * 0 + digitValue c), List.length_cons,
      Nat.pow_succ, Nat.add_mul, Nat.mul_zero, Nat.zero_add, Nat.mul_comm 10 n, Nat.mul_assoc,
      Nat.mul_comm 10, Nat.add_assoc]

theorem digitsValue_append (xs ys : List Char) :
    digitsValue (xs ++ ys) = digitsValue xs * 10 ^ ys.length + digitsValue ys := by
  rw [digitsValue, List.foldl_append, foldl_digits]
  rfl

theorem digitsValue_replicate_zero (j : Nat) : digitsValue (List.replicate j '0') = 0 := by
  induction j with
  | zero => rfl
  | succ j ih => rw [List.replicate_succ', digitsValue_append, ih, Nat.zero_mul]; rfl

/-- Digits are worth less than the power of ten that their number gives. -/
theorem digitsValue_lt {cs : List Char} (digits : ∀ c ∈ cs, c.isDigit = true) :
    digitsValue cs < 10 ^ cs.length := by
  have after (n : Nat) :
      cs.foldl (fun n c => 10 * n + digitValue c) n < 10 ^ cs.length * (n + 1) := by
    induction cs generalizing n with
    | nil => simp
    | cons c cs ih =>
      rw [List.forall_mem_cons] at digits
      have value := digitValue_le digits.1
      rw [List.foldl_cons, List.length_cons, Nat.pow_succ, Nat.mul_assoc]
      refine Nat.lt_of_lt_of_le (ih digits.2 _) (Nat.mul_le_mul_left _ ?_)
      omega
  have whole := after 0
  rwa [Nat.zero_add, Nat.mul_one] at whole

end RecordQuery
