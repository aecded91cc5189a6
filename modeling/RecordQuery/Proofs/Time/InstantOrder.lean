import RecordQuery.Matching
import RecordQuery.Proofs.Number.PaddedDigits
import RecordQuery.Proofs.Time.Calendar

/-!
The order of instants. Instants compare by their texts. In the years that have four digits that is
the order in time, to the second: fields of one width stand in the text from the year down to the
second, a leap second is second 60 of its minute, and what follows the second is left out. A leap
second in the middle of a minute, which no clock shows, counts as the second after it.
-/

namespace RecordQuery

namespace Instant

/-- The text of the year has four digits and no sign. -/
structure HasFourDigitYear (t : Instant) : Prop where
  nonnegative : 0 ≤ t.date.year
  short : t.date.year ≤ 9999

instance (t : Instant) : Decidable t.HasFourDigitYear :=
  decidable_of_iff (0 ≤ t.date.year ∧ t.date.year ≤ 9999)
    ⟨fun ⟨low, high⟩ => ⟨low, high⟩, fun ⟨low, high⟩ => ⟨low, high⟩⟩

/-- Minutes since the start of 1970. -/
def minute (t : Instant) : Int :=
  t.seconds / 60

/-- The second of the minute, 60 in a leap second. -/
def shownSecond (t : Instant) : Nat :=
  t.secondOfDay % 60 + if t.inLeapSecond then 1 else 0

/-- A leap second is counted with the last second of a minute. -/
def LeapEndsMinute (t : Instant) : Prop :=
  t.inLeapSecond = true → t.seconds % 60 = 59

instance (t : Instant) : Decidable t.LeapEndsMinute :=
  inferInstanceAs (Decidable (_ → _))

theorem toList_twoDigits {n : Nat} (fits : n < 100) : (twoDigits n).toList = padded 2 n := by
  rw [padded_eq_toDigits (by decide) fits]
  unfold twoDigits
  split
  next single =>
    rw [String.toList_append, Nat.toString_eq_repr, Nat.toList_repr,
      Nat.toDigits_of_lt_base single]
    rfl
  next double =>
    have digits := Nat.toDigits_of_base_le (b := 10) (by decide) (Nat.not_lt.mp double)
    rw [Nat.toDigits_of_lt_base (by omega : n / 10 < 10)] at digits
    rw [Nat.toString_eq_repr, Nat.toList_repr, digits]
    rfl

theorem toList_fourDigits {n : Nat} (fits : n < 10000) : (fourDigits n).toList = padded 4 n := by
  rw [padded_eq_toDigits (by decide) fits]
  unfold fourDigits
  rw [String.toList_append, String.toList_ofList, ← String.length_toList, Nat.toString_eq_repr,
    Nat.toList_repr]

theorem toList_yearText {year : Int} (nonnegative : 0 ≤ year) (short : year ≤ 9999) :
    (yearText year).toList = padded 4 year.toNat := by
  unfold yearText
  rw [if_neg (by omega), if_neg (by omega), toList_fourDigits (by omega)]
  congr 1
  omega

theorem secondOfDay_lt (t : Instant) : t.secondOfDay < 86400 := by
  unfold secondOfDay
  omega

theorem shownSecond_le (t : Instant) : t.shownSecond ≤ 60 := by
  unfold shownSecond
  split <;> omega

/-- The fields after the year have two digits. -/
theorem fields_fit (t : Instant) : t.date.month < 10 ^ 2 ∧ t.date.day < 10 ^ 2 ∧
    t.secondOfDay / 3600 < 10 ^ 2 ∧ t.secondOfDay / 60 % 60 < 10 ^ 2 ∧
    t.shownSecond < 10 ^ 2 := by
  have month : t.date.month ≤ 12 := Calendar.month_le _
  have day : t.date.day ≤ 31 := Calendar.day_le _
  have clock := t.secondOfDay_lt
  have second := t.shownSecond_le
  omega

/-- The fields of the text after the year, each at its width. -/
theorem toList_text_after_year (t : Instant) :
    t.text.toList = (yearText t.date.year).toList ++ '-' :: (padded 2 t.date.month ++ '-' ::
      (padded 2 t.date.day ++ 'T' :: (padded 2 (t.secondOfDay / 3600) ++ ':' ::
        (padded 2 (t.secondOfDay / 60 % 60) ++ ':' :: (padded 2 t.shownSecond ++ 'Z' :: []))))) := by
  obtain ⟨month, day, hour, minute, second⟩ := t.fields_fit
  unfold text
  simp only [String.toList_append]
  rw [toList_twoDigits month, toList_twoDigits day, toList_twoDigits hour,
    toList_twoDigits minute, ← shownSecond, toList_twoDigits second]
  simp only [List.append_assoc]
  rfl

/-- The fields of the text, each at its width. -/
theorem toList_text {t : Instant} (year : t.HasFourDigitYear) :
    t.text.toList = padded 4 t.date.year.toNat ++ '-' :: (padded 2 t.date.month ++ '-' ::
      (padded 2 t.date.day ++ 'T' :: (padded 2 (t.secondOfDay / 3600) ++ ':' ::
        (padded 2 (t.secondOfDay / 60 % 60) ++ ':' :: (padded 2 t.shownSecond ++ 'Z' :: []))))) := by
  rw [toList_text_after_year, toList_yearText year.nonnegative year.short]

/-- The text is written in digits and the four signs between them. -/
theorem digit_or_sign_of_mem_text {t : Instant} (year : t.HasFourDigitYear) {c : Char}
    (mem : c ∈ t.text.toList) : c.isDigit = true ∨ c ∈ ['-', 'T', ':', 'Z'] := by
  rw [toList_text year] at mem
  simp only [List.mem_append, List.mem_cons, List.not_mem_nil, or_false] at mem ⊢
  rcases mem with h | rfl | h | rfl | h | rfl | h | rfl | h | rfl | h | rfl
  all_goals first | exact .inl (isDigit_of_mem_padded h) | decide

/-- A field and the sign after it decide before the fields that follow. -/
theorem compare_field {width m n : Nat} (fits_m : m < 10 ^ width) (fits_n : n < 10 ^ width)
    (sign : Char) (r s : List Char) :
    compare (padded width m ++ sign :: r) (padded width n ++ sign :: s) =
      (compare m n).then (compare r s) := by
  have signs : compare sign sign = .eq := Std.ReflCmp.compare_self
  rw [Text.compare_append (by rw [length_padded, length_padded]), compare_padded fits_m fits_n,
    List.compare_cons_cons, signs, Ordering.eq_then]

/-- Instants compare field by field. -/
theorem compare_text_fields {a b : Instant} (year_a : a.HasFourDigitYear)
    (year_b : b.HasFourDigitYear) :
    compare a.text b.text = (compare a.date.year b.date.year).then
      ((compare a.date.month b.date.month).then ((compare a.date.day b.date.day).then
        ((compare (a.secondOfDay / 3600) (b.secondOfDay / 3600)).then
          ((compare (a.secondOfDay / 60 % 60) (b.secondOfDay / 60 % 60)).then
            (compare a.shownSecond b.shownSecond))))) := by
  obtain ⟨month_a, day_a, hour_a, minute_a, second_a⟩ := a.fields_fit
  obtain ⟨month_b, day_b, hour_b, minute_b, second_b⟩ := b.fields_fit
  obtain ⟨nonnegative_a, short_a⟩ := year_a
  obtain ⟨nonnegative_b, short_b⟩ := year_b
  have years : compare a.date.year.toNat b.date.year.toNat = compare a.date.year b.date.year := by
    rw [← compare_natCast, Int.toNat_of_nonneg nonnegative_a, Int.toNat_of_nonneg nonnegative_b]
  rw [Text.compare_toList, toList_text ⟨nonnegative_a, short_a⟩,
    toList_text ⟨nonnegative_b, short_b⟩, compare_field (by omega) (by omega), years,
    compare_field month_a month_b, compare_field day_a day_b, compare_field hour_a hour_b,
    compare_field minute_a minute_b, compare_field second_a second_b, List.compare_nil_nil,
    Ordering.then_eq]

/-- Minutes compare by the day, the hour and the minute of the hour. -/
theorem compare_minute (a b : Instant) :
    compare a.minute b.minute = (compare (a.seconds / 86400) (b.seconds / 86400)).then
      ((compare (a.secondOfDay / 3600) (b.secondOfDay / 3600)).then
        (compare (a.secondOfDay / 60 % 60) (b.secondOfDay / 60 % 60))) := by
  have day (t : Instant) : t.minute / 1440 = t.seconds / 86400 := by
    unfold minute
    omega
  have hour (t : Instant) : t.minute % 1440 / 60 = (t.secondOfDay / 3600 : Nat) := by
    unfold minute secondOfDay
    omega
  have minute (t : Instant) : t.minute % 1440 % 60 = (t.secondOfDay / 60 % 60 : Nat) := by
    unfold Instant.minute secondOfDay
    omega
  rw [compare_div_mod (by decide : (0 : Int) < 1440),
    compare_div_mod (by decide : (0 : Int) < 60) (a.minute % 1440), day, day, hour, hour, minute,
    minute, compare_natCast, compare_natCast]

theorem compare_date (a b : Instant) :
    compare (a.seconds / 86400) (b.seconds / 86400) = (compare a.date.year b.date.year).then
      ((compare a.date.month b.date.month).then (compare a.date.day b.date.day)) := by
  have shifted := Calendar.compare_dateOf (a.seconds / 86400 + epochDay) (b.seconds / 86400 + epochDay)
  rw [← date, ← date] at shifted
  rw [← shifted]
  simp only [Int.compare_eq_ite_lt, Int.add_lt_add_iff_right]

/-- In the years of four digits the texts of instants compare by the minute and then by the second
that they show. -/
theorem compare_text {a b : Instant} (year_a : a.HasFourDigitYear) (year_b : b.HasFourDigitYear) :
    compare a.text b.text =
      (compare a.minute b.minute).then (compare a.shownSecond b.shownSecond) := by
  rw [compare_text_fields year_a year_b, compare_minute, compare_date]
  simp only [Ordering.then_assoc]

/-- The place of the shown second, with 61 places to every minute. -/
def mark (t : Instant) : Int :=
  61 * t.minute + t.shownSecond

theorem compare_mark (a b : Instant) :
    compare a.mark b.mark =
      (compare a.minute b.minute).then (compare a.shownSecond b.shownSecond) := by
  have second_a := a.shownSecond_le
  have second_b := b.shownSecond_le
  rw [← compare_natCast]
  unfold mark
  apply compare_of_cells
  · omega
  · omega
  · omega

def leap (t : Instant) : Nat :=
  if t.inLeapSecond then 1 else 0

theorem compare_leap (a b : Instant) :
    compare a.leap b.leap = compare a.inLeapSecond b.inLeapSecond := by
  unfold leap
  cases a.inLeapSecond <;> cases b.inLeapSecond <;> rfl

/-- A leap second takes the place after the last second of its minute, so the places keep the order
of seconds and put a leap second after the second that it is counted with. -/
theorem compare_mark_of_leapEndsMinute {a b : Instant} (ends_a : a.LeapEndsMinute)
    (ends_b : b.LeapEndsMinute) :
    compare a.mark b.mark =
      (compare a.seconds b.seconds).then (compare a.inLeapSecond b.inLeapSecond) := by
  have place (t : Instant) (ends : t.LeapEndsMinute) :
      t.mark = 61 * (t.seconds / 60) + t.seconds % 60 + t.leap ∧ t.leap ≤ 1 ∧
        (t.leap = 1 → t.seconds % 60 = 59) := by
    unfold mark minute shownSecond secondOfDay leap
    unfold LeapEndsMinute at ends
    split
    next inLeap =>
      have last := ends inLeap
      omega
    next notInLeap => omega
  obtain ⟨mark_a, bound_a, last_a⟩ := place a ends_a
  obtain ⟨mark_b, bound_b, last_b⟩ := place b ends_b
  rw [← compare_leap, ← compare_natCast]
  apply compare_of_cells
  · omega
  · omega
  · intro same
    rw [same] at mark_a
    omega

/-! Leap seconds in the middle of a minute. -/

/-- Only a leap second in the middle of a minute is shown as another second. -/
theorem carried_eq_self_iff {t : Instant} : t.carried = t ↔ t.LeapEndsMinute := by
  unfold carried LeapEndsMinute
  split
  next inMiddle =>
    refine iff_of_false (fun same => ?_) fun ends => inMiddle.2 (ends inMiddle.1)
    have next := congrArg seconds same
    dsimp only at next
    omega
  next notInMiddle =>
    refine iff_of_true rfl fun inLeap => ?_
    exact Classical.byContradiction fun middle => notInMiddle ⟨inLeap, middle⟩

/-- In the middle of a minute a leap second carries over to the second after it, which is none. -/
theorem carried_of_not_leapEndsMinute {t : Instant} (middle : ¬ t.LeapEndsMinute) :
    t.carried.seconds = t.seconds + 1 ∧ t.carried.inLeapSecond = false := by
  have inMiddle : t.inLeapSecond ∧ t.seconds % 60 ≠ 59 := by
    unfold LeapEndsMinute at middle
    exact Classical.not_imp.mp middle
  have part : t.nanos % 1000000000 < 1000000000 := Nat.mod_lt _ (by decide)
  rw [carried, if_pos inMiddle]
  refine ⟨rfl, ?_⟩
  unfold inLeapSecond
  exact decide_eq_false (Nat.not_le_of_lt part)

theorem leapEndsMinute_carried (t : Instant) : t.carried.LeapEndsMinute := by
  by_cases ends : t.LeapEndsMinute
  · rwa [carried_eq_self_iff.mpr ends]
  · intro inLeap
    rw [(carried_of_not_leapEndsMinute ends).2] at inLeap
    cases inLeap

/-- The second of the minute from the seconds since 1970. -/
theorem shownSecond_eq (t : Instant) : (t.shownSecond : Int) = t.seconds % 60 + t.leap := by
  have split : t.shownSecond = t.secondOfDay % 60 + t.leap := rfl
  rw [split]
  unfold secondOfDay
  omega

theorem leap_eq_one {t : Instant} : t.leap = 1 ↔ t.inLeapSecond = true := by
  unfold leap
  cases t.inLeapSecond <;> decide

theorem leap_eq_zero {t : Instant} : t.leap = 0 ↔ t.inLeapSecond = false := by
  unfold leap
  cases t.inLeapSecond <;> decide

/-- Carrying over changes neither the minute nor the second of it that is shown. -/
theorem minute_carried (t : Instant) :
    t.carried.minute = t.minute ∧ t.carried.shownSecond = t.shownSecond := by
  by_cases ends : t.LeapEndsMinute
  · rw [carried_eq_self_iff.mpr ends]
    exact ⟨rfl, rfl⟩
  · obtain ⟨next, none⟩ := carried_of_not_leapEndsMinute ends
    obtain ⟨inLeap, middle⟩ := Classical.not_imp.mp ends
    have leap := leap_eq_one.mpr inLeap
    have leap' := leap_eq_zero.mpr none
    have shown := t.shownSecond_eq
    have shown' := t.carried.shownSecond_eq
    rw [next, leap'] at shown'
    rw [leap] at shown
    unfold minute
    rw [next]
    omega

end Instant

open Instant in
/-- Instants of the years 0 to 9999 are ordered by the seconds since 1970, with a leap second after
the second that it is counted with. Parts of a second do not count. A leap second in the middle of a
minute counts as the next second, and all others count as they are. -/
theorem Value.order_time {a b : Instant} (year_a : a.HasFourDigitYear)
    (year_b : b.HasFourDigitYear) :
    Value.order (.scalar (.time a)) (.scalar (.time b)) =
        .ok (compareLex (compareOn Instant.seconds) (compareOn inLeapSecond) a.carried b.carried) ∧
      ∀ t : Instant, (t.LeapEndsMinute → t.carried = t) ∧
        (¬ t.LeapEndsMinute →
          t.carried.seconds = t.seconds + 1 ∧ t.carried.inLeapSecond = false) := by
  refine ⟨?_, fun t => ⟨carried_eq_self_iff.mpr, carried_of_not_leapEndsMinute⟩⟩
  have byText : Value.order (.scalar (.time a)) (.scalar (.time b)) =
      .ok (compare a.text b.text) := rfl
  obtain ⟨minute_a, shown_a⟩ := a.minute_carried
  obtain ⟨minute_b, shown_b⟩ := b.minute_carried
  rw [byText, compare_text year_a year_b, ← minute_a, ← minute_b, ← shown_a, ← shown_b,
    ← compare_mark, compare_mark_of_leapEndsMinute a.leapEndsMinute_carried
      b.leapEndsMinute_carried]
  rfl

/-- The leap second before 1970 comes after the last nanosecond of second 59 and before 1970. -/
theorem Value.order_time_leapSecond :
    Value.order (.scalar (.time ⟨-1, 999999999⟩)) (.scalar (.time ⟨-1, 1500000000⟩)) = .ok .lt ∧
      Value.order (.scalar (.time ⟨-1, 1500000000⟩)) (.scalar (.time ⟨0, 0⟩)) = .ok .lt := by
  have second : (⟨-1, 999999999⟩ : Instant).HasFourDigitYear := by decide
  have leap : (⟨-1, 1500000000⟩ : Instant).HasFourDigitYear := by decide
  have next : (⟨0, 0⟩ : Instant).HasFourDigitYear := by decide
  exact ⟨(Value.order_time second leap).1, (Value.order_time leap next).1⟩

/-- A leap second after second 30 is shown as second 31, and so it is not before that one. -/
theorem Value.order_time_midMinute :
    (⟨30, 1500000000⟩ : Instant).HasFourDigitYear ∧ (⟨31, 0⟩ : Instant).HasFourDigitYear ∧
      Value.order (.scalar (.time ⟨30, 1500000000⟩)) (.scalar (.time ⟨31, 0⟩)) = .ok .eq ∧
      compareLex (compareOn Instant.seconds) (compareOn Instant.inLeapSecond)
        ⟨30, 1500000000⟩ ⟨31, 0⟩ = .lt :=
  ⟨by decide, by decide, rfl, by decide⟩

end RecordQuery
