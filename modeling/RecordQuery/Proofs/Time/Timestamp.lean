import RecordQuery.Proofs.Number.IntegerText
import RecordQuery.Proofs.Time.InstantOrder

/-!
Instants read from timestamps. Second 60 is the leap second at the end of its minute, whatever the
offset from UTC, since offsets are whole minutes. The text of an instant of the years 0 to 9999 is
a timestamp, and it is read as the second that the text shows.
-/

namespace RecordQuery.Timestamp

theorem fraction?_lt {cs rest : List Char} {nanos : Nat}
    (read : fraction? cs = some (nanos, rest)) : nanos < 1000000000 := by
  unfold fraction? at read
  split at read
  next after =>
    dsimp only at read
    split at read
    · cases read
    · injection read with value
      obtain ⟨rfl, -⟩ := Prod.mk.inj value
      have short := List.length_take_le 9 (after.takeWhile Char.isDigit)
      have digits : ∀ c ∈ (after.takeWhile Char.isDigit).take 9, c.isDigit = true := by
        intro c mem
        have all := List.all_takeWhile (p := Char.isDigit) (l := after)
        exact List.all_eq_true.mp all c (List.mem_of_mem_take mem)
      calc
        digitsValue _ * 10 ^ (9 - _) < 10 ^ _ * 10 ^ (9 - _) :=
          Nat.mul_lt_mul_of_pos_right (digitsValue_lt digits) (Nat.pow_pos (by decide))
        _ = 10 ^ 9 := by rw [← Nat.pow_add, Nat.add_sub_cancel' short]
  · injection read with value
    obtain ⟨rfl, -⟩ := Prod.mk.inj value
    decide

theorem offset?_mod {cs : List Char} {offset : Int} (read : offset? cs = some offset) :
    offset % 60 = 0 := by
  unfold offset? at read
  split at read
  · cases read
    rfl
  · cases read
    rfl
  · cases read
  · simp only [bind, Option.bind_eq_some_iff] at read
    obtain ⟨eastward, -, ⟨hours, _⟩, -, _, -, ⟨minutes, _⟩, -, read⟩ := read
    dsimp only at read
    split at read
    · injection read with value
      subst value
      split <;> omega
    · cases read

/-- An instant read from a timestamp is in a leap second only at the end of a minute. -/
theorem read?_leapEndsMinute {cs : List Char} {t : Instant} (read : read? cs = some t) :
    t.LeapEndsMinute := by
  unfold read? at read
  simp only [bind, Option.bind_eq_some_iff] at read
  obtain ⟨⟨year, _⟩, -, _, -, ⟨month, _⟩, -, _, -, ⟨day, _⟩, -, _, -, ⟨hour, _⟩, -, _, -,
    ⟨minute, _⟩, -, _, -, ⟨second, _⟩, -, ⟨nanos, _⟩, fraction, offset, wholeMinutes, read⟩ := read
  have below := fraction?_lt fraction
  have minutes := offset?_mod wholeMinutes
  dsimp only at read
  split at read
  · injection read with value
    subst value
    unfold Instant.LeapEndsMinute Instant.inLeapSecond Instant.ofDate
    by_cases leap : second = 60
    · simp only [leap, beq_self_eq_true, if_true]
      omega
    · simp only [leap, beq_iff_eq, if_false, decide_eq_true_eq]
      omega
  · cases read

theorem digits?_padded {width n : Nat} (fits : n < 10 ^ width) (rest : List Char) :
    digits? width (padded width n ++ rest) = some (n, rest) := by
  have taken : (padded width n ++ rest).take width = padded width n :=
    List.take_left' (length_padded width n)
  have left : (padded width n ++ rest).drop width = rest :=
    List.drop_left' (length_padded width n)
  have all : (padded width n).all Char.isDigit = true :=
    List.all_eq_true.mpr fun _ mem => isDigit_of_mem_padded mem
  simp only [digits?, taken, left, length_padded, all, digitsValue_padded fits, beq_self_eq_true,
    Bool.and_self, if_true]

/-- The instant of the fields of a timestamp in UTC. -/
theorem read?_fields {year month day hour minute second : Nat} (year_le : year ≤ 9999)
    (valid : Calendar.isValid ⟨year, month, day⟩ = true) (month_le : month ≤ 12)
    (day_le : day ≤ 31) (hour_le : hour ≤ 23) (minute_le : minute ≤ 59) (second_le : second ≤ 60) :
    read? (padded 4 year ++ '-' :: (padded 2 month ++ '-' :: (padded 2 day ++ 'T' ::
      (padded 2 hour ++ ':' :: (padded 2 minute ++ ':' :: (padded 2 second ++ 'Z' :: [])))))) =
    some (Instant.ofDate ⟨year, month, day⟩
      (hour * 3600 + minute * 60 + if second = 60 then 59 else second)
      (if second = 60 then 1000000000 else 0)) := by
  have fraction : fraction? ['Z'] = some (0, ['Z']) := rfl
  have offset : offset? ['Z'] = some 0 := rfl
  have after (c : Char) (rest : List Char) : after? c (c :: rest) = some rest :=
    if_pos (beq_self_eq_true c)
  have afterDate (rest : List Char) : afterDate? ('T' :: rest) = some rest := rfl
  have within : (Calendar.isValid ⟨year, month, day⟩ && decide (hour ≤ 23) &&
      decide (minute ≤ 59) && decide (second ≤ 60)) = true := by
    simp only [valid, hour_le, minute_le, second_le, decide_true, Bool.and_self]
  refine Option.bind_eq_some_iff.mpr ⟨_, digits?_padded (by omega : year < 10 ^ 4) _, ?_⟩
  refine Option.bind_eq_some_iff.mpr ⟨_, after '-' _, ?_⟩
  refine Option.bind_eq_some_iff.mpr ⟨_, digits?_padded (by omega : month < 10 ^ 2) _, ?_⟩
  refine Option.bind_eq_some_iff.mpr ⟨_, after '-' _, ?_⟩
  refine Option.bind_eq_some_iff.mpr ⟨_, digits?_padded (by omega : day < 10 ^ 2) _, ?_⟩
  refine Option.bind_eq_some_iff.mpr ⟨_, afterDate _, ?_⟩
  refine Option.bind_eq_some_iff.mpr ⟨_, digits?_padded (by omega : hour < 10 ^ 2) _, ?_⟩
  refine Option.bind_eq_some_iff.mpr ⟨_, after ':' _, ?_⟩
  refine Option.bind_eq_some_iff.mpr ⟨_, digits?_padded (by omega : minute < 10 ^ 2) _, ?_⟩
  refine Option.bind_eq_some_iff.mpr ⟨_, after ':' _, ?_⟩
  refine Option.bind_eq_some_iff.mpr ⟨_, digits?_padded (by omega : second < 10 ^ 2) _, ?_⟩
  refine Option.bind_eq_some_iff.mpr ⟨_, fraction, ?_⟩
  refine Option.bind_eq_some_iff.mpr ⟨_, offset, ?_⟩
  dsimp only
  rw [if_pos within]
  simp only [beq_iff_eq, Int.sub_zero, Nat.add_zero]

end RecordQuery.Timestamp

namespace RecordQuery.Instant

/-- The start of the second that the text shows. -/
def startOfShown (t : Instant) : Instant :=
  ⟨t.carried.seconds, if t.carried.inLeapSecond then 1000000000 else 0⟩

theorem leap_le_one (t : Instant) : t.leap ≤ 1 := by
  unfold leap
  split <;> decide

theorem inLeapSecond_startOfShown (t : Instant) :
    t.startOfShown.inLeapSecond = t.carried.inLeapSecond := by
  unfold startOfShown
  cases t.carried.inLeapSecond <;> rfl

theorem minute_startOfShown (t : Instant) : t.startOfShown.minute = t.minute :=
  t.minute_carried.1

theorem shownSecond_startOfShown (t : Instant) :
    t.startOfShown.shownSecond = t.shownSecond := by
  have clock : t.startOfShown.secondOfDay = t.carried.secondOfDay := rfl
  rw [← t.minute_carried.2, shownSecond, inLeapSecond_startOfShown, clock, shownSecond]

/-- The clock shows second 60 in a leap second that ends its minute, and otherwise the second
itself. -/
theorem seconds_startOfShown (t : Instant) :
    t.startOfShown.seconds = t.minute * 60 + (if t.shownSecond = 60 then 59 else t.shownSecond) ∧
      t.startOfShown.nanos = if t.shownSecond = 60 then 1000000000 else 0 := by
  obtain ⟨minutes, shown⟩ := t.minute_carried
  have second := t.carried.shownSecond_eq
  have leap_le := t.carried.leap_le_one
  have last (inLeap : t.carried.leap = 1) : t.carried.seconds % 60 = 59 :=
    t.leapEndsMinute_carried (leap_eq_one.mp inLeap)
  have sixty : t.shownSecond = 60 ↔ t.carried.inLeapSecond = true := by
    rw [← leap_eq_one]
    omega
  unfold minute at minutes ⊢
  constructor
  · change t.carried.seconds = _
    split <;> omega
  · simp only [startOfShown, sixty]

theorem date_eq_of_minute {a b : Instant} (same : a.minute = b.minute) : a.date = b.date := by
  have day : a.seconds / 86400 = b.seconds / 86400 := by
    unfold minute at same
    omega
  rw [date, date, day]

/-- All instants that show one second have one text. -/
theorem text_startOfShown {t : Instant} (year : t.HasFourDigitYear) :
    t.startOfShown.text = t.text := by
  have minutes := t.minute_startOfShown
  have sameYear : t.startOfShown.HasFourDigitYear := by
    constructor <;> rw [date_eq_of_minute minutes]
    · exact year.nonnegative
    · exact year.short
  have sameMinute : compare t.minute t.minute = .eq := Std.ReflCmp.compare_self
  have sameSecond : compare t.shownSecond t.shownSecond = .eq := Std.ReflCmp.compare_self
  have sameText : compare t.startOfShown.text t.text = .eq := by
    rw [compare_text sameYear year, minutes, shownSecond_startOfShown, sameMinute, sameSecond]
    rfl
  exact Std.LawfulEqCmp.eq_of_compare sameText

/-- The text of an instant is read as the second that it shows. -/
theorem read?_text {t : Instant} (year : t.HasFourDigitYear) :
    Timestamp.read? t.text.toList = some t.startOfShown := by
  have nonnegative := year.nonnegative
  have short := year.short
  have clock := t.secondOfDay_lt
  have date : (⟨t.date.year.toNat, t.date.month, t.date.day⟩ : Date) = t.date := by
    rw [Int.toNat_of_nonneg nonnegative]
  have valid : Calendar.isValid ⟨t.date.year.toNat, t.date.month, t.date.day⟩ = true := by
    rw [date]
    exact Calendar.isValid_dateOf _
  have day : Calendar.dayOf t.date - epochDay = t.seconds / 86400 := by
    rw [Instant.date, Calendar.dayOf_dateOf]
    omega
  have inDay : (t.secondOfDay : Int) = t.seconds % 86400 := by
    unfold secondOfDay
    omega
  obtain ⟨seconds, nanos⟩ := t.seconds_startOfShown
  rw [toList_text year, Timestamp.read?_fields (by omega) valid (Calendar.month_le _)
    (Calendar.day_le _) (by omega) (by omega) t.shownSecond_le, date, ofDate, day]
  have same : t.startOfShown = ⟨t.startOfShown.seconds, t.startOfShown.nanos⟩ := rfl
  rw [same, seconds, nanos]
  congr 2
  unfold minute
  split <;> omega

end RecordQuery.Instant
