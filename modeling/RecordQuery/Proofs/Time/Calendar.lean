import RecordQuery.Proofs.Order.Lexicographic
import RecordQuery.Time.Calendar

/-!
The calendar in order. Every day lies in its year and in its month, and days compare by year, month
and day of the month.
-/

namespace RecordQuery.Calendar

def daysInYear (leap : Bool) : Nat :=
  if leap then 366 else 365

theorem daysBeforeYear_succ (year : Int) :
    daysBeforeYear (year + 1) = daysBeforeYear year + daysInYear (isLeap year) := by
  unfold daysBeforeYear daysInYear
  by_cases leap : isLeap year = true
  · rw [if_pos leap]
    simp only [isLeap, Bool.and_eq_true, Bool.or_eq_true, beq_iff_eq, bne_iff_ne] at leap
    omega
  · rw [if_neg leap]
    simp only [isLeap, Bool.and_eq_true, Bool.or_eq_true, beq_iff_eq, bne_iff_ne] at leap
    omega

theorem daysBeforeYear_mono {y z : Int} (le : y ≤ z) : daysBeforeYear y ≤ daysBeforeYear z := by
  unfold daysBeforeYear
  omega

/-- The year of a day begins at the day or before it, and the next year begins after it. -/
theorem yearOf_holds (day : Int) :
    daysBeforeYear (yearOf day) ≤ day ∧ day < daysBeforeYear (yearOf day + 1) := by
  -- the estimate from the mean length of a year is at most one year off, in either direction
  have after_previous : daysBeforeYear (day * 400 / 146097 + 1 - 1) ≤ day := by
    unfold daysBeforeYear
    omega
  have before_second_next : day < daysBeforeYear (day * 400 / 146097 + 1 + 1 + 1) := by
    unfold daysBeforeYear
    omega
  unfold yearOf
  dsimp only
  split
  next early =>
    rw [Int.sub_add_cancel]
    exact ⟨after_previous, early⟩
  next notEarly =>
    split
    next late => exact ⟨late, before_second_next⟩
    next notLate => omega

/-- The day of its year, counted from 0. -/
def dayOfYear (day : Int) : Nat :=
  (day - daysBeforeYear (yearOf day)).toNat

theorem dayOfYear_add (day : Int) : daysBeforeYear (yearOf day) + dayOfYear day = day := by
  have holds := yearOf_holds day
  unfold dayOfYear
  omega

theorem dayOfYear_lt (day : Int) : dayOfYear day < daysInYear (isLeap (yearOf day)) := by
  have holds := yearOf_holds day
  rw [daysBeforeYear_succ] at holds
  unfold dayOfYear
  omega

/-- The month of a day of the year begins at the day or before it, at most 30 days before, and the
next month begins after it. -/
theorem monthOf_holds : ∀ leap : Bool, ∀ n < daysInYear leap,
    (1 ≤ monthOf leap n ∧ monthOf leap n ≤ 12) ∧ daysBeforeMonth leap (monthOf leap n) ≤ n ∧
      n < daysBeforeMonth leap (monthOf leap n + 1) ∧
      n ≤ daysBeforeMonth leap (monthOf leap n) + 30 := by
  decide +kernel

theorem daysBeforeMonth_mono : ∀ leap : Bool, ∀ m ≤ 12, ∀ n ≤ 12, m < n →
    daysBeforeMonth leap (m + 1) ≤ daysBeforeMonth leap n := by
  decide

theorem dateOf_eq (day : Int) : dateOf day =
    ⟨yearOf day, monthOf (isLeap (yearOf day)) (dayOfYear day),
      dayOfYear day - daysBeforeMonth (isLeap (yearOf day))
        (monthOf (isLeap (yearOf day)) (dayOfYear day)) + 1⟩ :=
  rfl

theorem month_le (day : Int) : (dateOf day).month ≤ 12 := by
  obtain ⟨range, -⟩ := monthOf_holds _ _ (dayOfYear_lt day)
  exact range.2

theorem day_le (day : Int) : (dateOf day).day ≤ 31 := by
  obtain ⟨-, -, -, near⟩ := monthOf_holds _ _ (dayOfYear_lt day)
  rw [dateOf_eq]
  dsimp only
  omega

theorem isValid_dateOf (day : Int) : isValid (dateOf day) = true := by
  obtain ⟨⟨first, last⟩, begun, next, -⟩ := monthOf_holds _ _ (dayOfYear_lt day)
  simp only [isValid, Bool.and_eq_true, decide_eq_true_eq]
  rw [dateOf_eq, daysInMonth]
  dsimp only
  omega

/-- A day is the day number of its date. -/
theorem dayOf_dateOf (day : Int) : dayOf (dateOf day) = day := by
  obtain ⟨-, begun, -⟩ := monthOf_holds _ _ (dayOfYear_lt day)
  have split := dayOfYear_add day
  rw [dayOf, dateOf_eq]
  dsimp only
  omega

/-- Days of a year compare by month and then by the day of the month. -/
theorem compare_dayOfYear (leap : Bool) {m n : Nat} (m_lt : m < daysInYear leap)
    (n_lt : n < daysInYear leap) :
    compare m n = (compare (monthOf leap m) (monthOf leap n)).then
      (compare (m - daysBeforeMonth leap (monthOf leap m) + 1)
        (n - daysBeforeMonth leap (monthOf leap n) + 1)) := by
  obtain ⟨range_m, first_m, next_m, -⟩ := monthOf_holds leap m m_lt
  obtain ⟨range_n, first_n, next_n, -⟩ := monthOf_holds leap n n_lt
  simp only [← compare_natCast]
  apply compare_of_cells
  · intro less
    have := daysBeforeMonth_mono leap _ range_m.2 _ range_n.2 (by omega)
    omega
  · intro greater
    have := daysBeforeMonth_mono leap _ range_n.2 _ range_m.2 (by omega)
    omega
  · intro same
    have months : monthOf leap m = monthOf leap n := by omega
    rw [months] at first_m ⊢
    omega

theorem compare_yearOf (d e : Int) :
    compare d e = (compare (yearOf d) (yearOf e)).then (compare (dayOfYear d) (dayOfYear e)) := by
  have holds_d := yearOf_holds d
  have holds_e := yearOf_holds e
  rw [← compare_natCast]
  apply compare_of_cells
  · intro less
    have := daysBeforeYear_mono (y := yearOf d + 1) (z := yearOf e) (by omega)
    omega
  · intro greater
    have := daysBeforeYear_mono (y := yearOf e + 1) (z := yearOf d) (by omega)
    omega
  · intro same
    have split_d := dayOfYear_add d
    have split_e := dayOfYear_add e
    rw [same] at split_d
    omega

/-- Days compare by year, month and day of the month. -/
theorem compare_dateOf (d e : Int) :
    compare d e = (compare (dateOf d).year (dateOf e).year).then
      ((compare (dateOf d).month (dateOf e).month).then
        (compare (dateOf d).day (dateOf e).day)) := by
  rw [compare_yearOf, dateOf_eq, dateOf_eq]
  cases years : compare (yearOf d) (yearOf e) with
  | lt => rfl
  | gt => rfl
  | eq =>
    -- months begin on the same days in both years only because the years are the same
    rw [Int.compare_eq_eq] at years
    have lt_d := dayOfYear_lt d
    rw [years] at lt_d ⊢
    exact compare_dayOfYear _ lt_d (dayOfYear_lt e)

end RecordQuery.Calendar
