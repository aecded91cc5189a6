import RecordQuery.Proofs.Number.IntegerText
import RecordQuery.Proofs.Time.InstantOrder

/-!
What the text of an instant tells. Of every year, the text tells the minute and the second that it
shows. Only the part of the second is left out, and together with it the text tells the instant.
-/

namespace RecordQuery.Instant

theorem isDigit_of_mem_fourDigits {n : Nat} {c : Char} (mem : c ∈ (fourDigits n).toList) :
    c.isDigit = true := by
  unfold fourDigits at mem
  rw [String.toList_append, String.toList_ofList, Nat.toString_eq_repr, Nat.toList_repr,
    List.mem_append] at mem
  rcases mem with zero | digit
  · rw [List.eq_of_mem_replicate zero]
    decide
  · exact isDigit_of_mem_toDigits c digit

theorem digitsValue_fourDigits (n : Nat) : digitsValue (fourDigits n).toList = n := by
  unfold fourDigits
  rw [String.toList_append, String.toList_ofList, Nat.toString_eq_repr, Nat.toList_repr,
    digitsValue_append, digitsValue_replicate_zero, digitsValue_toDigits, Nat.zero_mul,
    Nat.zero_add]

theorem fourDigits_inj {m n : Nat} (same : (fourDigits m).toList = (fourDigits n).toList) :
    m = n := by
  rw [← digitsValue_fourDigits m, same, digitsValue_fourDigits]

def yearSign (year : Int) : List Char :=
  if year < 0 then ['-'] else if 9999 < year then ['+'] else []

theorem toList_yearText_eq (year : Int) :
    (yearText year).toList = yearSign year ++ (fourDigits year.natAbs).toList := by
  unfold yearText yearSign
  split
  · rw [String.toList_append]
    rfl
  · split
    · rw [String.toList_append]
      rfl
    · rw [List.nil_append]

theorem not_isDigit_of_mem_yearSign {year : Int} {c : Char} (mem : c ∈ yearSign year) :
    c.isDigit = false := by
  have sign : c = '-' ∨ c = '+' := by
    unfold yearSign at mem
    split at mem
    · exact Or.inl (List.mem_singleton.mp mem)
    · split at mem
      · exact Or.inr (List.mem_singleton.mp mem)
      · cases mem
  rcases sign with rfl | rfl <;> decide

theorem yearSign_eq_minus {year : Int} : yearSign year = ['-'] ↔ year < 0 := by
  unfold yearSign
  split
  · simp [*]
  · split <;> simp [*]

/-- No sign is a digit, so the text of a year tells its digits and its sign. -/
theorem yearText_inj {y z : Int} (same : (yearText y).toList = (yearText z).toList) : y = z := by
  have digits (year : Int) :
      (yearText year).toList.filter Char.isDigit = (fourDigits year.natAbs).toList := by
    have sign : (yearSign year).filter Char.isDigit = [] :=
      List.filter_eq_nil_iff.mpr fun c mem => by simp [not_isDigit_of_mem_yearSign mem]
    rw [toList_yearText_eq, List.filter_append, sign, List.nil_append, List.filter_eq_self]
    exact fun c mem => isDigit_of_mem_fourDigits mem
  have size : y.natAbs = z.natAbs := by
    apply fourDigits_inj
    rw [← digits y, same, digits z]
  rw [toList_yearText_eq, toList_yearText_eq, size] at same
  have signs : yearSign y = yearSign z := List.append_cancel_right same
  have negative : y < 0 ↔ z < 0 := by
    rw [← yearSign_eq_minus, signs, yearSign_eq_minus]
  omega

/-- A field of the text and what follows it. -/
theorem field_inj {width m n : Nat} {sign : Char} {r s : List Char} (fits_m : m < 10 ^ width)
    (fits_n : n < 10 ^ width) (same : padded width m ++ sign :: r = padded width n ++ sign :: s) :
    m = n ∧ r = s := by
  obtain ⟨field, rest⟩ :=
    List.append_inj same ((length_padded width m).trans (length_padded width n).symm)
  refine ⟨?_, (List.cons.inj rest).2⟩
  rw [← digitsValue_padded fits_m, field, digitsValue_padded fits_n]

/-- Instants of one text lie in the same minute and show the same second of it. -/
theorem minute_of_text {a b : Instant} (same : a.text = b.text) :
    a.minute = b.minute ∧ a.shownSecond = b.shownSecond := by
  obtain ⟨month_a, day_a, hour_a, minute_a, second_a⟩ := a.fields_fit
  obtain ⟨month_b, day_b, hour_b, minute_b, second_b⟩ := b.fields_fit
  have chars : a.text.toList = b.text.toList := congrArg String.toList same
  rw [toList_text_after_year, toList_text_after_year] at chars
  -- What follows the year has one length in all texts.
  obtain ⟨years, rest⟩ := List.append_inj' chars (by simp [length_padded])
  obtain ⟨months, rest⟩ := field_inj month_a month_b (List.cons.inj rest).2
  obtain ⟨days, rest⟩ := field_inj day_a day_b rest
  obtain ⟨hours, rest⟩ := field_inj hour_a hour_b rest
  obtain ⟨minutes, rest⟩ := field_inj minute_a minute_b rest
  obtain ⟨seconds, -⟩ := field_inj second_a second_b rest
  have minute : compare a.minute b.minute = .eq := by
    rw [compare_minute, compare_date, yearText_inj years, months, days, hours, minutes]
    simp only [Std.ReflCmp.compare_self, Ordering.then_self]
  exact ⟨Std.LawfulEqCmp.eq_of_compare minute, seconds⟩

/-- The text leaves out only the part of the second. -/
theorem eq_of_text {a b : Instant} (same : a.text = b.text) (part : a.nanos = b.nanos) : a = b := by
  obtain ⟨minutes, shown⟩ := minute_of_text same
  have leaps : a.inLeapSecond = b.inLeapSecond := by
    unfold inLeapSecond
    rw [part]
  unfold shownSecond secondOfDay at shown
  rw [leaps] at shown
  unfold minute at minutes
  have seconds : a.seconds = b.seconds := by omega
  obtain ⟨_, _⟩ := a
  obtain ⟨_, _⟩ := b
  rw [Instant.mk.injEq]
  exact ⟨seconds, part⟩

end RecordQuery.Instant
