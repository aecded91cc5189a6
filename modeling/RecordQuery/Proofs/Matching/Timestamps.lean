import RecordQuery.Proofs.Matching.Negation
import RecordQuery.Proofs.Time.Timestamp

/-!
Instants against timestamps. A condition compares an instant with the UTC text of the instant that
a timestamp denotes. That decides the order in time, to the second, also where the offset takes a
timestamp back into the year before year 0. But the sign of a year after 9999 comes before all
digits, so that a timestamp which its offset takes into that year counts as earlier than every
instant of the years 0 to 9999.
-/

namespace RecordQuery

namespace Instant

/-- The order in time of what is shown, to the second: by the minute, and then by the second of the
minute, which is 60 in a leap second that ends its minute. A leap second in the middle of a minute
is shown as the second after it. -/
def inTime (a b : Instant) : Ordering :=
  compareLex (compareOn minute) (compareOn shownSecond) a b

theorem inTime_of_leapEndsMinute {a b : Instant} (ends_a : a.LeapEndsMinute)
    (ends_b : b.LeapEndsMinute) :
    inTime a b = compareLex (compareOn seconds) (compareOn inLeapSecond) a b := by
  have byMark : inTime a b = compare a.mark b.mark := (compare_mark a b).symm
  rw [byMark, compare_mark_of_leapEndsMinute ends_a ends_b]
  rfl

/-- Different years decide before all else. -/
theorem inTime_of_year {a b : Instant} {ordering : Ordering}
    (years : compare a.date.year b.date.year = ordering) (differ : ordering ≠ .eq) :
    inTime a b = ordering := by
  have parts : inTime a b = (compare a.minute b.minute).then
      (compare a.shownSecond b.shownSecond) := rfl
  rw [parts, compare_minute, compare_date, years]
  cases ordering with
  | eq => exact absurd rfl differ
  | lt | gt => rfl

/-- Signs come before digits. -/
theorem compare_digit_sign : ∀ i < 10, ∀ sign ∈ ['-', '+'],
    compare (Nat.digitChar i) sign = .gt := by
  have minus : ∀ i < 10, compare (Nat.digitChar i) '-' = .gt := by decide
  have plus : ∀ i < 10, compare (Nat.digitChar i) '+' = .gt := by decide
  intro i small sign mem
  rcases List.mem_cons.mp mem with rfl | mem
  · exact minus i small
  · rw [List.mem_singleton.mp mem]
    exact plus i small

theorem exists_padded_cons (width n : Nat) :
    ∃ i < 10, ∃ rest, padded (width + 1) n = Nat.digitChar i :: rest := by
  induction width generalizing n with
  | zero => exact ⟨n % 10, Nat.mod_lt n (by decide), [], rfl⟩
  | succ width ih =>
    obtain ⟨i, small, rest, front⟩ := ih (n / 10)
    exact ⟨i, small, rest ++ [Nat.digitChar (n % 10)], by rw [padded, front, List.cons_append]⟩

/-- A year before 0 or after 9999 has a sign. -/
theorem exists_sign {t : Instant} (signed : ¬ t.HasFourDigitYear) :
    ∃ sign ∈ ['-', '+'], ∃ rest, t.text.toList = sign :: rest := by
  have year : t.date.year < 0 ∨ 9999 < t.date.year := by
    by_contra short
    exact signed ⟨by omega, by omega⟩
  rcases year with before | after
  · have front : (yearText t.date.year).toList = '-' :: (fourDigits t.date.year.natAbs).toList := by
      rw [yearText, if_pos before, String.toList_append]
      rfl
    exact ⟨'-', by decide, _, by simp only [text, String.toList_append, front]; rfl⟩
  · have front : (yearText t.date.year).toList = '+' :: (fourDigits t.date.year.natAbs).toList := by
      rw [yearText, if_neg (by omega), if_pos after, String.toList_append]
      rfl
    exact ⟨'+', by decide, _, by simp only [text, String.toList_append, front]; rfl⟩

/-- Signs come before digits, so the text of a year without a sign is greater. -/
theorem compare_text_signed {t u : Instant} (year : t.HasFourDigitYear)
    (signed : ¬ u.HasFourDigitYear) : compare t.text u.text = .gt := by
  obtain ⟨sign, mem, rest, signText⟩ := exists_sign signed
  obtain ⟨i, small, digits, yearDigits⟩ := exists_padded_cons 3 t.date.year.toNat
  rw [Text.compare_toList, toList_text year, yearDigits, signText, List.cons_append,
    List.compare_cons_cons, compare_digit_sign i small sign mem]
  rfl

/-- Up to the year 9999 the text of an instant tells its order in time to an instant of the years 0
to 9999, and after that it tells the opposite. -/
theorem compare_text_inTime {t u : Instant} (year : t.HasFourDigitYear) :
    (u.date.year ≤ 9999 → compare t.text u.text = inTime t u) ∧
      (9999 < u.date.year → compare t.text u.text = .gt ∧ inTime t u = .lt) := by
  have nonnegative := year.nonnegative
  have short := year.short
  constructor
  · intro notAfter
    by_cases before : u.date.year < 0
    · have signed : ¬ u.HasFourDigitYear := fun year => by
        have := year.nonnegative
        omega
      rw [compare_text_signed year signed,
        inTime_of_year (Int.compare_eq_gt.mpr (by omega)) (by decide)]
    · rw [compare_text year ⟨by omega, notAfter⟩]
      rfl
  · intro after
    have signed : ¬ u.HasFourDigitYear := fun year => by
      have := year.short
      omega
    exact ⟨compare_text_signed year signed,
      inTime_of_year (Int.compare_eq_lt.mpr (by omega)) (by decide)⟩

end Instant

namespace Matching

/-- An instant against one literal that denotes an instant is decided by the texts of both. -/
theorem valueHolds_time (semantics : NullSemantics) (v : Instant) {operand : Operand}
    {literal : Scalar} {text : String} (one : operand.literals = [literal])
    (denotes : literal.asTimeText? = some text) {op : Operator}
    (compares : op.isNullCheck = false) :
    valueHolds semantics op (.scalar (.time v)) (some operand) =
      .ok (Comparison.strings.holds op v.text [text]) := by
  have nonempty : operand.literals ≠ [] := by
    rw [one]
    exact List.cons_ne_nil _ _
  rw [valueHolds_comparing compares nonempty, one]
  exact scalarHolds_eq_ok.mpr ⟨[text], .cons denotes .nil, rfl⟩

/-- An instant against a timestamp is decided by their order as texts. -/
theorem valueHolds_of_timestamp (semantics : NullSemantics) (t : Instant) {u : Instant}
    {s : String} (denotes : Timestamp.read? s.toList = some u) {op : Operator} {decision : Bool}
    (decides : op.holdsFor? (compare t.text u.text) = some decision)
    (compares : op.isNullCheck = false) :
    valueHolds semantics op (.scalar (.time t)) (some (.single (.string s))) = .ok decision := by
  have asText : Scalar.asTimeText? (.string s) = some u.text := by
    simp only [Scalar.asTimeText?, denotes, Option.map_some]
  have compared : Comparison.strings.compare? t.text u.text = some (compare t.text u.text) := rfl
  rw [valueHolds_time semantics t rfl asText compares,
    Comparison.holds_of_compare compared decides]

/-- For an operator that looks at the order, two opposite orders decide alike only about being
equal. -/
theorem holdsFor?_lt_gt {op : Operator} (among : op ∈ Operator.orderings) :
    op.holdsFor? .lt = op.holdsFor? .gt ↔ op = .eq ∨ op = .ne := by
  cases op with
  | eq | ne | gt | ge | lt | le => decide
  | isIn | notIn | isNull | isNotNull | contains | startsWith | endsWith =>
    simp [Operator.orderings] at among

/-- A condition on an instant of the years 0 to 9999 answers what the order in time to the instant
of its timestamp says, unless it asks which is earlier and the timestamp is, in UTC, after the year
9999. The order of what is shown is that of the seconds and leap seconds themselves where a leap
second ends its minute, as that of a timestamp does. -/
theorem valueHolds_timestamp_iff (semantics : NullSemantics) {t u : Instant} {s : String}
    {op : Operator} (year : t.HasFourDigitYear) (denotes : Timestamp.read? s.toList = some u)
    (among : op ∈ Operator.orderings) :
    ∃ answer,
      valueHolds semantics op (.scalar (.time t)) (some (.single (.string s))) = .ok answer ∧
      (op.holdsFor? (t.inTime u) = some answer ↔ u.date.year ≤ 9999 ∨ op = .eq ∨ op = .ne) ∧
      (t.LeapEndsMinute →
        t.inTime u = compareLex (compareOn Instant.seconds) (compareOn Instant.inLeapSecond) t u) := by
  obtain ⟨answer, decides⟩ := Operator.exists_holdsFor? among (compare t.text u.text)
  have compares := Operator.isNullCheck_of_orderings among
  refine ⟨answer, valueHolds_of_timestamp semantics t denotes decides compares, ?_,
    fun ends => Instant.inTime_of_leapEndsMinute ends (Timestamp.read?_leapEndsMinute denotes)⟩
  obtain ⟨upTo9999, after9999⟩ := Instant.compare_text_inTime (u := u) year
  by_cases upTo : u.date.year ≤ 9999
  · rw [← upTo9999 upTo]
    exact ⟨fun _ => .inl upTo, fun _ => decides⟩
  · obtain ⟨textual, chronological⟩ := after9999 (by omega)
    rw [textual] at decides
    rw [chronological, ← decides, holdsFor?_lt_gt among]
    exact ⟨.inr, fun either => either.resolve_left (by omega)⟩

/-- A leap second against a timestamp that is half a second later, in India. -/
theorem valueHolds_timestamp_leap :
    ∃ answer,
      valueHolds .strict .lt (.scalar (.time ⟨1483228799, 1000000000⟩))
        (some (.single (.string "2017-01-01T05:30:00.5+05:30"))) = .ok answer ∧
      (Operator.holdsFor? .lt (Instant.inTime ⟨1483228799, 1000000000⟩ ⟨1483228800, 500000000⟩) =
        some answer ↔
        (⟨1483228800, 500000000⟩ : Instant).date.year ≤ 9999 ∨
          Operator.lt = .eq ∨ Operator.lt = .ne) ∧
      (Instant.LeapEndsMinute ⟨1483228799, 1000000000⟩ →
        Instant.inTime ⟨1483228799, 1000000000⟩ ⟨1483228800, 500000000⟩ =
          compareLex (compareOn Instant.seconds) (compareOn Instant.inLeapSecond)
            ⟨1483228799, 1000000000⟩ ⟨1483228800, 500000000⟩) :=
  valueHolds_timestamp_iff .strict (s := "2017-01-01T05:30:00.5+05:30")
    ⟨by decide, by decide⟩ (by decide) (by decide)

/-- A timestamp at the end of the year 9999 that is, in UTC, in the year after. An instant of the
year 2024 is earlier, and not less. -/
theorem valueHolds_timestamp_yearTenThousand :
    (⟨1709294400, 0⟩ : Instant).HasFourDigitYear ∧
    Timestamp.read? "9999-12-31T23:30:00-01:00".toList = some ⟨253402302600, 0⟩ ∧
    Instant.inTime ⟨1709294400, 0⟩ ⟨253402302600, 0⟩ = .lt ∧
    valueHolds .strict .lt (.scalar (.time ⟨1709294400, 0⟩))
      (some (.single (.string "9999-12-31T23:30:00-01:00"))) = .ok false :=
  ⟨⟨by decide, by decide⟩, by decide, by decide, rfl⟩

end Matching

end RecordQuery
