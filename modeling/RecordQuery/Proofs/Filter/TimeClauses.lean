import RecordQuery.Proofs.Matching.Timestamps
import RecordQuery.Proofs.Sql.Quoting

/-!
Conditions on instants with their texts. A filter has no literals for instants: the text of one
reads back as a string. But as an operand the string denotes the second that it shows, so that the
condition that is read decides about every instant as the condition that was written.
-/

namespace RecordQuery

namespace Filter

theorem not_mem_text_time {t : Instant} (year : t.HasFourDigitYear) {c : Char}
    (notDigit : c.isDigit = false) (notSign : c ∉ ['-', 'T', ':', 'Z']) : c ∉ t.text.toList := by
  intro mem
  rcases Instant.digit_or_sign_of_mem_text year mem with digit | sign
  · rw [notDigit] at digit
    cases digit
  · exact notSign sign

/-- The text of an instant is a string that filters can write, also in a list. -/
theorem writableMember_text {t : Instant} (year : t.HasFourDigitYear) :
    WritableMember (.string t.text) where
  writable := .string (not_mem_text_time year (by decide) (by decide))
  unclosed := by
    rintro s ⟨⟩
    exact not_mem_text_time year (by decide) (by decide)

/-- Instants are written between quotes, as the strings of their texts are. -/
theorem text_of_time (target : Reference) (op : Operator) (t : Instant) :
    (Condition.of target op (.single (.time t))).text =
      (Condition.of target op (.single (.string t.text))).text := by
  unfold Condition.of
  cases op.takesList <;> cases op.isNullCheck <;> rfl

theorem canonical_text {target : Reference} {op : Operator} {t : Instant}
    (named : IsReference target) (compares : op.isNullCheck = false)
    (year : t.HasFourDigitYear) :
    Canonical (Condition.of target op (.single (.string t.text))) where
  table := named.table
  column := named.column
  operand := by
    have member := writableMember_text year
    unfold Condition.of
    rw [compares]
    cases takes : op.takesList with
    | true => exact .list takes (List.forall_mem_singleton.mpr member)
    | false => exact .single compares takes member.writable

end Filter

namespace Matching

/-- A condition with one literal that denotes an instant decides by the texts of the instants. -/
theorem valueHolds_of_asTimeText? (semantics : NullSemantics) (v : Instant) {literal : Scalar}
    {text : String} (denotes : literal.asTimeText? = some text) (target : Reference)
    {op : Operator} (compares : op.isNullCheck = false) :
    valueHolds semantics op (.scalar (.time v))
        (Condition.of target op (.single literal)).operand =
      .ok (Comparison.strings.holds op v.text [text]) := by
  obtain ⟨operand, one, made⟩ : ∃ operand : Operand, operand.literals = [literal] ∧
      (Condition.of target op (.single literal)).operand = some operand := by
    unfold Condition.of
    rw [compares]
    cases op.takesList <;> exact ⟨_, rfl, rfl⟩
  rw [made, valueHolds_time semantics v one denotes compares]

end Matching

namespace Filter

/-- A condition on an instant of the years 0 to 9999 reads back from its text with the text of the
instant for its operand. As a timestamp this text is in the same second as the instant, or in the
same leap second, where a leap second in the middle of a minute counts as the second after it. The
condition that is read decides about every instant as the condition itself. -/
theorem read_of_time {t : Instant} {target : Reference} {op : Operator}
    (year : t.HasFourDigitYear) (named : IsReference target) (compares : op.isNullCheck = false) :
    (∃ u, Timestamp.read? t.text.toList = some u ∧ u.seconds = t.carried.seconds ∧
      u.inLeapSecond = t.carried.inLeapSecond) ∧
    (t.LeapEndsMinute → t.carried = t) ∧
    (¬ t.LeapEndsMinute →
      t.carried.seconds = t.seconds + 1 ∧ t.carried.inLeapSecond = false) ∧
    read (Condition.of target op (.single (.time t))).text =
      .ok [Condition.of target op (.single (.string t.text))] ∧
    ∀ semantics v, ∃ answer,
      Matching.valueHolds semantics op (.scalar (.time v))
        (Condition.of target op (.single (.time t))).operand = .ok answer ∧
      Matching.valueHolds semantics op (.scalar (.time v))
        (Condition.of target op (.single (.string t.text))).operand = .ok answer := by
  have denotes := Instant.read?_text year
  have asText : Scalar.asTimeText? (.string t.text) = some t.text := by
    rw [Scalar.asTimeText?, denotes, Option.map_some, Instant.text_startOfShown year]
  have asInstant : Scalar.asTimeText? (.time t) = some t.text := rfl
  refine ⟨⟨t.startOfShown, denotes, rfl, t.inLeapSecond_startOfShown⟩,
    Instant.carried_eq_self_iff.mpr, Instant.carried_of_not_leapEndsMinute, ?_, fun semantics v =>
    ⟨Comparison.strings.holds op v.text [t.text],
      Matching.valueHolds_of_asTimeText? semantics v asInstant target compares,
      Matching.valueHolds_of_asTimeText? semantics v asText target compares⟩⟩
  rw [text_of_time]
  exact read_conditionText (canonical_text named compares year)

/-- A list of one instant in a leap second. -/
theorem read_of_time_leap :
    (∃ u, Timestamp.read? "2016-12-31T23:59:60Z".toList = some u ∧
      u.seconds = 1483228799 ∧ u.inLeapSecond = true) ∧
    read "at in ('2016-12-31T23:59:60Z')" =
      .ok [⟨⟨none, "at"⟩, .isIn, some (.list [.string "2016-12-31T23:59:60Z"])⟩] ∧
    ∀ semantics v, ∃ answer,
      Matching.valueHolds semantics .isIn (.scalar (.time v))
        (some (.list [.time ⟨1483228799, 1500000000⟩])) = .ok answer ∧
      Matching.valueHolds semantics .isIn (.scalar (.time v))
        (some (.list [.string "2016-12-31T23:59:60Z"])) = .ok answer := by
  let t : Instant := ⟨1483228799, 1500000000⟩
  have year : t.HasFourDigitYear := ⟨by decide, by decide⟩
  have named : IsReference ⟨none, "at"⟩ := ⟨nofun, isName_of_chars rfl rfl⟩
  have compares : Operator.isIn.isNullCheck = false := rfl
  have shown : t.text = "2016-12-31T23:59:60Z" := by decide
  have written : (Condition.of ⟨none, "at"⟩ .isIn (.single (.time t))).text =
      "at in ('2016-12-31T23:59:60Z')" := by decide
  obtain ⟨second, whole, -, reads, decides⟩ := read_of_time year named compares
  rw [shown, whole (fun _ => by decide)] at second
  rw [written, shown] at reads
  rw [shown] at decides
  exact ⟨second, reads, decides⟩

/-- The text of a leap second after second 30 is read as second 31. -/
theorem read_of_time_midMinute :
    (⟨30, 1500000000⟩ : Instant).HasFourDigitYear ∧
    (⟨30, 1500000000⟩ : Instant).text = "1970-01-01T00:00:31Z" ∧
    Timestamp.read? "1970-01-01T00:00:31Z".toList = some ⟨31, 0⟩ ∧
    ¬ ∃ u, Timestamp.read? (⟨30, 1500000000⟩ : Instant).text.toList = some u ∧
      u.seconds = 30 ∧ u.inLeapSecond = true := by
  have shown : (⟨30, 1500000000⟩ : Instant).text = "1970-01-01T00:00:31Z" := by decide
  have denotes : Timestamp.read? "1970-01-01T00:00:31Z".toList = some ⟨31, 0⟩ := by decide
  refine ⟨⟨by decide, by decide⟩, shown, denotes, ?_⟩
  rintro ⟨u, reads, same, -⟩
  rw [shown, denotes] at reads
  cases reads
  cases same

end Filter

end RecordQuery
