import RecordQuery.Proofs.Number.IntegerText
import RecordQuery.Proofs.Text.Separated
import RecordQuery.Request.Count

/-!
Limits and offsets as text. What stands between the blanks at the ends of a text is a count if it is
made of decimal digits, perhaps with a plus sign before them. It is read as their number exactly if
that is below 2^64. Digits are read from the left, so a number is too large as soon as the digits so
far stand for one that is. A refusal names the text without the blanks around it.
-/

namespace RecordQuery

/-- The text is made of decimal digits, perhaps after a plus sign, that stand for the number. -/
inductive CountText : List Char → Nat → Prop
  | unsigned {ds : List Char} (nonempty : ds ≠ []) (digits : ∀ d ∈ ds, d.isDigit = true) :
      CountText ds (digitsValue ds)
  | signed {ds : List Char} (nonempty : ds ≠ []) (digits : ∀ d ∈ ds, d.isDigit = true) :
      CountText ('+' :: ds) (digitsValue ds)

/-- The text begins with digits, perhaps after a plus sign, that stand for 2^64 or more. -/
def Overflows (cs : List Char) : Prop :=
  ∃ sign ds rest, (sign = [] ∨ sign = ['+']) ∧ (∀ d ∈ ds, d.isDigit = true) ∧
    2 ^ 64 ≤ digitsValue ds ∧ cs = sign ++ (ds ++ rest)

/-! The plus sign is set aside before the digits are read, and no digit is taken for it. -/

/-- What is left of a text when a plus sign in front of it is set aside. -/
inductive Unsigned : List Char → List Char → Prop
  | plain {cs : List Char} (first : cs.head? ≠ some '+') : Unsigned cs cs
  | plus (cs : List Char) : Unsigned ('+' :: cs) cs

theorem exists_unsigned (cs : List Char) : ∃ ds, Unsigned cs ds := by
  by_cases first : cs.head? = some '+'
  · obtain ⟨rest, rfl⟩ := List.head?_eq_some_iff.mp first
    exact ⟨rest, .plus rest⟩
  · exact ⟨cs, .plain first⟩

theorem head?_ne_plus {ds : List Char} (nonempty : ds ≠ [])
    (digits : ∀ d ∈ ds, d.isDigit = true) (rest : List Char) : (ds ++ rest).head? ≠ some '+' := by
  obtain ⟨d, ds, rfl⟩ := List.exists_cons_of_ne_nil nonempty
  intro first
  exact (sign_not_head digits).2 (Option.some.inj first)

section Unsigned

variable {cs ds : List Char}

theorem Unsigned.readCount_eq (unsigned : Unsigned cs ds) : readCount cs =
    if ds.isEmpty then .error .invalidDigit else readDigitsUpTo 0xFFFFFFFFFFFFFFFF 0 ds := by
  cases unsigned with
  | plus => rfl
  | plain first =>
    unfold readCount
    split
    next => simp at first
    next => rfl

theorem Unsigned.eq_self (unsigned : Unsigned cs ds) (first : cs.head? ≠ some '+') : ds = cs := by
  cases unsigned with
  | plain => rfl
  | plus => exact absurd rfl first

theorem Unsigned.countText_iff (unsigned : Unsigned cs ds) {n : Nat} :
    CountText cs n ↔ ds ≠ [] ∧ (∀ d ∈ ds, d.isDigit = true) ∧ digitsValue ds = n := by
  constructor
  · intro count
    cases count with
    | unsigned nonempty digits =>
      have first := head?_ne_plus nonempty digits []
      rw [List.append_nil] at first
      rw [unsigned.eq_self first]
      exact ⟨nonempty, digits, rfl⟩
    | signed nonempty digits =>
      cases unsigned with
      | plain first => exact absurd rfl first
      | plus => exact ⟨nonempty, digits, rfl⟩
  · rintro ⟨nonempty, digits, rfl⟩
    cases unsigned with
    | plain => exact .unsigned nonempty digits
    | plus => exact .signed nonempty digits

theorem Unsigned.overflows_iff (unsigned : Unsigned cs ds) : Overflows cs ↔
    ∃ front rest, ds = front ++ rest ∧ (∀ d ∈ front, d.isDigit = true) ∧
      2 ^ 64 ≤ digitsValue front := by
  constructor
  · rintro ⟨sign, front, rest, rfl | rfl, digits, beyond, rfl⟩
    · have nonempty : front ≠ [] := by
        rintro rfl
        exact absurd beyond (by decide)
      exact ⟨front, rest, unsigned.eq_self (head?_ne_plus nonempty digits rest), digits, beyond⟩
    · cases unsigned with
      | plain first => exact absurd rfl first
      | plus => exact ⟨front, rest, rfl, digits, beyond⟩
  · rintro ⟨front, rest, rfl, digits, beyond⟩
    cases unsigned with
    | plain => exact ⟨[], front, rest, Or.inl rfl, digits, beyond, rfl⟩
    | plus => exact ⟨['+'], front, rest, Or.inr rfl, digits, beyond, rfl⟩

end Unsigned

theorem CountText.ne_nil {cs : List Char} {n : Nat} (count : CountText cs n) : cs ≠ [] := by
  cases count with
  | unsigned nonempty digits => exact nonempty
  | signed nonempty digits => exact List.cons_ne_nil _ _

theorem CountText.head?_ne_minus {cs : List Char} {n : Nat} (count : CountText cs n) :
    cs.head? ≠ some '-' := by
  cases count with
  | unsigned nonempty digits =>
    intro minus
    have digit := digits '-' (List.mem_of_head? minus)
    cases digit
  | signed nonempty digits => simp

/-- A count of 2^64 or more is noticed as such. -/
theorem CountText.overflows {cs : List Char} {n : Nat} (count : CountText cs n)
    (beyond : 2 ^ 64 ≤ n) : Overflows cs := by
  cases count with
  | unsigned nonempty digits =>
    exact ⟨[], cs, [], Or.inl rfl, digits, beyond, (List.append_nil cs).symm⟩
  | @signed ds nonempty digits =>
    refine ⟨['+'], ds, [], Or.inr rfl, digits, beyond, ?_⟩
    rw [List.append_nil, List.singleton_append]

theorem countText_toDigits (n : Nat) : CountText (Nat.toDigits 10 n) n := by
  have count := CountText.unsigned (Nat.toDigits_ne_nil (n := n)) isDigit_of_mem_toDigits
  rwa [digitsValue_toDigits] at count

theorem readCount_eq_ok {cs : List Char} {n : Nat} :
    readCount cs = .ok n ↔ CountText cs n ∧ n < 2 ^ 64 := by
  obtain ⟨ds, unsigned⟩ := exists_unsigned cs
  rw [unsigned.readCount_eq, unsigned.countText_iff]
  cases ds with
  | nil => simp
  | cons d ds =>
    simp only [List.isEmpty_cons, Bool.false_eq_true, if_false, ne_eq, reduceCtorEq,
      not_false_eq_true, true_and]
    rw [readDigitsUpTo_eq_ok (Nat.zero_le _), and_assoc]
    refine and_congr_right fun _ => and_congr_right fun _ => ?_
    omega

theorem readCount_eq_tooLarge {cs : List Char} :
    readCount cs = .error .tooLarge ↔ Overflows cs := by
  obtain ⟨ds, unsigned⟩ := exists_unsigned cs
  rw [unsigned.readCount_eq, unsigned.overflows_iff]
  cases ds with
  | nil =>
    refine iff_of_false (by simp) ?_
    rintro ⟨front, rest, split, -, beyond⟩
    obtain ⟨rfl, rfl⟩ := List.append_eq_nil_iff.mp split.symm
    exact absurd beyond (by decide)
  | cons d ds =>
    simp only [List.isEmpty_cons, Bool.false_eq_true, if_false]
    exact readDigitsUpTo_eq_tooLarge (Nat.zero_le _)

namespace Request

open Text

/-- Why a text is refused that is no count below 2^64. -/
inductive Refusal (cs : List Char) : String → Prop
  | negative (minus : cs.head? = some '-') : Refusal cs "must not be negative"
  | tooLarge (overflows : Overflows cs) : Refusal cs "number too large to fit in target type"
  | malformed (unsigned : cs.head? ≠ some '-') (fits : ¬ Overflows cs)
      (uncounted : ∀ n, ¬ CountText cs n) : Refusal cs "invalid digit found in string"

/-- What a limit or an offset is read as: nothing if the text is blank, else the count that stands
between the blanks around it, and all other texts are refused. -/
structure ReadsCount (fragment : Fragment) (s : String) (outcome : Except Error (Option Nat)) :
    Prop where
  blank : outcome = .ok none ↔ ∀ c ∈ s.toList, isBlank c = true
  count : ∀ n, outcome = .ok (some n) ↔ CountText (trim s).toList n ∧ n < 2 ^ 64
  refused : (∃ c ∈ s.toList, isBlank c = false) → (∀ n < 2 ^ 64, ¬ CountText (trim s).toList n) →
    ∃ reason, Refusal (trim s).toList reason ∧
      outcome = .error (.badFragment fragment (trim s) reason)

theorem toList_trim (s : String) : (trim s).toList = trimChars s.toList :=
  String.toList_ofList

section Reading

variable {fragment : Fragment} {s : String}

theorem readCount_of_blank (blank : (trim s).toList = []) : readCount fragment s = .ok none := by
  rw [toList_trim] at blank
  simp only [readCount, blank]

theorem readCount_of_minus (minus : (trim s).toList.head? = some '-') :
    readCount fragment s = .error (.badFragment fragment (trim s) "must not be negative") := by
  rw [toList_trim] at minus
  obtain ⟨rest, text⟩ := List.head?_eq_some_iff.mp minus
  simp only [readCount, text, trim]

/-- A text that is not blank and has no minus sign in front is read as a count. -/
theorem readCount_of_unsigned (notBlank : (trim s).toList ≠ [])
    (unsigned : (trim s).toList.head? ≠ some '-') : readCount fragment s =
      match RecordQuery.readCount (trim s).toList with
      | .ok n => .ok (some n)
      | .error fault => .error (.badFragment fragment (trim s) (countFaultText fault)) := by
  rw [toList_trim] at notBlank unsigned ⊢
  unfold readCount
  dsimp only
  split
  next blank => exact absurd blank notBlank
  next minus =>
    rw [minus] at unsigned
    exact absurd rfl unsigned
  next => rfl

theorem readCount_eq_none :
    readCount fragment s = .ok none ↔ ∀ c ∈ s.toList, isBlank c = true := by
  rw [← trimChars_eq_nil_iff, ← toList_trim]
  constructor
  · intro none
    by_contra notBlank
    by_cases minus : (trim s).toList.head? = some '-'
    · rw [readCount_of_minus minus] at none
      cases none
    · rw [readCount_of_unsigned notBlank minus] at none
      split at none <;> cases none
  · exact readCount_of_blank

theorem readCount_eq_some {n : Nat} :
    readCount fragment s = .ok (some n) ↔ CountText (trim s).toList n ∧ n < 2 ^ 64 := by
  by_cases blank : (trim s).toList = []
  · rw [readCount_of_blank blank]
    exact iff_of_false nofun fun both => both.1.ne_nil blank
  · by_cases minus : (trim s).toList.head? = some '-'
    · rw [readCount_of_minus minus]
      exact iff_of_false nofun fun both => both.1.head?_ne_minus minus
    · rw [readCount_of_unsigned blank minus, ← readCount_eq_ok]
      cases RecordQuery.readCount (trim s).toList <;> simp

/-- Every text that is neither blank nor a count below 2^64 is refused, for the reason that it
gives. -/
theorem readCount_refused (notBlank : (trim s).toList ≠ [])
    (uncounted : ∀ n < 2 ^ 64, ¬ CountText (trim s).toList n) :
    ∃ reason, Refusal (trim s).toList reason ∧
      readCount fragment s = .error (.badFragment fragment (trim s) reason) := by
  by_cases minus : (trim s).toList.head? = some '-'
  · exact ⟨_, .negative minus, readCount_of_minus minus⟩
  · rw [readCount_of_unsigned notBlank minus]
    cases read : RecordQuery.readCount (trim s).toList with
    | ok n =>
      obtain ⟨count, within⟩ := readCount_eq_ok.mp read
      exact absurd count (uncounted n within)
    | error fault =>
      cases fault with
      | tooLarge => exact ⟨_, .tooLarge (readCount_eq_tooLarge.mp read), rfl⟩
      | invalidDigit =>
        have fits : ¬ Overflows (trim s).toList := by
          intro overflows
          cases read.symm.trans (readCount_eq_tooLarge.mpr overflows)
        refine ⟨_, .malformed minus fits fun n count => ?_, rfl⟩
        exact uncounted n (Nat.lt_of_not_le fun beyond => fits (count.overflows beyond)) count

theorem readsCount (fragment : Fragment) (s : String) :
    ReadsCount fragment s (readCount fragment s) := by
  refine ⟨readCount_eq_none, fun n => readCount_eq_some, ?_⟩
  rintro ⟨c, mem, notBlank⟩ uncounted
  refine readCount_refused (fun blank => ?_) uncounted
  rw [toList_trim, trimChars_eq_nil_iff] at blank
  have blank_c := blank c mem
  rw [notBlank] at blank_c
  cases blank_c

/-- The decimal text of a count is read as the count, whatever blanks stand around it. -/
theorem readCount_toString (fragment : Fragment) {n : Nat} (within : n < 2 ^ 64)
    {lead trail : String} (lead_blank : ∀ c ∈ lead.toList, isBlank c = true)
    (trail_blank : ∀ c ∈ trail.toList, isBlank c = true) :
    readCount fragment (lead ++ toString n ++ trail) = .ok (some n) := by
  have tight : ∀ c ∈ Nat.toDigits 10 n, isBlank c = false := by
    intro c mem
    have digit := isDecimalDigit_of_isDigit (isDigit_of_mem_toDigits c mem)
    by_contra blank
    rw [isDecimalDigit_of_isBlank (by simpa using blank)] at digit
    cases digit
  have trimmed : Trimmed (Nat.toDigits 10 n) := trimChars_tight tight ▸ trimmed_trimChars _
  have padded : Pads (Nat.toDigits 10 n) (lead ++ toString n ++ trail).toList := by
    have digits : (toString n).toList = Nat.toDigits 10 n := Nat.toList_repr
    refine ⟨lead.toList, trail.toList, lead_blank, trail_blank, ?_⟩
    rw [String.toList_append, String.toList_append, List.append_assoc, digits]
  have text : (trim (lead ++ toString n ++ trail)).toList = Nat.toDigits 10 n := by
    rw [toList_trim, trimChars_eq_iff]
    exact ⟨trimmed, padded⟩
  rw [readCount_eq_some, text]
  exact ⟨countText_toDigits n, within⟩

end Reading

/-- A limit, and likewise an offset, is read as nothing from a blank text, and as a count from the
digits of a number below 2^64, with or without a plus sign and with blanks around it. Any other text
is refused. So the decimal text of every count below 2^64 gives the count back. -/
theorem limit_offset_exact :
    (∀ s, ReadsCount .limit s (readLimit s) ∧ ReadsCount .offset s (readOffset s)) ∧
    ∀ n < 2 ^ 64, ∀ lead trail : String, (∀ c ∈ lead.toList, isBlank c = true) →
      (∀ c ∈ trail.toList, isBlank c = true) →
      readLimit (lead ++ toString n ++ trail) = .ok (some n) ∧
        readOffset (lead ++ toString n ++ trail) = .ok (some n) := by
  constructor
  · intro s
    exact ⟨readsCount .limit s, readsCount .offset s⟩
  · intro n within lead trail lead_blank trail_blank
    exact ⟨readCount_toString .limit within lead_blank trail_blank,
      readCount_toString .offset within lead_blank trail_blank⟩

/-- The greatest count is a limit, with zeros in front and an ideographic space around it, and it is
an offset. The next number is refused for its size. -/
theorem limit_offset_exact_greatest :
    readLimit "\u3000+0018446744073709551615 " = .ok (some 18446744073709551615) ∧
      readOffset "\t18446744073709551615\n" = .ok (some 18446744073709551615) ∧
      readOffset " 18446744073709551616" = .error
        (.badFragment .offset "18446744073709551616" "number too large to fit in target type") := by
  obtain ⟨reads, backAgain⟩ := limit_offset_exact
  have digits : "0018446744073709551615".toList.all Char.isDigit = true ∧
      "18446744073709551616".toList.all Char.isDigit = true := by decide +kernel
  rw [List.all_eq_true, List.all_eq_true] at digits
  have signed : (trim "\u3000+0018446744073709551615 ").toList =
      '+' :: "0018446744073709551615".toList := by decide +kernel
  have next : trim " 18446744073709551616" = "18446744073709551616" := by decide +kernel
  have uncounted : ∀ n < 2 ^ 64, ¬ CountText "18446744073709551616".toList n := by
    intro n within count
    cases count with
    | unsigned nonempty digits => exact absurd within (by decide)
  refine ⟨((reads _).1.count _).mpr ⟨?_, by decide⟩, ?_, ?_⟩
  · rw [signed]
    exact .signed (by decide) digits.1
  · obtain ⟨-, offset⟩ := backAgain 18446744073709551615 (by omega) "\t" "\n"
      (by simp [isBlank]) (by simp [isBlank])
    exact offset
  · have refused := (reads " 18446744073709551616").2.refused ⟨'1', by simp, by decide⟩
    rw [next] at refused
    obtain ⟨reason, refusal, outcome⟩ := refused uncounted
    cases refusal with
    | negative minus => cases minus
    | tooLarge => exact outcome
    | malformed _ _ noCount => exact absurd (.unsigned (by decide) digits.2) (noCount _)

end Request

end RecordQuery
