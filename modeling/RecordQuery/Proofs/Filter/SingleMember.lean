import RecordQuery.Proofs.Filter.Rereading

/-!
One value behind `in` or `notIn`, alone and between parentheses. A string between quotes means the
same both ways. So does a number, if it has a value: its digits are ASCII digits, and without a point
it is a whole number of 64 bits. Any other number is refused where it stands alone, while in a list
its text is taken for a bare string.
-/

namespace RecordQuery

/-- Two attempts give the same, or both fail. -/
inductive SameOrFail {ε α : Type} : Except ε α → Except ε α → Prop
  | same (x : α) : SameOrFail (.ok x) (.ok x)
  | fail (e f : ε) : SameOrFail (.error e) (.error f)

theorem isSome_int64? (n : Int) :
    (int64? n).isSome = true ↔ -0x8000000000000000 ≤ n ∧ n < 0x8000000000000000 := by
  have least : Int64.minValue.toInt = -0x8000000000000000 := by decide
  have greatest : Int64.maxValue.toInt = 0x7FFFFFFFFFFFFFFF := by decide
  rw [int64?, least, greatest]
  split
  next within => exact iff_of_true rfl (by omega)
  next outside => exact iff_of_false Bool.false_ne_true (by omega)

theorem isSome_uint64? (n : Int) :
    (uint64? n).isSome = true ↔ 0 ≤ n ∧ n < 0x10000000000000000 := by
  rw [uint64?]
  split
  next within => exact iff_of_true rfl within
  next outside => exact iff_of_false Bool.false_ne_true outside

namespace Filter

open Text

/-! Numbers that have a value. -/

namespace Numeral

/-- The number in front of the point. -/
def value (n : Numeral) : Int :=
  if n.negative then -(digitsValue n.whole : Int) else digitsValue n.whole

/-- The number is written in ASCII digits. Without a point it is a signed or an unsigned number of
64 bits. -/
structure HasValue (n : Numeral) : Prop where
  ascii : ∀ c ∈ n.whole ++ n.fraction, c.isDigit = true
  range : n.fraction = [] → -0x8000000000000000 ≤ n.value ∧ n.value < 0x10000000000000000

theorem chars_eq (n : Numeral) : n.chars = (if n.negative then ['-'] else []) ++ n.digits := by
  unfold chars
  cases n.negative <;> rfl

theorem mem_digits_of_mem {n : Numeral} {c : Char} (mem : c ∈ n.whole ++ n.fraction) :
    c ∈ n.digits := by
  unfold digits
  split
  next plain => rwa [plain] at mem
  next => simp_all [or_left_comm]

theorem point_or_digit {n : Numeral} {c : Char} (mem : c ∈ n.digits) :
    c = '.' ∨ isDecimalDigit c = true := by
  unfold digits at mem
  rcases List.mem_append.mp mem with whole | rest
  · exact .inr (n.whole_digit c whole)
  · split at rest
    · cases rest
    · exact (List.mem_cons.mp rest).imp_right (n.fraction_digit c)

theorem minus_not_mem (n : Numeral) : '-' ∉ n.digits := by
  intro mem
  rcases point_or_digit mem with point | digit
  · contradiction
  · exact absurd digit (by decide)

theorem digits_ne_nil (n : Numeral) : n.digits ≠ [] := by
  obtain ⟨d, ds, digits, -⟩ := n.digits_cons
  rw [digits]
  exact List.cons_ne_nil _ _

/-- A number that is read is written in ASCII digits. -/
theorem ascii_of_number? {n : Numeral} {literal : Scalar} (read : number? n.chars = some literal) :
    ∀ c ∈ n.whole ++ n.fraction, c.isDigit = true := by
  rw [n.chars_eq, number?_signed n.negative n.digits_ne_nil n.minus_not_mem] at read
  split at read
  next all =>
    intro c mem
    have either := List.all_eq_true.mp all c (mem_digits_of_mem mem)
    rw [Bool.or_eq_true, beq_iff_eq] at either
    refine either.resolve_right ?_
    rintro rfl
    have digit : isDecimalDigit '.' = true :=
      (List.mem_append.mp mem).elim (n.whole_digit '.') (n.fraction_digit '.')
    exact absurd digit (by decide)
  next => cases read

theorem chars_whole {n : Numeral} (plain : n.fraction = []) :
    n.chars = (if n.negative then ['-'] else []) ++ n.whole := by
  rw [n.chars_eq, digits, if_pos plain, List.append_nil]

theorem readInt64?_chars {n : Numeral} (plain : n.fraction = [])
    (ascii : ∀ c ∈ n.whole, c.isDigit = true) : readInt64? n.chars = int64? n.value := by
  rw [chars_whole plain, value, readInt64?]
  cases n.negative with
  | true =>
    rw [if_pos rfl, if_pos rfl, List.singleton_append, readInt?,
      readNat?_digits n.whole_ne_nil ascii]
    rfl
  | false =>
    rw [if_neg Bool.false_ne_true, if_neg Bool.false_ne_true, List.nil_append,
      readInt?_digits n.whole_ne_nil ascii]
    rfl

/-- The unsigned reader refuses a minus sign, even before zero. -/
theorem isSome_readUInt64?_chars {n : Numeral} (plain : n.fraction = [])
    (ascii : ∀ c ∈ n.whole, c.isDigit = true) : (readUInt64? n.chars).isSome = true ↔
      n.negative = false ∧ n.value < 0x10000000000000000 := by
  rw [chars_whole plain, value]
  cases n.negative with
  | true => exact iff_of_false Bool.false_ne_true fun both => Bool.false_ne_true both.1.symm
  | false =>
    rw [if_neg Bool.false_ne_true, if_neg Bool.false_ne_true, List.nil_append,
      readUInt64?_digits n.whole_ne_nil ascii, isSome_uint64?]
    simp

theorem value_sign (n : Numeral) :
    (n.negative = true → n.value ≤ 0) ∧ (n.negative = false → 0 ≤ n.value) := by
  unfold value
  cases n.negative <;> simp

/-- A whole number is read if it is a signed or an unsigned one of 64 bits. -/
theorem number?_whole {n : Numeral} (plain : n.fraction = [])
    (ascii : ∀ c ∈ n.whole, c.isDigit = true) : (number? n.chars).isSome = true ↔
      -0x8000000000000000 ≤ n.value ∧ n.value < 0x10000000000000000 := by
  obtain ⟨minus, plus⟩ := n.value_sign
  have within := isSome_int64? n.value
  have read := number?_digits n.negative n.whole_ne_nil ascii
  rw [← chars_whole plain, readInt64?_chars plain ascii] at read
  rw [read]
  cases found : int64? n.value with
  | some m =>
    rw [found] at within
    have bounds := within.mp rfl
    exact iff_of_true rfl (by omega)
  | none =>
    rw [found] at within
    have outside : ¬ (-0x8000000000000000 ≤ n.value ∧ n.value < 0x8000000000000000) :=
      fun bounds => Bool.false_ne_true (within.mpr bounds)
    rw [Option.isSome_map, isSome_readUInt64?_chars plain ascii]
    constructor
    · intro unsigned
      have := plus unsigned.1
      omega
    · intro range
      have positive : n.negative = false := by
        rw [Bool.eq_false_iff]
        intro negative
        have := minus negative
        omega
      exact ⟨positive, range.2⟩

/-- A number is read exactly if it has a value. -/
theorem number?_isSome_iff (n : Numeral) : (number? n.chars).isSome = true ↔ n.HasValue := by
  by_cases ascii : ∀ c ∈ n.whole ++ n.fraction, c.isDigit = true
  · by_cases plain : n.fraction = []
    · rw [number?_whole plain (List.forall_mem_append.mp ascii).1]
      exact ⟨fun range => ⟨ascii, fun _ => range⟩, fun value => value.range plain⟩
    · have chars : n.chars =
          (if n.negative then ['-'] else []) ++ (n.whole ++ '.' :: n.fraction) := by
        rw [n.chars_eq, digits, if_neg plain]
      rw [chars, number?_pointed n.negative ascii,
        Binary64.read?_pointed n.negative n.whole_ne_nil ascii]
      exact iff_of_true rfl ⟨ascii, fun none => absurd none plain⟩
  · refine iff_of_false (fun read => ascii ?_) fun value => ascii value.ascii
    obtain ⟨literal, read⟩ := Option.isSome_iff_exists.mp read
    exact ascii_of_number? read

theorem not_mem_chars (n : Numeral) {c : Char} (other : c ∉ ['-', '.'])
    (notDigit : isDecimalDigit c = false) : c ∉ n.chars := by
  rw [List.mem_cons, List.mem_singleton, not_or] at other
  rw [n.chars_eq, List.mem_append, not_or]
  constructor
  · split <;> simp [other.1]
  · intro mem
    rcases point_or_digit mem with point | digit
    · exact other.2 point
    · rw [digit] at notDigit
      cases notDigit

end Numeral

/-! The only member of a list. -/

/-- Characters that are neither blanks nor commas are one member. -/
theorem members_tight {cs : List Char} (nonempty : cs ≠ []) (noComma : ',' ∉ cs)
    (tight : ∀ c ∈ cs, isBlank c = false) : members cs = [member cs] := by
  have trimmed := trimChars_tight tight
  rw [members_last (joined_of_not_mem noComma) (by rwa [trimmed]), trimmed]

/-- In a list a number without a value is a bare string. -/
theorem Numeral.members_chars (n : Numeral) :
    members n.chars = [(number? n.chars).getD (.string (String.ofList n.chars))] := by
  have nonempty : n.chars ≠ [] := by
    rw [n.chars_eq]
    exact List.append_ne_nil_of_right_ne_nil _ n.digits_ne_nil
  have tight (c : Char) (mem : c ∈ n.chars) : isBlank c = false := by
    rw [Bool.eq_false_iff]
    intro blank
    refine n.not_mem_chars ?_ (isDecimalDigit_of_isBlank blank) mem
    intro mark
    revert blank
    rw [List.mem_cons, List.mem_singleton] at mark
    rcases mark with rfl | rfl <;> decide
  have noComma : ',' ∉ n.chars := n.not_mem_chars (by decide) (by decide)
  have noQuote : '\'' ∉ n.chars := n.not_mem_chars (by decide) (by decide)
  rw [members_tight nonempty noComma tight, member, unquoted?_eq_none noQuote]

/-! One operand in two spellings. -/

/-- An operand that stands alone and that could stand in a list. -/
inductive LoneOperand where
  | quoted (body : List Char) (closed : '\'' ∉ body) (unclosed : ')' ∉ body)
  | number (n : Numeral)

namespace LoneOperand

def alone : LoneOperand → OperandText
  | .quoted body closed _ => .quoted body closed
  | .number n => .number n

theorem unclosed (v : LoneOperand) : ')' ∉ v.alone.chars := by
  cases v with
  | quoted body _ unclosed => simpa [alone, OperandText.chars] using unclosed
  | number n => exact n.not_mem_chars (by decide) (by decide)

/-- The same operand between parentheses. -/
def enclosed (v : LoneOperand) : OperandText := .list v.alone.chars v.unclosed

/-- Strings have a value, and numbers may have one. -/
def HasValue : LoneOperand → Prop
  | .quoted .. => True
  | .number n => n.HasValue

/-- What is read for the operand where it stands alone. -/
def literal? : LoneOperand → Option Scalar
  | .quoted body .. => some (.string (String.ofList body))
  | .number n => number? n.chars

theorem literal?_isSome_iff (v : LoneOperand) : v.literal?.isSome = true ↔ v.HasValue := by
  cases v with
  | quoted body _ _ => exact iff_of_true rfl trivial
  | number n => exact n.number?_isSome_iff

theorem readOperand_alone (v : LoneOperand) (op : Operator) (text : List Char) :
    readOperand op text v.alone.raw = match v.literal? with
      | some literal => .ok (.single literal)
      | none => .error (.badFragment .filter (String.ofList text)
          (String.ofList v.alone.chars ++ " is not a number")) := by
  cases v with
  | quoted body _ _ => rfl
  | number n => rfl

theorem members_enclosed (v : LoneOperand) :
    members v.alone.chars = [v.literal?.getD (.string (String.ofList v.alone.chars))] := by
  cases v with
  | quoted body closed _ =>
    have writable : Writable (.string (String.ofList body)) := .string (by simpa using closed)
    have reread := writable.rereads.members_text writable.readable
    rw [text_string, String.toList_ofList] at reread
    exact reread
  | number n => exact n.members_chars

end LoneOperand

/-- A membership test up to its operand: the reference, blanks, the operator and perhaps more
blanks. -/
structure MembershipText where
  table : Option Identifier
  column : Identifier
  gap : List Char
  gap_ne_nil : gap ≠ []
  gap_blank : ∀ c ∈ gap, isBlank c = true
  op : Operator
  takes : op.takesList = true
  space : List Char
  space_blank : ∀ c ∈ space, isBlank c = true

namespace MembershipText

/-- The test with its operand. -/
def clause (m : MembershipText) (o : OperandText) : ClauseText :=
  ⟨m.table, m.column, m.gap, m.gap_ne_nil, m.gap_blank,
    .comparison m.op (isNullCheck_of_takesList m.takes) m.space m.space_blank o⟩

/-- The test for being one of the literals. -/
def condition (m : MembershipText) (literals : List Scalar) : Condition :=
  ⟨⟨m.table.map fun n => String.ofList n.chars, String.ofList m.column.chars⟩, m.op,
    some (.list literals)⟩

variable (m : MembershipText) (v : LoneOperand)

theorem read_clause (o : OperandText) : read (m.clause o).text =
    (readOperand m.op (m.clause o).chars o.raw).map
      fun operand => [Condition.of (m.clause o).target m.op operand] := by
  rw [read_text, condition_of_operandText rfl]
  cases readOperand m.op (m.clause o).chars o.raw <;> rfl

theorem read_alone : read (m.clause v.alone).text = match v.literal? with
    | some literal => .ok [m.condition [literal]]
    | none => .error (.badFragment .filter (m.clause v.alone).text
        (String.ofList v.alone.chars ++ " is not a number")) := by
  rw [read_clause, v.readOperand_alone]
  cases v.literal? with
  | some literal =>
    simp only [Except.map, Condition.of, m.takes, isNullCheck_of_takesList m.takes]
    rfl
  | none => rfl

theorem read_enclosed : read (m.clause v.enclosed).text =
    .ok [m.condition [v.literal?.getD (.string (String.ofList v.alone.chars))]] := by
  have operand (text : List Char) : readOperand m.op text v.enclosed.raw =
      .ok (.list [v.literal?.getD (.string (String.ofList v.alone.chars))]) := by
    rw [LoneOperand.enclosed, OperandText.raw, readOperand, if_pos m.takes, v.members_enclosed]
  rw [read_clause, operand]
  simp only [Except.map, Condition.of_list _ m.takes]
  rfl

/-- An operand alone and the same one between parentheses are read as the same condition, or both
refused, exactly if the operand has a value. A number without one is refused alone and taken for a
string between parentheses. -/
theorem read_enclosed_iff :
    (SameOrFail (read (m.clause v.alone).text) (read (m.clause v.enclosed).text) ↔ v.HasValue) ∧
      (¬ v.HasValue →
        read (m.clause v.alone).text = .error (.badFragment .filter (m.clause v.alone).text
          (String.ofList v.alone.chars ++ " is not a number")) ∧
        read (m.clause v.enclosed).text =
          .ok [m.condition [.string (String.ofList v.alone.chars)]]) := by
  have value := v.literal?_isSome_iff
  rw [m.read_alone, m.read_enclosed]
  cases read : v.literal? with
  | some literal =>
    rw [read] at value
    exact ⟨iff_of_true (.same _) (value.mp rfl), fun none => absurd (value.mp rfl) none⟩
  | none =>
    rw [read] at value
    have valueless : ¬ v.HasValue := fun some => Bool.false_ne_true (value.mpr some)
    exact ⟨iff_of_false nofun valueless, fun _ => ⟨rfl, rfl⟩⟩

end MembershipText

/-- The text `a in` with a blank behind each word. -/
def inSample : MembershipText where
  table := none
  column := plainSample.column
  gap := plainSample.gap
  gap_ne_nil := plainSample.gap_ne_nil
  gap_blank := plainSample.gap_blank
  op := .isIn
  takes := rfl
  space := plainSample.gap
  space_blank := plainSample.gap_blank

/-- The greatest unsigned number of 64 bits is one both ways. -/
theorem read_enclosed_greatest :
    SameOrFail (read "a in 18446744073709551615") (read "a in (18446744073709551615)") ∧
      read "a in (18446744073709551615)" =
        .ok [inSample.condition [.uint 18446744073709551615]] := by
  let greatest : Numeral := ⟨false, "18446744073709551615".toList, [], by decide,
    List.all_eq_true.mp rfl, List.forall_mem_nil _⟩
  have value : greatest.HasValue := ⟨List.all_eq_true.mp rfl, fun _ => by decide⟩
  exact ⟨(inSample.read_enclosed_iff (.number greatest)).1.mpr value, rfl⟩

/-- The next number is refused alone, and is a string between parentheses. -/
theorem read_enclosed_beyond :
    read "a in 18446744073709551616" = .error (.badFragment .filter "a in 18446744073709551616"
        "18446744073709551616 is not a number") ∧
      read "a in (18446744073709551616)" =
        .ok [inSample.condition [.string "18446744073709551616"]] ∧
      ¬ SameOrFail (read "a in 18446744073709551616") (read "a in (18446744073709551616)") := by
  have alone : read "a in 18446744073709551616" = .error (.badFragment .filter
      "a in 18446744073709551616" "18446744073709551616 is not a number") := rfl
  have enclosed : read "a in (18446744073709551616)" =
      .ok [inSample.condition [.string "18446744073709551616"]] := rfl
  refine ⟨alone, enclosed, ?_⟩
  rw [alone, enclosed]
  exact nofun

end Filter

end RecordQuery
