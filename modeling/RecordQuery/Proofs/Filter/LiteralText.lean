import RecordQuery.Proofs.Filter.ClauseText
import RecordQuery.Proofs.Number.IntegerText

/-!
The literals that filters can write: numbers of 64 bits and strings without a quote. The text of
one is an operand that reads back as the literal, and so it does as a member of a list. Commas and
blanks inside quotes separate nothing.
-/

namespace RecordQuery.Filter

open Text

/-- Literals whose text is their own in a filter. Unsigned numbers read as signed ones as far as
these go, and a quote would end a string. -/
inductive Writable : Scalar → Prop
  | int (n : Int64) : Writable (.int n)
  | uint {n : UInt64} (beyond : Int64.maxValue.toInt < n.toNat) : Writable (.uint n)
  | string {s : String} (unquoted : '\'' ∉ s.toList) : Writable (.string s)

/-- Literals whose text is their own in a list, which ends at its first closing parenthesis. -/
structure WritableMember (literal : Scalar) : Prop where
  writable : Writable literal
  unclosed : ∀ s, literal = .string s → ')' ∉ s.toList

/-! Numbers. -/

theorem exists_numeral (n : Int) : ∃ m : Numeral, m.chars = (toString n).toList := by
  have digits : ∀ c ∈ Nat.toDigits 10 n.natAbs, isDecimalDigit c = true :=
    fun c mem => isDecimalDigit_of_isDigit (isDigit_of_mem_toDigits c mem)
  refine ⟨⟨decide (n < 0), Nat.toDigits 10 n.natAbs, [], Nat.toDigits_ne_nil, digits, by simp⟩, ?_⟩
  rw [toList_toString_int]
  simp [Numeral.chars, Numeral.digits]

theorem toList_toString_natCast (n : Nat) : (toString (n : Int)).toList = (toString n).toList := by
  rw [toList_toString_int, if_neg (by omega), Nat.toString_eq_repr, Nat.toList_repr,
    Int.natAbs_natCast]

theorem minus_or_digit_of_mem {n : Int} {c : Char} (mem : c ∈ (toString n).toList) :
    c = '-' ∨ c.isDigit = true := by
  rw [toList_toString_int] at mem
  split at mem
  · exact (List.mem_cons.mp mem).imp_right (isDigit_of_mem_toDigits c)
  · exact Or.inr (isDigit_of_mem_toDigits c mem)

theorem not_mem_toString {n : Int} {c : Char} (notMinus : c ≠ '-') (notDigit : c.isDigit = false) :
    c ∉ (toString n).toList := by
  intro mem
  rcases minus_or_digit_of_mem mem with minus | digit
  · exact notMinus minus
  · simp [digit] at notDigit

/-- A number is its body behind the sign: ASCII digits, with a point for a float. -/
theorem number?_signed (negative : Bool) {body : List Char} (nonempty : body ≠ [])
    (unsigned : '-' ∉ body) : number? ((if negative then ['-'] else []) ++ body) =
      if body.all fun c => c.isDigit || c == '.' then
        if '.' ∈ body then
          (Binary64.read? ((if negative then ['-'] else []) ++ body)).map .float
        else
          match readInt64? ((if negative then ['-'] else []) ++ body) with
          | some n => some (.int n)
          | none => (readUInt64? ((if negative then ['-'] else []) ++ body)).map .uint
      else none := by
  obtain ⟨c, cs, rfl⟩ := List.exists_cons_of_ne_nil nonempty
  have notMinus : c ≠ '-' := by
    rintro rfl
    exact unsigned List.mem_cons_self
  have point : ((if negative then ['-'] else []) ++ c :: cs).contains '.' = true ↔
      '.' ∈ c :: cs := by
    cases negative <;> simp
  cases negative with
  | true =>
    simp only [if_true, List.singleton_append] at point ⊢
    simp only [number?, point, List.isEmpty_cons, Bool.false_or]
    cases (c :: cs).all fun c => c.isDigit || c == '.' <;> rfl
  | false =>
    simp only [Bool.false_eq_true, if_false, List.nil_append] at point ⊢
    simp only [number?, point, List.isEmpty_cons, Bool.false_or]
    split
    next same => exact absurd (List.cons.inj same).1 notMinus
    next => cases (c :: cs).all fun c => c.isDigit || c == '.' <;> rfl

/-- Digits alone are no float, so that they are read as signed or else as unsigned. -/
theorem number?_digits (negative : Bool) {digits : List Char} (nonempty : digits ≠ [])
    (ascii : ∀ c ∈ digits, c.isDigit = true) :
    number? ((if negative then ['-'] else []) ++ digits) =
      match readInt64? ((if negative then ['-'] else []) ++ digits) with
      | some n => some (.int n)
      | none => (readUInt64? ((if negative then ['-'] else []) ++ digits)).map .uint := by
  have none {c : Char} (other : c.isDigit = false) : c ∉ digits := by
    intro mem
    rw [ascii c mem] at other
    cases other
  have all : (digits.all fun c => c.isDigit || c == '.') = true := by
    rw [List.all_eq_true]
    intro c mem
    rw [ascii c mem, Bool.true_or]
  rw [number?_signed negative nonempty (none rfl), if_pos all, if_neg (none rfl)]

/-- The text of a whole number is read as signed or else as unsigned. -/
theorem number?_toString (n : Int) : number? (toString n).toList =
    match readInt64? (toString n).toList with
    | some m => some (.int m)
    | none => (readUInt64? (toString n).toList).map .uint := by
  have read := number?_digits (decide (n < 0)) Nat.toDigits_ne_nil
    (isDigit_of_mem_toDigits (n := n.natAbs))
  have text : (if decide (n < 0) then ['-'] else []) ++ Nat.toDigits 10 n.natAbs =
      (toString n).toList := by
    rw [toList_toString_int]
    by_cases negative : n < 0 <;> simp [negative]
  rwa [text] at read

theorem number?_of_int (n : Int64) : number? (toString n.toInt).toList = some (.int n) := by
  simp only [number?_toString, readInt64?_toString]

theorem number?_of_uint {n : UInt64} (beyond : Int64.maxValue.toInt < n.toNat) :
    number? (toString n.toNat).toList = some (.uint n) := by
  rw [← toList_toString_natCast, number?_toString, toList_toString_natCast,
    readInt64?_eq_none beyond, readUInt64?_toString]
  rfl

/-! One literal. -/

theorem text_string (s : String) :
    (Scalar.string s).text.toList = '\'' :: (s.toList ++ ['\'']) := by
  simp [Scalar.text]

theorem unquoted?_quoted (body : List Char) : unquoted? ('\'' :: (body ++ ['\''])) = some body := by
  have ends : ['\''].isSuffixOf (body ++ ['\'']) = true :=
    List.isSuffixOf_iff_suffix.mpr (List.suffix_append _ _)
  simp only [unquoted?, stripSuffix?, ends, if_true, List.length_append, Nat.add_sub_cancel,
    List.take_left]

theorem unquoted?_eq_none {cs : List Char} (noQuote : '\'' ∉ cs) : unquoted? cs = none := by
  unfold unquoted?
  split
  next => exact absurd List.mem_cons_self noQuote
  next => rfl

/-- A literal is written as a whole number or between quotes. -/
theorem Writable.number_or_string {literal : Scalar} (writable : Writable literal) :
    (∃ n : Int, literal.text.toList = (toString n).toList ∧
      number? (toString n).toList = some literal) ∨
    ∃ s : String, literal = .string s ∧ '\'' ∉ s.toList := by
  cases writable with
  | int n => exact Or.inl ⟨n.toInt, rfl, number?_of_int n⟩
  | @uint n beyond =>
    refine Or.inl ⟨n.toNat, ?_, ?_⟩
    · rw [toList_toString_natCast]
      rfl
    · rw [toList_toString_natCast, number?_of_uint beyond]
  | @string s unquoted => exact Or.inr ⟨s, rfl, unquoted⟩

/-- The text of a literal is an operand that reads as the literal. -/
theorem exists_operandText {literal : Scalar} (writable : Writable literal) :
    ∃ o : OperandText, o.chars = literal.text.toList ∧
      ∀ op text, readOperand op text o.raw = .ok (.single literal) := by
  rcases writable.number_or_string with ⟨n, written, number⟩ | ⟨s, rfl, unquoted⟩
  · obtain ⟨m, chars⟩ := exists_numeral n
    refine ⟨.number m, chars.trans written.symm, fun op text => ?_⟩
    simp only [OperandText.raw, chars, readOperand, number]
  · refine ⟨.quoted s.toList unquoted, (text_string s).symm, fun op text => ?_⟩
    simp only [OperandText.raw, readOperand, String.ofList_toList]

/-- The text of a literal, as a member of a list, reads as the literal. -/
theorem member_text {literal : Scalar} (writable : Writable literal) :
    member literal.text.toList = literal := by
  rcases writable.number_or_string with ⟨n, written, number⟩ | ⟨s, rfl, -⟩
  · have noQuote : '\'' ∉ (toString n).toList := not_mem_toString (by decide) (by decide)
    rw [written, member, unquoted?_eq_none noQuote, number]
    rfl
  · simp only [text_string, member, unquoted?_quoted, String.ofList_toList]

theorem text_ne_nil {literal : Scalar} (writable : Writable literal) :
    literal.text.toList ≠ [] := by
  obtain ⟨o, chars, -⟩ := exists_operandText writable
  obtain ⟨c, cs, head, -⟩ := operand_head o
  rw [← chars, head]
  exact List.cons_ne_nil c cs

/-! Lists of literals. -/

/-- The number of quotes is odd. -/
def oddQuotes (cs : List Char) : Bool :=
  cs.count '\'' % 2 == 1

theorem oddQuotes_append (xs ys : List Char) :
    oddQuotes (xs ++ ys) = (oddQuotes xs != oddQuotes ys) := by
  unfold oddQuotes
  rw [List.count_append, Nat.add_mod]
  rcases Nat.mod_two_eq_zero_or_one (xs.count '\'') with x | x <;>
    rcases Nat.mod_two_eq_zero_or_one (ys.count '\'') with y | y <;>
    rw [x, y] <;> rfl

theorem oddQuotes_singleton (c : Char) : oddQuotes [c] = (c == '\'') := by
  unfold oddQuotes
  by_cases quote : c = '\''
  · subst quote
    rfl
  · simp [quote]

theorem oddQuotes_cons (c : Char) (cs : List Char) :
    oddQuotes (c :: cs) = (oddQuotes cs != (c == '\'')) := by
  rw [← List.singleton_append, oddQuotes_append, oddQuotes_singleton, bne_comm]

theorem oddQuotes_of_not_mem {cs : List Char} (noQuote : '\'' ∉ cs) : oddQuotes cs = false := by
  rw [oddQuotes, List.count_eq_zero.mpr noQuote]
  rfl

/-- A run of characters joins the part after it if all of its commas stand inside quotes. -/
theorem splitOutsideQuotes_joined {quoted : Bool} {run rest part : List Char}
    {parts : List (List Char)}
    (joined : ∀ before after, run = before ++ ',' :: after → (quoted != oddQuotes before) = true)
    (split : splitOutsideQuotes (quoted != oddQuotes run) rest = part :: parts) :
    splitOutsideQuotes quoted (run ++ rest) = (run ++ part) :: parts := by
  induction run generalizing quoted with
  | nil => simpa [oddQuotes] using split
  | cons c cs ih =>
    have notSeparator : (c == ',' && !quoted) = false := by
      rw [Bool.and_eq_false_iff, beq_eq_false_iff_ne, Bool.not_eq_false']
      by_cases comma : c = ','
      · have inside := joined [] cs (by rw [comma, List.nil_append])
        exact .inr (by simpa [oddQuotes] using inside)
      · exact .inl comma
    have state (xs : List Char) : ((quoted != (c == '\'')) != oddQuotes xs) =
        (quoted != oddQuotes (c :: xs)) := by
      rw [oddQuotes_cons, Bool.bne_assoc, bne_comm (a := oddQuotes xs)]
    have inside : splitOutsideQuotes (quoted != (c == '\'')) (cs ++ rest) =
        (cs ++ part) :: parts := by
      apply ih
      · intro before after same
        rw [state]
        exact joined (c :: before) after (by rw [same, List.cons_append])
      · rw [state]
        exact split
    rw [List.cons_append, splitOutsideQuotes, notSeparator, inside]
    rfl

/-- A run of characters that neither separate nor quote joins the part after it. -/
theorem splitOutsideQuotes_run {quoted : Bool} {run rest part : List Char}
    {parts : List (List Char)} (noQuote : '\'' ∉ run) (joins : quoted = true ∨ ',' ∉ run)
    (split : splitOutsideQuotes quoted rest = part :: parts) :
    splitOutsideQuotes quoted (run ++ rest) = (run ++ part) :: parts := by
  apply splitOutsideQuotes_joined
  · rintro before after rfl
    have none : oddQuotes before = false :=
      oddQuotes_of_not_mem fun mem => noQuote (List.mem_append_left _ mem)
    rw [none, Bool.bne_false]
    exact joins.resolve_right fun noComma => noComma (by simp)
  · rwa [oddQuotes_of_not_mem noQuote, Bool.bne_false]

theorem not_mem_intercalate {c : Char} {between : List Char} {parts : List (List Char)}
    (outside : c ∉ between) (inside : ∀ part ∈ parts, c ∉ part) :
    c ∉ between.intercalate parts := by
  induction parts with
  | nil => simp
  | cons part parts ih =>
    rw [List.forall_mem_cons] at inside
    cases parts with
    | nil => simpa using inside.1
    | cons next parts =>
      simp only [List.intercalate_cons_cons, List.mem_append, not_or]
      exact ⟨⟨inside.1, outside⟩, ih inside.2⟩

end RecordQuery.Filter
