import RecordQuery.Proofs.Text.Run
import RecordQuery.Request.Filter

/-!
The grammar of clause texts, `[table.]column operator operand` and `[table.]column isNull`, and
the reading of one: at the start of a text the scanner takes exactly the clause text, whatever
stands apart after it. The grammar is stated by its parts and their characters, without the
scanner.
-/

namespace RecordQuery.Filter

open Text

/-- An ASCII letter or underscore, then letters, digits and underscores. -/
structure Identifier where
  first : Char
  rest : List Char
  first_start : isNameStart first = true
  rest_name : ∀ c ∈ rest, isNameRest c = true

/-- Digits, perhaps after a minus sign and perhaps with a point and more digits after them. -/
structure Numeral where
  negative : Bool
  whole : List Char
  fraction : List Char
  whole_ne_nil : whole ≠ []
  whole_digit : ∀ c ∈ whole, isDecimalDigit c = true
  fraction_digit : ∀ c ∈ fraction, isDecimalDigit c = true

/-- An operand as it is written. -/
inductive OperandText where
  | quoted (body : List Char) (closed : '\'' ∉ body)
  | list (body : List Char) (closed : ')' ∉ body)
  | number (n : Numeral)

/-- What a clause says of its column. Between operator and operand blanks may be missing. -/
inductive PredicateText where
  | nullCheck (op : Operator) (checks : op.isNullCheck = true)
  | comparison (op : Operator) (compares : op.isNullCheck = false) (gap : List Char)
      (blank : ∀ c ∈ gap, isBlank c = true) (operand : OperandText)

/-- A clause as it is written: reference, at least one blank, and what is said of the column. -/
structure ClauseText where
  table : Option Identifier
  column : Identifier
  gap : List Char
  gap_ne_nil : gap ≠ []
  gap_blank : ∀ c ∈ gap, isBlank c = true
  predicate : PredicateText

def Identifier.chars (n : Identifier) : List Char := n.first :: n.rest

/-- The digits of a numeral with their point, without the sign. -/
def Numeral.digits (n : Numeral) : List Char :=
  n.whole ++ if n.fraction = [] then [] else '.' :: n.fraction

def Numeral.chars (n : Numeral) : List Char :=
  if n.negative then '-' :: n.digits else n.digits

namespace OperandText

/-- What the scanner hands on of an operand. -/
def raw : OperandText → RawOperand
  | .quoted body _ => .quoted body
  | .list body _ => .list body
  | .number n => .number n.chars

def chars : OperandText → List Char
  | .quoted body _ => '\'' :: (body ++ ['\''])
  | .list body _ => '(' :: (body ++ [')'])
  | .number n => n.chars

end OperandText

namespace PredicateText

def predicate : PredicateText → Predicate
  | .nullCheck op _ => .nullCheck op
  | .comparison op _ _ _ operand => .comparison op.token.toList operand.raw

def chars : PredicateText → List Char
  | .nullCheck op _ => op.token.toList
  | .comparison op _ gap _ operand => op.token.toList ++ (gap ++ operand.chars)

end PredicateText

namespace ClauseText

/-- The first name of a clause: its table, or its column if it has none. -/
def leading (t : ClauseText) : Identifier := t.table.getD t.column

def target (t : ClauseText) : Reference :=
  ⟨t.table.map fun n => String.ofList n.chars, String.ofList t.column.chars⟩

/-- What follows the leading name: perhaps a dot and the column, and then the rest. -/
def afterLeading (t : ClauseText) : List Char :=
  match t.table with
  | none => t.gap ++ t.predicate.chars
  | some _ => '.' :: (t.column.chars ++ (t.gap ++ t.predicate.chars))

def chars (t : ClauseText) : List Char := t.leading.chars ++ t.afterLeading

def text (t : ClauseText) : String := String.ofList t.chars

/-- The piece that the scanner finds in the text of a clause. -/
def piece (t : ClauseText) : Piece := ⟨t.target, t.predicate.predicate, t.chars⟩

end ClauseText

/-- A text that does not continue the word or number before it. -/
def StandsApart (rest : List Char) : Prop :=
  rest.head?.any (fun c => isDecimalDigit c || c == '.' || isWordChar c) = false

theorem StandsApart.head_not_digit {rest : List Char} (apart : StandsApart rest) :
    rest.head?.any isDecimalDigit = false := by
  cases rest with
  | nil => rfl
  | cons c cs => simp_all [StandsApart]

theorem StandsApart.head_ne_point {rest : List Char} (apart : StandsApart rest)
    (after : List Char) : rest ≠ '.' :: after := by
  rintro rfl
  simp [StandsApart] at apart

theorem StandsApart.atWordEnd {rest : List Char} (apart : StandsApart rest) :
    atWordEnd rest = true := by
  cases rest with
  | nil => rfl
  | cons c cs => simp_all [StandsApart, Text.atWordEnd]

/-! Names, blanks and words end where another class of characters begins. -/

theorem isNameRest_of_isBlank {c : Char} (blank : isBlank c = true) : isNameRest c = false := by
  rw [Bool.eq_false_iff]
  intro name
  simp only [isNameRest, Char.isAlphanum, Bool.or_eq_true, beq_iff_eq] at name
  rcases name with (alpha | digit) | rfl
  · simp [isBlank_of_isAlpha alpha] at blank
  · simpa [isDecimalDigit_of_isBlank blank] using isDecimalDigit_of_isDigit digit
  · revert blank
    decide

theorem isAlpha_of_isBlank {c : Char} (blank : isBlank c = true) : c.isAlpha = false := by
  rw [Bool.eq_false_iff]
  intro alpha
  simp [isBlank_of_isAlpha alpha] at blank

theorem isAlpha_of_isDecimalDigit {c : Char} (digit : isDecimalDigit c = true) :
    c.isAlpha = false := by
  rw [Bool.eq_false_iff]
  intro alpha
  simp [isDecimalDigit_of_isAlpha alpha] at digit

theorem isBlank_of_isDecimalDigit {c : Char} (digit : isDecimalDigit c = true) :
    isBlank c = false := by
  rw [Bool.eq_false_iff]
  intro blank
  simp [isDecimalDigit_of_isBlank blank] at digit

theorem isBlank_of_isNameStart {c : Char} (start : isNameStart c = true) :
    isBlank c = false := by
  simp only [isNameStart, Bool.or_eq_true, beq_iff_eq] at start
  rcases start with alpha | rfl
  · exact isBlank_of_isAlpha alpha
  · decide

theorem token_head_alpha (op : Operator) :
    ∃ c cs, op.token.toList = c :: cs ∧ c.isAlpha = true := by
  cases op <;> exact ⟨_, _, rfl, by decide⟩

theorem token_alpha (op : Operator) : ∀ c ∈ op.token.toList, c.isAlpha = true := by
  cases op <;> exact List.all_eq_true.mp rfl

/-! Reading the parts of a clause text. -/

theorem name?_append (n : Identifier) {rest : List Char}
    (ends : rest.head?.any isNameRest = false) :
    name? (n.chars ++ rest) = some (n.chars, rest) := by
  simp only [Identifier.chars, List.cons_append, name?, n.first_start, if_true]
  rw [takeWhile_run n.rest_name ends, dropWhile_run n.rest_name ends]

theorem ClauseText.gap_cons (t : ClauseText) :
    ∃ b bs, t.gap = b :: bs ∧ isBlank b = true ∧ ∀ c ∈ bs, isBlank c = true := by
  have blank := t.gap_blank
  cases gap : t.gap with
  | nil => exact absurd gap t.gap_ne_nil
  | cons b bs =>
    rw [gap] at blank
    exact ⟨b, bs, rfl, blank b (by simp), fun c mem => blank c (by simp [mem])⟩

/-- The gap ends the name before it. -/
theorem ClauseText.gap_ends_name (t : ClauseText) (rest : List Char) :
    (t.gap ++ rest).head?.any isNameRest = false := by
  obtain ⟨b, bs, gap, blank, -⟩ := t.gap_cons
  simp [gap, isNameRest_of_isBlank blank]

theorem reference?_append (t : ClauseText) (rest : List Char) :
    reference? (t.chars ++ rest) = some (t.target, t.gap ++ (t.predicate.chars ++ rest)) := by
  have columnEnds := t.gap_ends_name (t.predicate.chars ++ rest)
  cases table : t.table with
  | none =>
    have noDot : dottedName? (t.gap ++ (t.predicate.chars ++ rest)) = none := by
      obtain ⟨b, bs, gap, blank, -⟩ := t.gap_cons
      have notDot : b ≠ '.' := by
        rintro rfl
        revert blank
        decide
      simp [gap, dottedName?, notDot]
    simp only [ClauseText.chars, ClauseText.leading, ClauseText.afterLeading, table,
      Option.getD_none, List.append_assoc, reference?, name?_append t.column columnEnds,
      Option.map_some, noDot]
    simp [ClauseText.target, table]
  | some first =>
    have tableEnds : ('.' :: (t.column.chars ++ (t.gap ++ (t.predicate.chars ++ rest)))).head?.any
        isNameRest = false := by
      simp
      decide
    simp only [ClauseText.chars, ClauseText.leading, ClauseText.afterLeading, table,
      Option.getD_some, List.append_assoc, List.cons_append, reference?,
      name?_append first tableEnds, Option.map_some, dottedName?, name?_append t.column columnEnds]
    simp [ClauseText.target, table]

theorem predicate_head_alpha (p : PredicateText) :
    ∃ c cs, p.chars = c :: cs ∧ c.isAlpha = true := by
  cases p with
  | nullCheck op _ => exact token_head_alpha op
  | comparison op _ gap _ operand =>
    obtain ⟨c, cs, token, alpha⟩ := token_head_alpha op
    exact ⟨c, cs ++ (gap ++ operand.chars), by simp [PredicateText.chars, token], alpha⟩

theorem afterBlanks?_append (t : ClauseText) (rest : List Char) :
    afterBlanks? (t.gap ++ (t.predicate.chars ++ rest)) = some (t.predicate.chars ++ rest) := by
  obtain ⟨b, bs, gap, blank, blanks⟩ := t.gap_cons
  obtain ⟨c, cs, head, alpha⟩ := predicate_head_alpha t.predicate
  have ends : (t.predicate.chars ++ rest).head?.any isBlank = false := by
    simp [head, isBlank_of_isAlpha alpha]
  simp only [gap, List.cons_append, afterBlanks?, blank, if_true]
  rw [dropWhile_run blanks ends]

theorem digits?_append (n : Numeral) {rest : List Char} (apart : StandsApart rest) :
    digits? (n.digits ++ rest) = some (n.digits, rest) := by
  have notEmpty : n.whole.isEmpty = false := by
    simpa using n.whole_ne_nil
  by_cases fraction : n.fraction = []
  · simp only [Numeral.digits, fraction, if_true, List.append_nil, digits?,
      takeWhile_run n.whole_digit apart.head_not_digit,
      dropWhile_run n.whole_digit apart.head_not_digit, notEmpty, Bool.false_eq_true, if_false]
    split
    · exact absurd rfl (apart.head_ne_point _)
    · rfl
  · have wholeEnds : ('.' :: (n.fraction ++ rest)).head?.any isDecimalDigit = false := by
      simp
      decide
    have fractionNotEmpty : n.fraction.isEmpty = false := by
      simpa using fraction
    simp only [Numeral.digits, fraction, if_false, List.append_assoc, List.cons_append, digits?,
      takeWhile_run n.whole_digit wholeEnds, dropWhile_run n.whole_digit wholeEnds, notEmpty,
      takeWhile_run n.fraction_digit apart.head_not_digit,
      dropWhile_run n.fraction_digit apart.head_not_digit, fractionNotEmpty]
    rfl

theorem upTo?_append {closing : Char} {body : List Char} (closed : closing ∉ body)
    (rest : List Char) : upTo? closing (body ++ closing :: rest) = some (body, rest) := by
  have inside : ∀ c ∈ body, (c != closing) = true := by
    intro c mem
    simp only [bne_iff_ne, ne_eq]
    rintro rfl
    exact closed mem
  have ends : (closing :: rest).head?.any (· != closing) = false := by
    simp
  simp only [upTo?, takeWhile_run inside ends, dropWhile_run inside ends]

/-- An operand that begins with a digit is a number. -/
theorem operand?_of_digit {d : Char} (digit : isDecimalDigit d = true) (cs : List Char) :
    operand? (d :: cs) = (digits? (d :: cs)).map fun (digits, rest) => (.number digits, rest) := by
  have notQuote : d ≠ '\'' := by
    rintro rfl
    revert digit
    decide
  have notParen : d ≠ '(' := by
    rintro rfl
    revert digit
    decide
  have notMinus : d ≠ '-' := by
    rintro rfl
    revert digit
    decide
  simp [operand?, notQuote, notParen, notMinus]

theorem Numeral.digits_cons (n : Numeral) :
    ∃ d ds, n.digits = d :: ds ∧ isDecimalDigit d = true := by
  have digit := n.whole_digit
  cases whole : n.whole with
  | nil => exact absurd whole n.whole_ne_nil
  | cons d ds =>
    rw [whole] at digit
    exact ⟨d, _, by rw [Numeral.digits, whole, List.cons_append], digit d (by simp)⟩

theorem operand?_append (o : OperandText) {rest : List Char} (apart : StandsApart rest) :
    operand? (o.chars ++ rest) = some (o.raw, rest) := by
  cases o with
  | quoted body closed =>
    simp [OperandText.chars, OperandText.raw, operand?, upTo?_append closed]
  | list body closed =>
    simp [OperandText.chars, OperandText.raw, operand?, upTo?_append closed]
  | number n =>
    obtain ⟨d, ds, digits, digit⟩ := n.digits_cons
    have read := digits?_append n apart
    cases sign : n.negative with
    | true =>
      simp [OperandText.chars, OperandText.raw, Numeral.chars, sign, operand?, read]
    | false =>
      rw [digits, List.cons_append] at read
      simp [OperandText.chars, OperandText.raw, Numeral.chars, sign, digits,
        operand?_of_digit digit, read]

theorem operand_head (o : OperandText) :
    ∃ c cs, o.chars = c :: cs ∧ isBlank c = false ∧ c.isAlpha = false := by
  cases o with
  | quoted body _ => exact ⟨_, _, rfl, by decide, by decide⟩
  | list body _ => exact ⟨_, _, rfl, by decide, by decide⟩
  | number n =>
    obtain ⟨d, ds, digits, digit⟩ := n.digits_cons
    cases sign : n.negative with
    | true => exact ⟨'-', n.digits, by simp [OperandText.chars, Numeral.chars, sign], by decide,
        by decide⟩
    | false => exact ⟨d, ds, by simp [OperandText.chars, Numeral.chars, sign, digits],
        isBlank_of_isDecimalDigit digit, isAlpha_of_isDecimalDigit digit⟩

/-- An operand ends its clause as soon as the scanner finds it. -/
theorem comparison?_of_operand (op : Operator) {gap : List Char}
    (blank : ∀ c ∈ gap, isBlank c = true) (o : OperandText) {rest : List Char}
    (found : operand? (o.chars ++ rest) = some (o.raw, rest)) :
    comparison? (op.token.toList ++ (gap ++ (o.chars ++ rest))) =
      some (.comparison op.token.toList o.raw, rest) := by
  obtain ⟨c, cs, head, notBlank, notAlpha⟩ := operand_head o
  have wordEnds : (gap ++ (o.chars ++ rest)).head?.any Char.isAlpha = false := by
    cases gap with
    | nil => simp [head, notAlpha]
    | cons b bs => simp [isAlpha_of_isBlank (blank b (by simp))]
  have gapEnds : (o.chars ++ rest).head?.any isBlank = false := by
    simp [head, notBlank]
  have notEmpty : op.token.toList.isEmpty = false := by
    obtain ⟨c, cs, token, -⟩ := token_head_alpha op
    simp [token]
  simp only [comparison?, takeWhile_run (token_alpha op) wordEnds,
    dropWhile_run (token_alpha op) wordEnds, notEmpty, dropWhile_run blank gapEnds, found]
  rfl

theorem afterWord?_append (word : List Char) {rest : List Char} (apart : StandsApart rest) :
    afterWord? word (word ++ rest) = some rest := by
  simp [afterWord?, apart.atWordEnd]

theorem afterWord?_eq_none {word cs : List Char} (differ : word.isPrefixOf cs = false) :
    afterWord? word cs = none := by
  simp [afterWord?, differ]

/-- No word for a comparison begins like a word for a null check. -/
theorem nullCheck?_of_comparison {op : Operator} (compares : op.isNullCheck = false)
    (rest : List Char) : nullCheck? (op.token.toList ++ rest) = none := by
  have notNull : Operator.isNull.token.toList.isPrefixOf (op.token.toList ++ rest) = false := by
    cases op <;> first | contradiction | rfl
  have notNotNull :
      Operator.isNotNull.token.toList.isPrefixOf (op.token.toList ++ rest) = false := by
    cases op <;> first | contradiction | rfl
  simp only [nullCheck?, afterWord?_eq_none notNull, afterWord?_eq_none notNotNull]
  rfl

theorem nullCheck?_append {op : Operator} (checks : op.isNullCheck = true) {rest : List Char}
    (apart : StandsApart rest) : nullCheck? (op.token.toList ++ rest) = some (op, rest) := by
  cases op with
  | isNull => simp only [nullCheck?, afterWord?_append _ apart]
  | isNotNull =>
    have notNull : Operator.isNull.token.toList.isPrefixOf
        (Operator.isNotNull.token.toList ++ rest) = false := rfl
    simp only [nullCheck?, afterWord?_eq_none notNull, afterWord?_append _ apart]
    rfl
  | _ => contradiction

theorem predicate?_of_operand {op : Operator} (compares : op.isNullCheck = false)
    {gap : List Char} (blank : ∀ c ∈ gap, isBlank c = true) {o : OperandText} {rest : List Char}
    (found : operand? (o.chars ++ rest) = some (o.raw, rest)) :
    predicate? ((PredicateText.comparison op compares gap blank o).chars ++ rest) =
      some ((PredicateText.comparison op compares gap blank o).predicate, rest) := by
  simp only [PredicateText.chars, predicate?, List.append_assoc,
    nullCheck?_of_comparison compares, comparison?_of_operand op blank o found]
  rfl

theorem predicate?_append (p : PredicateText) {rest : List Char} (apart : StandsApart rest) :
    predicate? (p.chars ++ rest) = some (p.predicate, rest) := by
  cases p with
  | nullCheck op checks =>
    simp only [PredicateText.chars, predicate?, nullCheck?_append checks apart]
    rfl
  | comparison op compares gap blank operand =>
    exact predicate?_of_operand compares blank (operand?_append operand apart)

/-- At the start of a text the scanner finds a clause text as a whole where it finds what the clause
says of its column. -/
theorem piece?_of_predicate (t : ClauseText) {rest : List Char}
    (said : predicate? (t.predicate.chars ++ rest) = some (t.predicate.predicate, rest)) :
    piece? (t.chars ++ rest) = some t.piece := by
  have covered : (t.chars ++ rest).take ((t.chars ++ rest).length - rest.length) = t.chars := by
    rw [List.length_append, Nat.add_sub_cancel, List.take_left]
  simp only [piece?, reference?_append t rest, afterBlanks?_append t rest, said, bind, Option.bind,
    covered]
  rfl

/-- At the start of a text the scanner finds a clause text as a whole, and nothing beyond it. -/
theorem piece?_append (t : ClauseText) {rest : List Char} (apart : StandsApart rest) :
    piece? (t.chars ++ rest) = some t.piece :=
  piece?_of_predicate t (predicate?_append t.predicate apart)

end RecordQuery.Filter
