import RecordQuery.Proofs.Filter.LiteralText
import RecordQuery.Proofs.Number.FloatText

/-!
Lists of any literals that filters read, and which of them read back from their texts. Strings may
have quotes of their own here, which open and close like those around the string. So a comma of a
string separates where it stands behind an odd number of the string's own quotes. And an infinite
float is written as a word, which a list takes for a string. Lists of writable literals, closed by
none of their strings, always read back.
-/

namespace RecordQuery.Filter

open Text

/-- Literals that filters read. Unsigned numbers read as signed ones as far as these go. -/
inductive Readable : Scalar → Prop
  | int (n : Int64) : Readable (.int n)
  | uint {n : UInt64} (beyond : Int64.maxValue.toInt < n.toNat) : Readable (.uint n)
  | float (x : Binary64) : Readable (.float x)
  | string (s : String) : Readable (.string s)

/-- Every comma stands behind an even number of quotes. -/
def CommasEven (cs : List Char) : Prop :=
  ∀ before after, cs = before ++ ',' :: after → oddQuotes before = false

/-- The literal reads back as a member of a list. -/
structure Rereads (literal : Scalar) : Prop where
  finite : ∀ x, literal = .float x → x.isFinite = true
  commas : ∀ s, literal = .string s → CommasEven s.toList

/-! Floats. -/

/-- Floats that are not finite are written as words. -/
theorem floatText_of_not_finite {x : Binary64} (notFinite : x.isFinite = false) :
    Scalar.floatText x ∈ ["NaN", "-NaN", "inf", "-inf"] := by
  have notWhole : x.isWhole = false := by
    rw [Binary64.isWhole, notFinite, Bool.false_and]
  have word : (if !false then "inf" else if x.isZero then "0"
      else (Decimal.shortest .up x).plain) = "inf" := rfl
  rw [Scalar.floatText, notWhole, if_neg Bool.false_ne_true, Binary64.text, notFinite, word]
  cases x.isNaN <;> cases x.isNegative <;> decide

/-- Digits with a point among them are read as a float. -/
theorem number?_pointed (negative : Bool) {whole fraction : List Char}
    (digits : ∀ c ∈ whole ++ fraction, c.isDigit = true) :
    number? ((if negative then ['-'] else []) ++ (whole ++ '.' :: fraction)) =
      (Binary64.read? ((if negative then ['-'] else []) ++ (whole ++ '.' :: fraction))).map
        .float := by
  have among {c : Char} : c ∈ whole ++ '.' :: fraction ↔ c = '.' ∨ c ∈ whole ++ fraction := by
    rw [List.mem_append, List.mem_cons, List.mem_append, or_left_comm]
  have unsigned : '-' ∉ whole ++ '.' :: fraction := by
    intro mem
    rcases among.mp mem with point | digit
    · contradiction
    · exact absurd (digits _ digit) (by decide)
  have all : ((whole ++ '.' :: fraction).all fun c => c.isDigit || c == '.') = true := by
    rw [List.all_eq_true]
    intro c mem
    rcases among.mp mem with rfl | digit
    · rfl
    · rw [digits c digit, Bool.true_or]
  have something : whole ++ '.' :: fraction ≠ [] := by simp
  rw [number?_signed negative something unsigned, if_pos all, if_pos (among.mpr (.inl rfl))]

/-- The text of a finite float is an operand that reads as the float. -/
theorem exists_numeral_float {x : Binary64} (finite : x.isFinite = true) :
    (∃ m : Numeral, m.chars = (Scalar.floatText x).toList) ∧
      number? (Scalar.floatText x).toList = some (.float x) := by
  obtain ⟨whole, fraction, written, nonempty, pointed, digits, -⟩ := Scalar.floatText_spec finite
  constructor
  · have decimal : ∀ c ∈ whole ++ fraction, isDecimalDigit c = true :=
      fun c mem => isDecimalDigit_of_isDigit (digits c mem)
    rw [List.forall_mem_append] at decimal
    refine ⟨⟨x.isNegative, whole, fraction, nonempty, decimal.1, decimal.2⟩, ?_⟩
    rw [written]
    cases x.isNegative <;> simp [Numeral.chars, Numeral.digits, pointed]
  · have read := Scalar.read?_floatText finite
    rw [written] at read ⊢
    rw [number?_pointed x.isNegative digits, read, Option.map_some]

/-! Numbers in lists. -/

/-- Letters, digits, signs and points. -/
def isNumberChar (c : Char) : Bool :=
  c.isAlphanum || c == '-' || c == '.'

theorem isNumberChar_of_isDigit {c : Char} (digit : c.isDigit = true) : isNumberChar c = true := by
  simp [isNumberChar, Char.isAlphanum, digit]

theorem isBlank_of_isNumberChar {c : Char} (number : isNumberChar c = true) :
    isBlank c = false := by
  rw [Bool.eq_false_iff]
  intro blank
  have notName := isNameRest_of_isBlank blank
  simp only [isNameRest, Bool.or_eq_false_iff] at notName
  simp only [isNumberChar, notName.1, Bool.false_or, Bool.or_eq_true, beq_iff_eq] at number
  rcases number with rfl | rfl
  · revert blank
    decide
  · revert blank
    decide

/-- A literal that is no string, in letters, digits, signs and points. -/
structure WrittenAsNumber (literal : Scalar) : Prop where
  notString : ∀ s, literal ≠ .string s
  ne_nil : literal.text.toList ≠ []
  chars : ∀ c ∈ literal.text.toList, isNumberChar c = true

theorem WrittenAsNumber.not_mem {literal : Scalar} (number : WrittenAsNumber literal) {c : Char}
    (other : isNumberChar c = false) : c ∉ literal.text.toList := by
  intro mem
  rw [number.chars c mem] at other
  cases other

theorem isNumberChar_of_mem_toString {n : Int} :
    ∀ c ∈ (toString n).toList, isNumberChar c = true := by
  intro c mem
  rcases minus_or_digit_of_mem mem with rfl | digit
  · rfl
  · exact isNumberChar_of_isDigit digit

theorem writtenAsNumber_float (x : Binary64) : WrittenAsNumber (.float x) := by
  suffices written : (Scalar.floatText x).toList ≠ [] ∧
      ∀ c ∈ (Scalar.floatText x).toList, isNumberChar c = true from
    ⟨fun s => Scalar.noConfusion, written.1, written.2⟩
  cases finite : x.isFinite with
  | true =>
    obtain ⟨front, behind, written, nonempty, -, digits, -⟩ := Scalar.floatText_spec finite
    rw [written]
    refine ⟨by simp, fun c mem => ?_⟩
    rw [List.mem_append, List.mem_append, List.mem_cons] at mem
    rcases mem with sign | front | rfl | behind
    · split at sign
      · rw [List.mem_singleton.mp sign]
        rfl
      · cases sign
    · exact isNumberChar_of_isDigit (digits c (List.mem_append_left _ front))
    · rfl
    · exact isNumberChar_of_isDigit (digits c (List.mem_append_right _ behind))
  | false =>
    have words : ∀ word ∈ ["NaN", "-NaN", "inf", "-inf"],
        word.toList ≠ [] ∧ word.toList.all isNumberChar = true := by
      decide
    obtain ⟨nonempty, chars⟩ := words _ (floatText_of_not_finite finite)
    exact ⟨nonempty, List.all_eq_true.mp chars⟩

/-- Literals that filters read are strings or written as numbers. -/
theorem Readable.string_or_number {literal : Scalar} (readable : Readable literal) :
    (∃ s, literal = .string s) ∨ WrittenAsNumber literal := by
  cases readable with
  | string s => exact .inl ⟨s, rfl⟩
  | int n =>
    exact .inr ⟨fun s => Scalar.noConfusion, text_ne_nil (.int n), isNumberChar_of_mem_toString⟩
  | @uint n beyond =>
    refine .inr ⟨fun s => Scalar.noConfusion, text_ne_nil (.uint beyond), ?_⟩
    change ∀ c ∈ (toString n.toNat).toList, _
    rw [← toList_toString_natCast]
    exact isNumberChar_of_mem_toString
  | float x => exact .inr (writtenAsNumber_float x)

/-- A number reads back as a member unless it is a float that is not finite. -/
theorem member_number_iff {literal : Scalar} (readable : Readable literal)
    (notString : ∀ s, literal ≠ .string s) :
    member literal.text.toList = literal ↔ ∀ x, literal = .float x → x.isFinite = true := by
  cases readable with
  | string s => exact absurd rfl (notString s)
  | int n => exact iff_of_true (member_text (.int n)) (by rintro x ⟨⟩)
  | uint beyond => exact iff_of_true (member_text (.uint beyond)) (by rintro x ⟨⟩)
  | float x =>
    change member (Scalar.floatText x).toList = .float x ↔ _
    cases finite : x.isFinite with
    | true =>
      refine iff_of_true ?_ (by rintro y ⟨⟩; exact finite)
      have noQuote : '\'' ∉ (Scalar.floatText x).toList :=
        (writtenAsNumber_float x).not_mem (by decide)
      rw [member, unquoted?_eq_none noQuote, (exists_numeral_float finite).2]
      rfl
    | false =>
      refine iff_of_false ?_ fun all => ?_
      · have word := floatText_of_not_finite finite
        have string : ∀ word ∈ ["NaN", "-NaN", "inf", "-inf"],
            member word.toList = .string word := by
          decide +kernel
        simp [string _ word]
      · rw [all x rfl] at finite
        cases finite

/-! Members of a list, one after another. -/

theorem exists_splitOutsideQuotes (quoted : Bool) (cs : List Char) :
    ∃ part parts, splitOutsideQuotes quoted cs = part :: parts := by
  cases cs with
  | nil => exact ⟨[], [], rfl⟩
  | cons c cs =>
    unfold splitOutsideQuotes
    split
    · exact ⟨_, _, rfl⟩
    · split
      · exact ⟨_, _, rfl⟩
      · exact ⟨_, _, rfl⟩

theorem members_of_split {cs part : List Char} {parts : List (List Char)}
    (split : splitOutsideQuotes false cs = part :: parts) (something : trimChars part ≠ []) :
    members cs = member (trimChars part) ::
      ((parts.map trimChars).filter fun part => !part.isEmpty).map member := by
  rw [members, split, List.map_cons, List.filter_cons_of_pos (by simpa using something),
    List.map_cons]

/-- A blank before a list is trimmed. -/
theorem members_blank (cs : List Char) : members (' ' :: cs) = members cs := by
  obtain ⟨part, parts, split⟩ := exists_splitOutsideQuotes false cs
  have noQuote : '\'' ∉ [' '] := by decide
  have behind : splitOutsideQuotes false (' ' :: cs) = (' ' :: part) :: parts :=
    splitOutsideQuotes_run noQuote (.inr (by decide)) split
  have blank : trimChars (' ' :: part) = trimChars part := rfl
  rw [members, members, behind, split, List.map_cons, List.map_cons, blank]

/-- A comma outside quotes ends a member. -/
theorem members_comma {text rest : List Char}
    (joined : ∀ before after, text = before ++ ',' :: after → (false != oddQuotes before) = true)
    (closed : oddQuotes text = false) (something : trimChars text ≠ []) :
    members (text ++ ',' :: rest) = member (trimChars text) :: members rest := by
  have comma : splitOutsideQuotes (false != oddQuotes text) (',' :: rest) =
      [] :: splitOutsideQuotes false rest := by
    rw [closed]
    rfl
  have split := splitOutsideQuotes_joined joined comma
  rw [List.append_nil] at split
  exact members_of_split split something

/-- The last member reaches to the end of the list, where its quotes may be open. -/
theorem members_last {text : List Char}
    (joined : ∀ before after, text = before ++ ',' :: after → (false != oddQuotes before) = true)
    (something : trimChars text ≠ []) : members text = [member (trimChars text)] := by
  have nothing : splitOutsideQuotes (false != oddQuotes text) [] = [] :: [] := rfl
  have split := splitOutsideQuotes_joined joined nothing
  rw [List.append_nil] at split
  exact members_of_split split something

/-- The text of a literal has nothing to trim. -/
theorem trimChars_readable {literal : Scalar} (readable : Readable literal) :
    trimChars literal.text.toList = literal.text.toList := by
  rcases readable.string_or_number with ⟨s, rfl⟩ | number
  · rw [text_string]
    exact trimChars_eq_self rfl (by rw [← List.cons_append, List.getLast?_concat]; rfl)
  · exact trimChars_tight fun c mem => isBlank_of_isNumberChar (number.chars c mem)

theorem trimChars_ne_nil {literal : Scalar} (readable : Readable literal) :
    trimChars literal.text.toList ≠ [] := by
  rw [trimChars_readable readable]
  rcases readable.string_or_number with ⟨s, rfl⟩ | number
  · rw [text_string]
    exact List.cons_ne_nil _ _
  · exact number.ne_nil

theorem trimChars_quote_ne_nil (cs : List Char) : trimChars ('\'' :: cs) ≠ [] := by
  obtain ⟨front, trimmed, -⟩ := exists_trimChars_cons (by decide : isBlank '\'' = false) cs
  rw [trimmed]
  exact List.cons_ne_nil _ _

/-- Behind a quote the commas of a string stand inside quotes. -/
theorem joined_quote {s : List Char} (commas : CommasEven s) (before after : List Char)
    (split : '\'' :: s = before ++ ',' :: after) : (false != oddQuotes before) = true := by
  cases before with
  | nil =>
    have := (List.cons.inj split).1
    contradiction
  | cons c before =>
    obtain ⟨rfl, inside⟩ := List.cons.inj split
    rw [oddQuotes_cons, commas before after inside]
    rfl

theorem CommasEven.quote {s : List Char} (commas : CommasEven s) :
    CommasEven (s ++ ['\'']) := by
  intro before after split
  rcases List.append_eq_append_iff.mp split with ⟨more, -, quote⟩ | ⟨more, inside, comma⟩
  · cases more with
    | nil =>
      have := (List.cons.inj quote).1
      contradiction
    | cons _ more => simp at quote
  · cases more with
    | nil =>
      have := (List.cons.inj comma).1
      contradiction
    | cons d more =>
      obtain ⟨rfl, -⟩ := List.cons.inj comma
      exact commas before more inside

theorem joined_of_not_mem {cs : List Char} (noComma : ',' ∉ cs) (before after : List Char)
    (split : cs = before ++ ',' :: after) : (false != oddQuotes before) = true := by
  rw [split] at noComma
  simp at noComma

theorem WrittenAsNumber.joined {literal : Scalar} (number : WrittenAsNumber literal)
    (before after : List Char) (split : literal.text.toList = before ++ ',' :: after) :
    (false != oddQuotes before) = true :=
  joined_of_not_mem (number.not_mem (by decide)) before after split

theorem WrittenAsNumber.closed {literal : Scalar} (number : WrittenAsNumber literal) :
    oddQuotes literal.text.toList = false :=
  oddQuotes_of_not_mem (number.not_mem (by decide))

/-- The commas of a literal that reads back in a list separate nothing. -/
theorem Rereads.joined {literal : Scalar} (readable : Readable literal)
    (rereads : Rereads literal) (before after : List Char)
    (split : literal.text.toList = before ++ ',' :: after) :
    (false != oddQuotes before) = true := by
  rcases readable.string_or_number with ⟨s, rfl⟩ | number
  · rw [text_string] at split
    exact joined_quote (rereads.commas s rfl).quote before after split
  · exact number.joined before after split

theorem Rereads.member_text {literal : Scalar} (readable : Readable literal)
    (rereads : Rereads literal) : member literal.text.toList = literal := by
  rcases readable.string_or_number with ⟨s, rfl⟩ | number
  · simp only [text_string, member, unquoted?_quoted, String.ofList_toList]
  · exact (member_number_iff readable number.notString).mpr rereads.finite

/-- A literal that reads back in a list does so as its only member. -/
theorem Rereads.members_text {literal : Scalar} (readable : Readable literal)
    (rereads : Rereads literal) : members literal.text.toList = [literal] := by
  have trimmed := trimChars_readable readable
  have something := trimChars_ne_nil readable
  rw [members_last (rereads.joined readable) something, trimmed, rereads.member_text readable]

/-! What becomes of a literal that does not read back. -/

/-- Of a comma that stands behind an odd number of quotes and such a one before it the earlier one
is taken, so there is a first one. -/
theorem exists_first_comma_of {cs : List Char} (before after : List Char)
    (split : cs = before ++ ',' :: after) (odd : oddQuotes before = true) :
    ∃ before after, cs = before ++ ',' :: after ∧ oddQuotes before = true ∧
      CommasEven before := by
  by_cases even : CommasEven before
  · exact ⟨before, after, split, odd, even⟩
  · unfold CommasEven at even
    push Not at even
    obtain ⟨earlier, between, shorter, uneven⟩ := even
    have longer : earlier.length < before.length := by
      rw [shorter, List.length_append, List.length_cons]
      omega
    refine exists_first_comma_of earlier (between ++ ',' :: after) ?_
      (Bool.eq_true_of_not_eq_false uneven)
    rw [split, shorter, List.append_assoc, List.cons_append]
termination_by before.length

theorem exists_first_comma {cs : List Char} (uneven : ¬ CommasEven cs) :
    ∃ before after, cs = before ++ ',' :: after ∧ oddQuotes before = true ∧
      CommasEven before := by
  unfold CommasEven at uneven
  push Not at uneven
  obtain ⟨before, after, split, odd⟩ := uneven
  exact exists_first_comma_of before after split (Bool.eq_true_of_not_eq_false odd)

/-- A string that is cut at a character and quoted in front is another string. -/
theorem member_cut_ne {a b : List Char} {d : Char} (notQuote : d ≠ '\'') :
    member (trimChars ('\'' :: a)) ≠ .string (String.ofList (a ++ d :: b)) := by
  obtain ⟨front, trimmed, leading⟩ := exists_trimChars_cons (by decide : isBlank '\'' = false) a
  have short := leading.length_le
  rw [trimmed]
  intro same
  cases quoted : unquoted? ('\'' :: front) with
  | some body =>
    simp only [member, quoted, Scalar.string.injEq, String.ofList_inj] at same
    have length := congrArg List.length same
    simp only [unquoted?, stripSuffix?, Option.ite_none_right_eq_some, Option.some.injEq] at quoted
    simp only [← quoted.2, List.length_take, List.length_append, List.length_cons] at length
    omega
  | none =>
    have notNumber : number? ('\'' :: front) = none := rfl
    simp only [member, quoted, notNumber, Option.getD_none, Scalar.string.injEq,
      String.ofList_inj] at same
    have length := congrArg List.length same
    rw [List.length_append, List.length_cons, List.length_cons] at length
    obtain rfl : front = a := leading.eq_of_length (by omega)
    obtain rfl : b = [] := List.length_eq_zero_iff.mp (by omega)
    have quotes := congrArg (List.count '\'') same
    rw [List.count_cons_self, List.count_append, List.count_cons_of_ne notQuote] at quotes
    simp at quotes

/-- A literal that does not read back becomes another first member, whatever follows it. -/
theorem exists_member_ne {literal : Scalar} (readable : Readable literal)
    (lost : ¬ Rereads literal) {rest : List Char}
    (behind : rest = [] ∨ ∃ more, rest = ',' :: more) :
    ∃ m ms, members (literal.text.toList ++ rest) = m :: ms ∧ m ≠ literal := by
  rcases readable.string_or_number with ⟨s, rfl⟩ | number
  · have uneven : ¬ CommasEven s.toList := fun even =>
      lost ⟨nofun, fun s' same => by cases same; exact even⟩
    obtain ⟨a, b, split, odd, even⟩ := exists_first_comma uneven
    have closed : oddQuotes ('\'' :: a) = false := by
      rw [oddQuotes_cons, odd]
      rfl
    have something := trimChars_quote_ne_nil a
    have cut : (Scalar.string s).text.toList ++ rest = '\'' :: a ++ ',' :: (b ++ '\'' :: rest) := by
      rw [text_string, split]
      simp
    refine ⟨_, _, cut ▸ members_comma (joined_quote even) closed something, ?_⟩
    have whole : s = String.ofList (a ++ ',' :: b) := by
      rw [← split, String.ofList_toList]
    rw [whole]
    exact member_cut_ne (by decide)
  · have differs : member literal.text.toList ≠ literal := fun same =>
      lost ⟨(member_number_iff readable number.notString).mp same,
        fun s is => absurd is (number.notString s)⟩
    have trimmed := trimChars_readable readable
    have something := trimChars_ne_nil readable
    rcases behind with rfl | ⟨more, rfl⟩
    · rw [List.append_nil]
      exact ⟨_, _, members_last number.joined something, by rwa [trimmed]⟩
    · exact ⟨_, _, members_comma number.joined number.closed something, by rwa [trimmed]⟩

/-! Lists. -/

/-- The texts of literals with a comma and a blank between them. -/
def listText (literals : List Scalar) : List Char :=
  [',', ' '].intercalate (literals.map fun l => l.text.toList)

theorem listText_cons_cons (literal next : Scalar) (others : List Scalar) :
    listText (literal :: next :: others) =
      literal.text.toList ++ ',' :: ' ' :: listText (next :: others) := by
  simp [listText, List.intercalate_cons_cons]

/-- A list of literals reads back from its text exactly if each of them does. Strings before the
last member have their quotes in pairs. -/
theorem members_listText_iff {literals : List Scalar} (readable : ∀ l ∈ literals, Readable l)
    (paired : ∀ s, Scalar.string s ∈ literals.dropLast → oddQuotes s.toList = false) :
    members (listText literals) = literals ↔ ∀ l ∈ literals, Rereads l := by
  cases literals with
  | nil => exact iff_of_true rfl nofun
  | cons literal others =>
    induction others generalizing literal with
    | nil =>
      have first := readable literal List.mem_cons_self
      have alone : listText [literal] = literal.text.toList := by simp [listText]
      rw [alone, List.forall_mem_singleton]
      by_cases rereads : Rereads literal
      · exact iff_of_true (rereads.members_text first) rereads
      · obtain ⟨m, ms, found, differs⟩ := exists_member_ne first rereads (.inl rfl)
        rw [List.append_nil] at found
        rw [found]
        exact iff_of_false (fun same => differs (List.cons.inj same).1) rereads
    | cons next others ih =>
      rw [List.forall_mem_cons] at readable
      rw [listText_cons_cons, List.forall_mem_cons]
      by_cases rereads : Rereads literal
      · have trimmed := trimChars_readable readable.1
        have something := trimChars_ne_nil readable.1
        have closed : oddQuotes literal.text.toList = false := by
          rcases readable.1.string_or_number with ⟨s, rfl⟩ | number
          · have even := paired s (by simp)
            rw [text_string, oddQuotes_cons, oddQuotes_append, even]
            rfl
          · exact number.closed
        have later := ih next readable.2 fun s mem => paired s (by simp [mem])
        rw [members_comma (rereads.joined readable.1) closed something, trimmed,
          rereads.member_text readable.1, members_blank, List.cons.injEq, later]
        exact ⟨fun ⟨_, all⟩ => ⟨rereads, all⟩, fun ⟨_, all⟩ => ⟨rfl, all⟩⟩
      · obtain ⟨m, ms, found, differs⟩ := exists_member_ne readable.1 rereads (.inr ⟨_, rfl⟩)
        rw [found]
        exact iff_of_false (fun same => differs (List.cons.inj same).1)
          (fun all => rereads all.1)

/-! The text of a list as an operand. -/

theorem not_mem_listText {literals : List Scalar} (readable : ∀ l ∈ literals, Readable l)
    (unclosed : ∀ s, Scalar.string s ∈ literals → ')' ∉ s.toList) : ')' ∉ listText literals := by
  refine not_mem_intercalate (by decide) ?_
  rw [List.forall_mem_map]
  intro literal mem
  rcases (readable literal mem).string_or_number with ⟨s, rfl⟩ | number
  · rw [text_string]
    simpa using unclosed s mem
  · exact number.not_mem (by decide)

/-- The text of a list in which nothing closes it is an operand that reads as its members. -/
theorem exists_operandText_members {literals : List Scalar}
    (readable : ∀ l ∈ literals, Readable l)
    (unclosed : ∀ s, Scalar.string s ∈ literals → ')' ∉ s.toList) :
    ∃ o : OperandText, o.chars = (Operand.list literals).text.toList ∧
      ∀ op text, op.takesList = true →
        readOperand op text o.raw = .ok (.list (members (listText literals))) := by
  refine ⟨.list _ (not_mem_listText readable unclosed), ?_, fun op text takes => ?_⟩
  · simp [OperandText.chars, Operand.text, listText, Function.comp_def]
  · simp only [OperandText.raw, readOperand, takes, if_true]

theorem Writable.readable {literal : Scalar} (writable : Writable literal) : Readable literal := by
  cases writable with
  | int n => exact .int n
  | uint beyond => exact .uint beyond
  | string _ => exact .string _

/-- Without quotes no comma stands behind an odd number of them. -/
theorem commasEven_of_not_mem {cs : List Char} (unquoted : '\'' ∉ cs) : CommasEven cs := by
  rintro before after rfl
  exact oddQuotes_of_not_mem fun mem => unquoted (List.mem_append_left _ mem)

theorem Writable.rereads {literal : Scalar} (writable : Writable literal) : Rereads literal := by
  cases writable with
  | int n => exact ⟨nofun, nofun⟩
  | uint beyond => exact ⟨nofun, nofun⟩
  | @string s unquoted =>
    refine ⟨nofun, ?_⟩
    rintro _ ⟨⟩
    exact commasEven_of_not_mem unquoted

/-- The text of a list of writable literals is an operand that reads as the list. -/
theorem exists_operandText_list {literals : List Scalar}
    (writable : ∀ l ∈ literals, WritableMember l) :
    ∃ o : OperandText, o.chars = (Operand.list literals).text.toList ∧
      ∀ op text, op.takesList = true → readOperand op text o.raw = .ok (.list literals) := by
  have readable : ∀ l ∈ literals, Readable l := fun l mem => (writable l mem).writable.readable
  have paired (s : String) (mem : Scalar.string s ∈ literals.dropLast) :
      oddQuotes s.toList = false := by
    cases (writable _ (List.mem_of_mem_dropLast mem)).writable with
    | string unquoted => exact oddQuotes_of_not_mem unquoted
  have reread := (members_listText_iff readable paired).mpr fun l mem =>
    (writable l mem).writable.rereads
  obtain ⟨o, written, reads⟩ := exists_operandText_members readable fun s mem =>
    (writable _ mem).unclosed s rfl
  rw [reread] at reads
  exact ⟨o, written, reads⟩

end RecordQuery.Filter
