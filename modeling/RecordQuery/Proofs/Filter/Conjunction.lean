import Mathlib.Data.List.TakeWhile
import RecordQuery.Proofs.Attempt
import RecordQuery.Proofs.Filter.ClauseText

/-!
Clause texts joined by the word `and`. The word is itself a name, so that the scanner may take it
for the column of a clause whose operator is found in the next reference. That happens exactly
when the next reference begins with letters and a digit, or with the word of a null check;
otherwise a joined text reads as the clauses of its parts.
-/

namespace RecordQuery.Filter

open Text

/-- The word between two clauses. -/
inductive Joiner where
  | lower | upper
  deriving DecidableEq, Repr

def Joiner.word : Joiner → String
  | .lower => "and"
  | .upper => "AND"

/-- Clause texts with the word `and` between them, and a blank on each side of it. -/
def conjunction : ClauseText → List (Joiner × ClauseText) → List Char
  | t, [] => t.chars
  | t, (joiner, next) :: others =>
    t.chars ++ ' ' :: (joiner.word.toList ++ ' ' :: conjunction next others)

/-- The name, after another name and a blank, begins like something said of that name: it is the
word of a null check, or its leading letters are followed by a digit. -/
def Identifier.readsAsPredicate (n : Identifier) : Bool :=
  n.chars == Operator.isNull.token.toList || n.chars == Operator.isNotNull.token.toList
    || (n.chars.dropWhile Char.isAlpha).head?.any Char.isDigit

/-! The pieces of a text. -/

theorem piecesAfter_eq (skip : Nat) (cs : List Char) :
    piecesAfter skip cs = pieces (cs.drop skip) := by
  induction skip generalizing cs with
  | zero => rfl
  | succ skip ih =>
    cases cs with
    | nil => rfl
    | cons c cs => exact ih cs

theorem pieces_cons_of_some {c : Char} {cs : List Char} {p : Piece}
    (found : piece? (c :: cs) = some p) :
    pieces (c :: cs) = p :: pieces (cs.drop (p.text.length - 1)) := by
  rw [pieces, piecesAfter, found]
  exact congrArg (p :: ·) (piecesAfter_eq _ _)

theorem pieces_cons_of_none {c : Char} {cs : List Char} (notFound : piece? (c :: cs) = none) :
    pieces (c :: cs) = pieces cs := by
  rw [pieces, piecesAfter, notFound]
  rfl

/-- What is found stands in the text, behind what was passed over. -/
theorem exists_piece?_of_mem {skip : Nat} {cs : List Char} {p : Piece}
    (mem : p ∈ piecesAfter skip cs) : ∃ text, piece? text = some p := by
  induction cs generalizing skip with
  | nil => cases skip <;> cases mem
  | cons c cs ih =>
    cases skip with
    | succ skip => exact ih mem
    | zero =>
      unfold piecesAfter at mem
      split at mem
      next found =>
        rcases List.mem_cons.mp mem with rfl | later
        · exact ⟨_, found⟩
        · exact ih later
      next => exact ih mem

/-- A clause text that is found is one piece, and the scan goes on behind it. -/
theorem pieces_of_piece? (t : ClauseText) {rest : List Char}
    (found : piece? (t.chars ++ rest) = some t.piece) :
    pieces (t.chars ++ rest) = t.piece :: pieces rest := by
  have cons : t.chars = t.leading.first :: (t.leading.rest ++ t.afterLeading) := rfl
  rw [cons, List.cons_append] at found ⊢
  rw [pieces_cons_of_some found]
  have behind :
      (t.leading.rest ++ t.afterLeading ++ rest).drop (t.piece.text.length - 1) = rest := by
    simp [ClauseText.piece, cons]
  rw [behind]

theorem pieces_append (t : ClauseText) {rest : List Char} (apart : StandsApart rest) :
    pieces (t.chars ++ rest) = t.piece :: pieces rest :=
  pieces_of_piece? t (piece?_append t apart)

theorem pieces_clause (t : ClauseText) : pieces t.chars = [t.piece] := by
  have whole : pieces (t.chars ++ []) = t.piece :: pieces [] := pieces_append t rfl
  rw [List.append_nil] at whole
  rw [whole]
  rfl

/-! What the scanner sees behind a joiner. -/

theorem operand?_eq_none {c : Char} (unmarked : c ∉ ['\'', '(', '-'])
    (notDigit : isDecimalDigit c = false) (cs : List Char) : operand? (c :: cs) = none := by
  simp only [List.mem_cons, List.not_mem_nil, or_false, not_or] at unmarked
  simp [operand?, unmarked, digits?, notDigit]

theorem operand?_of_alpha {c : Char} (alpha : c.isAlpha = true) (cs : List Char) :
    operand? (c :: cs) = none := by
  apply operand?_eq_none _ (isDecimalDigit_of_isAlpha alpha)
  intro marked
  simp only [List.mem_cons, List.not_mem_nil, or_false] at marked
  rcases marked with rfl | rfl | rfl <;> contradiction

/-- Behind the leading name of a clause no operand begins, with or without blanks before it. -/
theorem operand?_afterLeading (t : ClauseText) (rest : List Char) :
    operand? ((t.afterLeading ++ rest).dropWhile isBlank) = none := by
  cases table : t.table with
  | none =>
    obtain ⟨c, cs, head, alpha⟩ := predicate_head_alpha t.predicate
    have ends : (t.predicate.chars ++ rest).head?.any isBlank = false := by
      simp [head, isBlank_of_isAlpha alpha]
    simp only [ClauseText.afterLeading, table, List.append_assoc]
    rw [dropWhile_run t.gap_blank ends, head]
    exact operand?_of_alpha alpha _
  | some _ =>
    simp only [ClauseText.afterLeading, table, List.cons_append]
    rw [dropWhile_eq_self rfl]
    exact operand?_eq_none (by decide) (by decide) _

theorem isNameRest_of_isAlpha {c : Char} (alpha : c.isAlpha = true) : isNameRest c = true := by
  simp [isNameRest, Char.isAlphanum, alpha]

theorem isNameRest_of_mem (n : Identifier) : ∀ c ∈ n.chars, isNameRest c = true := by
  intro c mem
  simp only [Identifier.chars, List.mem_cons] at mem
  rcases mem with rfl | mem
  · have start := n.first_start
    simp only [isNameStart, Bool.or_eq_true] at start
    rcases start with alpha | underscore
    · exact isNameRest_of_isAlpha alpha
    · simp [isNameRest, underscore]
  · exact n.rest_name c mem

theorem isWordChar_of_isNameRest {c : Char} (name : isNameRest c = true) :
    isWordChar c = true := by
  have ascii : c.toNat < 0x80 := by
    simp only [isNameRest, Char.isAlphanum, Bool.or_eq_true, beq_iff_eq] at name
    rcases name with (alpha | digit) | rfl
    · have := toNat_of_isAlpha alpha
      omega
    · have := toNat_of_isDigit digit
      omega
    · decide
  rw [isWordChar, if_pos ascii]
  exact name

/-- The leading name of a clause is a whole word of the text. -/
theorem afterLeading_head (t : ClauseText) :
    ∃ c cs, t.afterLeading = c :: cs ∧ isWordChar c = false := by
  cases table : t.table with
  | none =>
    obtain ⟨b, bs, gap, blank, -⟩ := t.gap_cons
    exact ⟨b, bs ++ t.predicate.chars, by simp [ClauseText.afterLeading, table, gap],
      isWordChar_of_isBlank blank⟩
  | some _ => exact ⟨'.', _, by simp only [ClauseText.afterLeading, table]; rfl, by decide⟩

/-- A word of letters stands at the start of a clause text exactly if it is its leading name. -/
theorem afterWord?_clause (t : ClauseText) (rest : List Char) {word : List Char}
    (alphas : ∀ c ∈ word, c.isAlpha = true) :
    (afterWord? word (t.chars ++ rest)).isSome = (t.leading.chars == word) := by
  obtain ⟨c, cs, head, notWord⟩ := afterLeading_head t
  simp only [ClauseText.chars, List.append_assoc, head, List.cons_append]
  by_cases same : t.leading.chars = word
  · simp [afterWord?, same, atWordEnd, notWord]
  · rw [beq_eq_false_iff_ne.mpr same]
    simp only [afterWord?]
    split
    next both =>
      exfalso
      simp only [Bool.and_eq_true, List.isPrefixOf_iff_prefix] at both
      obtain ⟨⟨behind, split⟩, ends⟩ := both
      rw [← split, List.drop_left] at ends
      rcases List.append_eq_append_iff.mp split with ⟨more, name, behindEq⟩ | ⟨more, wordEq, headEq⟩
      · -- The word is a proper part of the name, so it ends before another character of it.
        cases more with
        | nil => exact same (by simpa using name)
        | cons m ms =>
          have inName : m ∈ t.leading.chars := by
            simp [name]
          have := isWordChar_of_isNameRest (isNameRest_of_mem t.leading m inName)
          simp [behindEq, atWordEnd, this] at ends
      · -- The word is longer than the name, so it has the character behind the name.
        cases more with
        | nil => exact same (by simpa using wordEq.symm)
        | cons m ms =>
          have inWord : m ∈ word := by
            simp [wordEq]
          have same : c = m := (List.cons.inj headEq).1
          have := isWordChar_of_isNameRest (isNameRest_of_isAlpha (alphas m inWord))
          simp [same, this] at notWord
    next => rfl

theorem operand?_isSome_of_digit {d : Char} (digit : d.isDigit = true) (cs : List Char) :
    (operand? (d :: cs)).isSome = true := by
  have decimal := isDecimalDigit_of_isDigit digit
  rw [operand?_of_digit decimal, Option.isSome_map, digits?]
  simp only [List.takeWhile_cons_of_pos decimal, List.isEmpty_cons, Bool.false_eq_true, if_false]
  split
  · split <;> rfl
  · rfl

/-- A comparison is seen at a clause text exactly if a digit follows the letters of its leading
name. -/
theorem comparison?_clause (t : ClauseText) (rest : List Char) :
    (comparison? (t.chars ++ rest)).isSome =
      (t.leading.chars.dropWhile Char.isAlpha).head?.any Char.isDigit := by
  obtain ⟨c, cs, head, notWord⟩ := afterLeading_head t
  have notAlpha : c.isAlpha = false := by
    rw [Bool.eq_false_iff]
    intro alpha
    simp [isWordChar_of_isNameRest (isNameRest_of_isAlpha alpha)] at notWord
  have letters : ∀ c ∈ t.leading.chars.takeWhile Char.isAlpha, c.isAlpha = true :=
    fun c mem => List.mem_takeWhile_imp mem
  have name := List.takeWhile_append_dropWhile (p := Char.isAlpha) (l := t.leading.chars)
  have split : t.chars ++ rest = t.leading.chars.takeWhile Char.isAlpha ++
      (t.leading.chars.dropWhile Char.isAlpha ++ (t.afterLeading ++ rest)) := by
    rw [← List.append_assoc, name, ClauseText.chars, List.append_assoc]
  cases behind : t.leading.chars.dropWhile Char.isAlpha with
  | nil =>
    rw [behind, List.nil_append] at split
    have ends : (t.afterLeading ++ rest).head?.any Char.isAlpha = false := by
      simp [head, notAlpha]
    rw [split, comparison?, takeWhile_run letters ends, dropWhile_run letters ends,
      operand?_afterLeading]
    simp
  | cons d ds =>
    have inName : d ∈ t.leading.chars := by
      rw [← name, behind]
      simp
    have nameChar := isNameRest_of_mem t.leading d inName
    have stops : d.isAlpha = false := by
      have := List.head?_dropWhile_not Char.isAlpha t.leading.chars
      simpa [behind] using this
    have notBlank : isBlank d = false := by
      rw [Bool.eq_false_iff]
      intro blank
      simp [isNameRest_of_isBlank blank] at nameChar
    have ends : (d :: ds ++ (t.afterLeading ++ rest)).head?.any Char.isAlpha = false := by
      simp [stops]
    rw [behind] at split
    rw [split, comparison?, takeWhile_run letters ends, dropWhile_run letters ends,
      dropWhile_eq_self (by simp [notBlank])]
    simp only [List.cons_append, List.head?_cons, Option.any_some]
    cases digit : d.isDigit with
    | true =>
      have someLetters : (t.leading.chars.takeWhile Char.isAlpha).isEmpty = false := by
        rw [Bool.eq_false_iff]
        intro empty
        rw [List.isEmpty_iff.mp empty, behind] at name
        have first : d = t.leading.first := (List.cons.inj name).1
        have start := t.leading.first_start
        rw [← first] at start
        simp only [isNameStart, stops, Bool.false_or, beq_iff_eq] at start
        subst start
        contradiction
      simp [someLetters, operand?_isSome_of_digit digit]
    | false =>
      have underscore : d = '_' := by
        simpa [isNameRest, Char.isAlphanum, stops, digit] using nameChar
      subst underscore
      simp [operand?_eq_none (c := '_') (by decide) (by decide)]

/-- A clause text reads as something said of the name before it exactly if its leading name
does. -/
theorem predicate?_clause (t : ClauseText) (rest : List Char) :
    (predicate? (t.chars ++ rest)).isSome = t.leading.readsAsPredicate := by
  have isNull := afterWord?_clause t rest (token_alpha .isNull)
  have isNotNull := afterWord?_clause t rest (token_alpha .isNotNull)
  have comparison := comparison?_clause t rest
  rw [Identifier.readsAsPredicate, ← isNull, ← isNotNull, ← comparison]
  simp only [predicate?, nullCheck?]
  cases afterWord? Operator.isNull.token.toList (t.chars ++ rest) with
  | some _ => rfl
  | none =>
    cases afterWord? Operator.isNotNull.token.toList (t.chars ++ rest) with
    | some _ => rfl
    | none => rfl

theorem isBlank_of_clause_head (t : ClauseText) (rest : List Char) :
    (t.chars ++ rest).head?.any isBlank = false := by
  simp [ClauseText.chars, Identifier.chars, isBlank_of_isNameStart t.leading.first_start]

/-- A word of letters, taken for a column, is a clause with what follows it. -/
theorem piece?_word {c : Char} {cs text : List Char} (alphas : ∀ d ∈ c :: cs, d.isAlpha = true)
    (begins : text.head?.any isBlank = false) :
    (piece? (c :: cs ++ ' ' :: text)).map (fun p => (p.target, p.predicate)) =
      (predicate? text).map fun read => (⟨none, String.ofList (c :: cs)⟩, read.1) := by
  have start : isNameStart c = true := by
    simp [isNameStart, alphas c (by simp)]
  have rest : ∀ d ∈ cs, isNameRest d = true :=
    fun d mem => isNameRest_of_isAlpha (alphas d (by simp [mem]))
  have stops : (' ' :: text).head?.any isNameRest = false := rfl
  have read := name?_append ⟨c, cs, start, rest⟩ stops
  have reference : reference? (c :: cs ++ ' ' :: text) =
      some (⟨none, String.ofList (c :: cs)⟩, ' ' :: text) := by
    simp only [Identifier.chars] at read
    simp only [reference?, read, Option.map_some]
    rfl
  have blanks : afterBlanks? (' ' :: text) = some text := by
    rw [afterBlanks?, dropWhile_eq_self begins]
    rfl
  simp only [piece?, reference, blanks, bind, Option.bind]
  cases predicate? text with
  | none => rfl
  | some read => rfl

/-- A name is taken from what stands before a blank. -/
theorem rest_of_name? {cs text name rest : List Char}
    (found : name? (cs ++ ' ' :: text) = some (name, rest)) :
    ∃ behind, rest = behind ++ ' ' :: text ∧ behind <:+ cs := by
  cases cs with
  | nil => cases found
  | cons c cs =>
    obtain ⟨-, same⟩ := Option.ite_none_right_eq_some.mp found
    obtain ⟨-, rfl⟩ := Prod.mk.inj (Option.some.inj same)
    have stops : (' ' :: text).dropWhile isNameRest = ' ' :: text := dropWhile_eq_self rfl
    have behind : (cs ++ ' ' :: text).dropWhile isNameRest =
        cs.dropWhile isNameRest ++ ' ' :: text := by
      rw [List.dropWhile_append, stops]
      split
      next none => rw [List.isEmpty_iff.mp none, List.nil_append]
      next => rfl
    exact ⟨_, behind, (List.dropWhile_suffix _).trans (List.suffix_cons c cs)⟩

/-- A reference is taken from what stands before a blank. -/
theorem rest_of_reference? {cs text rest : List Char} {target : Reference}
    (found : reference? (cs ++ ' ' :: text) = some (target, rest)) :
    ∃ behind, rest = behind ++ ' ' :: text ∧ behind <:+ cs := by
  obtain ⟨⟨first, after⟩, name, made⟩ := Option.map_eq_some_iff.mp found
  obtain ⟨behind, rfl, within⟩ := rest_of_name? name
  dsimp only at made
  split at made
  next second rest dotted =>
    cases made
    cases behind with
    | nil => cases dotted
    | cons c behind =>
      unfold dottedName? at dotted
      split at dotted
      next same =>
        obtain ⟨rfl, rfl⟩ := List.cons.inj same
        obtain ⟨later, rfl, inner⟩ := rest_of_name? dotted
        exact ⟨later, rfl, inner.trans ((List.suffix_cons _ _).trans within)⟩
      next => cases dotted
  next =>
    cases made
    exact ⟨behind, rfl, within⟩

/-- Before a blank behind which nothing is said of it no reference makes a clause. -/
theorem piece?_eq_none {cs text : List Char} (tight : ∀ c ∈ cs, isBlank c = false)
    (begins : text.head?.any isBlank = false) (silent : predicate? text = none) :
    piece? (cs ++ ' ' :: text) = none := by
  cases reference : reference? (cs ++ ' ' :: text) with
  | none => simp only [piece?, reference, bind, Option.bind]
  | some parts =>
    obtain ⟨target, rest⟩ := parts
    obtain ⟨behind, rfl, within⟩ := rest_of_reference? reference
    cases behind with
    | nil =>
      have blanks : afterBlanks? (' ' :: text) = some text := by
        rw [afterBlanks?, dropWhile_eq_self begins]
        rfl
      rw [List.nil_append] at reference
      simp only [piece?, reference, blanks, silent, bind, Option.bind]
    | cons c behind =>
      have notBlank := tight c (within.subset List.mem_cons_self)
      have blanks : afterBlanks? (c :: behind ++ ' ' :: text) = none := by
        simp [afterBlanks?, notBlank]
      simp only [piece?, reference, blanks, bind, Option.bind]

/-- The scan passes over a word behind which nothing is said of it. -/
theorem pieces_skip_word {word text : List Char} (tight : ∀ c ∈ word, isBlank c = false)
    (begins : text.head?.any isBlank = false) (silent : predicate? text = none) :
    pieces (word ++ ' ' :: text) = pieces text := by
  induction word with
  | nil => exact pieces_cons_of_none rfl
  | cons c cs ih =>
    have unread := piece?_eq_none tight begins silent
    rw [List.cons_append] at unread ⊢
    rw [pieces_cons_of_none unread]
    exact ih fun d mem => tight d (by simp [mem])

theorem joiner_alpha (joiner : Joiner) : ∀ c ∈ joiner.word.toList, c.isAlpha = true := by
  cases joiner <;> exact List.all_eq_true.mp rfl

/-- Behind a joiner the scan finds the next clause, unless that reads as something said of the
joiner. Then the joiner becomes a column. -/
theorem pieces_joiner (joiner : Joiner) (t : ClauseText) (rest : List Char) :
    (t.leading.readsAsPredicate = false →
      pieces (' ' :: (joiner.word.toList ++ ' ' :: (t.chars ++ rest))) = pieces (t.chars ++ rest)) ∧
    (t.leading.readsAsPredicate = true →
      ∃ p ps, pieces (' ' :: (joiner.word.toList ++ ' ' :: (t.chars ++ rest))) = p :: ps ∧
        p.target = ⟨none, joiner.word⟩) := by
  have begins := isBlank_of_clause_head t rest
  have seen := predicate?_clause t rest
  rw [pieces_cons_of_none rfl]
  constructor
  · intro silent
    rw [silent, Option.isSome_eq_false_iff, Option.isNone_iff_eq_none] at seen
    exact pieces_skip_word (fun c mem => isBlank_of_isAlpha (joiner_alpha joiner c mem)) begins seen
  · intro speaks
    rw [speaks, Option.isSome_iff_exists] at seen
    obtain ⟨read, seen⟩ := seen
    obtain ⟨c, cs, word⟩ : ∃ c cs, joiner.word.toList = c :: cs := by
      cases joiner <;> exact ⟨_, _, rfl⟩
    have alphas := joiner_alpha joiner
    rw [word] at alphas ⊢
    have found := piece?_word alphas begins
    rw [seen, Option.map_some, Option.map_eq_some_iff] at found
    obtain ⟨p, found, parts⟩ := found
    rw [List.cons_append] at found ⊢
    refine ⟨p, _, pieces_cons_of_some found, ?_⟩
    have target := congrArg Prod.fst parts
    rw [← word, String.ofList_toList] at target
    exact target

/-! Reading a joined text as a whole. -/

/-- The last character of a text is not blank. -/
def EndsTight (cs : List Char) : Prop :=
  ∃ front last, cs = front ++ [last] ∧ isBlank last = false

theorem EndsTight.append {cs : List Char} (ends : EndsTight cs) (front : List Char) :
    EndsTight (front ++ cs) := by
  obtain ⟨init, last, rfl, notBlank⟩ := ends
  exact ⟨front ++ init, last, by simp, notBlank⟩

theorem endsTight_of_ne_nil {cs : List Char} (ne : cs ≠ [])
    (notBlank : ∀ c ∈ cs, isBlank c = false) : EndsTight cs :=
  ⟨cs.dropLast, cs.getLast ne, (List.dropLast_append_getLast ne).symm,
    notBlank _ (List.getLast_mem ne)⟩

theorem Numeral.endsTight (n : Numeral) : EndsTight n.chars := by
  have digits : EndsTight n.digits := by
    by_cases fraction : n.fraction = []
    · simp only [Numeral.digits, fraction, if_true, List.append_nil]
      exact endsTight_of_ne_nil n.whole_ne_nil
        fun c mem => isBlank_of_isDecimalDigit (n.whole_digit c mem)
    · have tight := endsTight_of_ne_nil fraction
        fun c mem => isBlank_of_isDecimalDigit (n.fraction_digit c mem)
      simp only [Numeral.digits, fraction, if_false]
      exact (tight.append ['.']).append n.whole
  cases sign : n.negative with
  | false => simpa [Numeral.chars, sign] using digits
  | true => simpa [Numeral.chars, sign] using digits.append ['-']

theorem PredicateText.endsTight (p : PredicateText) : EndsTight p.chars := by
  cases p with
  | nullCheck op _ =>
    obtain ⟨c, cs, token, -⟩ := token_head_alpha op
    exact endsTight_of_ne_nil (by simp [PredicateText.chars, token])
      fun c mem => isBlank_of_isAlpha (token_alpha op c mem)
  | comparison op _ gap _ operand =>
    have tight : EndsTight operand.chars := by
      cases operand with
      | quoted body _ => exact ⟨'\'' :: body, '\'', rfl, by decide⟩
      | list body _ => exact ⟨'(' :: body, ')', rfl, by decide⟩
      | number n => exact n.endsTight
    exact (tight.append gap).append op.token.toList

theorem ClauseText.endsTight (t : ClauseText) : EndsTight t.chars := by
  have tight := t.predicate.endsTight.append t.gap
  refine EndsTight.append ?_ _
  cases table : t.table with
  | none => simpa [ClauseText.afterLeading, table] using tight
  | some _ => simpa [ClauseText.afterLeading, table] using tight.append ('.' :: t.column.chars)

/-- A joined text begins with its first clause. -/
theorem conjunction_eq (t : ClauseText) (others : List (Joiner × ClauseText)) :
    ∃ rest, conjunction t others = t.chars ++ rest ∧ StandsApart rest := by
  cases others with
  | nil => exact ⟨[], by simp [conjunction], rfl⟩
  | cons other others => exact ⟨_, rfl, by simp [StandsApart]; decide⟩

theorem conjunction_endsTight (t : ClauseText) (others : List (Joiner × ClauseText)) :
    EndsTight (conjunction t others) := by
  induction others generalizing t with
  | nil => exact t.endsTight
  | cons other others ih =>
    have tight := (ih other.2).append (' ' :: (other.1.word.toList ++ [' ']))
    simpa [conjunction] using tight.append t.chars

theorem trimChars_of_endsTight {cs : List Char} (begins : cs.head?.any isBlank = false)
    (ends : EndsTight cs) : trimChars cs = cs := by
  apply trimChars_eq_self begins
  obtain ⟨front, last, split, notBlank⟩ := ends
  simp [split, notBlank]

/-- A text that begins with a clause and ends tight reads piece by piece. -/
theorem read_of_clause (t : ClauseText) {rest : List Char}
    (found : piece? (t.chars ++ rest) = some t.piece) (ends : EndsTight (t.chars ++ rest)) :
    read (String.ofList (t.chars ++ rest)) = (t.piece :: pieces rest).mapM Piece.condition := by
  have notEmpty : (t.chars ++ rest).isEmpty = false := by
    simp [ClauseText.chars, Identifier.chars]
  simp only [read, String.toList_ofList,
    trimChars_of_endsTight (isBlank_of_clause_head t rest) ends, notEmpty, Bool.false_eq_true,
    if_false, pieces_of_piece? t found]

theorem read_text (t : ClauseText) : read t.text = t.piece.condition.map fun c => [c] := by
  have apart : StandsApart [] := rfl
  have whole := read_of_clause t (piece?_append t apart) (by simpa using t.endsTight)
  rw [List.append_nil] at whole
  have nothing : pieces [] = [] := rfl
  rw [ClauseText.text, whole, nothing]
  simp only [List.mapM_cons, List.mapM_nil]
  cases t.piece.condition with
  | error e => rfl
  | ok c => rfl

/-! The exact condition. -/

theorem condition_target {p : Piece} {c : Condition} (states : p.condition = .ok c) :
    c.target = p.target := by
  unfold Piece.condition at states
  split at states
  · cases states
    rfl
  · split at states
    · cases states
    · split at states
      · cases states
      · obtain ⟨operand, -, rfl⟩ := map_eq_ok.mp states
        rfl

/-- Every condition of a filter that is accepted is stated by a piece of it. -/
theorem exists_piece?_of_read {s : String} {conditions : List Condition}
    (accepted : read s = .ok conditions) {c : Condition} (mem : c ∈ conditions) :
    ∃ text p, piece? text = some p ∧ p.condition = .ok c := by
  unfold read at accepted
  dsimp only at accepted
  split at accepted
  · cases accepted
    cases mem
  · split at accepted
    · cases accepted
    · obtain ⟨p, among, states⟩ := exists_of_mem_mapM accepted mem
      obtain ⟨text, found⟩ := exists_piece?_of_mem among
      exact ⟨text, p, found, states⟩

/-- No joiner is itself a name that reads as something said of another one. -/
theorem readsAsPredicate_of_joiner {n : Identifier} {joiner : Joiner}
    (same : String.ofList n.chars = joiner.word) : n.readsAsPredicate = false := by
  have chars : n.chars = joiner.word.toList := by
    rw [← same, String.toList_ofList]
  rw [Identifier.readsAsPredicate, chars]
  cases joiner <;> decide

/-- The first clause behind a joiner is lost if its text reads as something said of the
joiner: the clause found in its place is about the joiner. -/
theorem condition_ne_of_speaks {t : ClauseText} {p : Piece} {joiner : Joiner} {c : Condition}
    (speaks : t.leading.readsAsPredicate = true) (target : p.target = ⟨none, joiner.word⟩)
    (alone : t.piece.condition = .ok c) : p.condition ≠ .ok c := by
  intro states
  have same : t.target = ⟨none, joiner.word⟩ :=
    (condition_target alone).symm.trans ((condition_target states).trans target)
  have silent : t.leading.readsAsPredicate = false := by
    cases table : t.table with
    | none =>
      simp only [ClauseText.target, Reference.mk.injEq] at same
      simpa [ClauseText.leading, table] using readsAsPredicate_of_joiner same.2
    | some _ => simp [ClauseText.target, table] at same
  rw [silent] at speaks
  contradiction

theorem mapM_condition_conjunction {t : ClauseText} {others : List (Joiner × ClauseText)}
    {clauses : List Condition}
    (alone : List.Forall₂ (fun t c => t.piece.condition = .ok c) (t :: others.map Prod.snd)
      clauses) :
    (pieces (conjunction t others)).mapM Piece.condition = .ok clauses ↔
      ∀ other ∈ others, other.2.leading.readsAsPredicate = false := by
  induction others generalizing t clauses with
  | nil =>
    obtain ⟨c, rest, first, nothing, rfl⟩ := List.forall₂_cons_left_iff.mp alone
    simp only [List.map_nil, List.forall₂_nil_left_iff] at nothing
    subst nothing
    simp [conjunction, pieces_clause, first]
  | cons other others ih =>
    obtain ⟨joiner, u⟩ := other
    obtain ⟨c, rest, first, remaining, rfl⟩ := List.forall₂_cons_left_iff.mp alone
    obtain ⟨behind, next, -⟩ := conjunction_eq u others
    have step : pieces (conjunction t ((joiner, u) :: others)) =
        t.piece :: pieces (' ' :: (joiner.word.toList ++ ' ' :: conjunction u others)) :=
      pieces_append t (by simp [StandsApart]; decide)
    obtain ⟨silent, speaks⟩ := pieces_joiner joiner u behind
    rw [← next] at silent speaks
    rw [step, mapM_cons_eq_ok]
    cases reads : u.leading.readsAsPredicate with
    | false =>
      rw [silent reads]
      simp [first, reads, ih remaining]
    | true =>
      obtain ⟨p, ps, found, target⟩ := speaks reads
      obtain ⟨c', rest', second, -, rfl⟩ := List.forall₂_cons_left_iff.mp remaining
      rw [found]
      simp only [mapM_cons_eq_ok]
      constructor
      · rintro ⟨_, _, -, ⟨_, _, states, -, rfl⟩, same⟩
        cases same
        exact absurd states (condition_ne_of_speaks reads target second)
      · intro all
        have := all (joiner, u) (by simp)
        simp [reads] at this

/-- Clause texts that each read as one clause, joined by the word `and`, read as these clauses in
their order exactly if none of them, apart from the first, begins with a name that reads as
something said of the joiner. -/
theorem read_conjunction_iff (first : ClauseText) (others : List (Joiner × ClauseText))
    (clauses : List Condition)
    (alone : List.Forall₂ (fun t c => read t.text = .ok [c]) (first :: others.map Prod.snd)
      clauses) :
    read (String.ofList (conjunction first others)) = .ok clauses ↔
      ∀ other ∈ others, other.2.leading.readsAsPredicate = false := by
  obtain ⟨rest, split, apart⟩ := conjunction_eq first others
  have ends := conjunction_endsTight first others
  rw [split] at ends
  rw [split, read_of_clause first (piece?_append first apart) ends, ← pieces_append first apart,
    ← split]
  apply mapM_condition_conjunction
  refine alone.imp fun t c reads => ?_
  rw [read_text, map_eq_ok] at reads
  obtain ⟨c', states, same⟩ := reads
  cases same
  exact states

/-- The text `a eq 1`. -/
def plainSample : ClauseText where
  table := none
  column := ⟨'a', [], rfl, nofun⟩
  gap := [' ']
  gap_ne_nil := by decide
  gap_blank := List.all_eq_true.mp rfl
  predicate := .comparison .eq rfl [' '] (List.all_eq_true.mp rfl)
    (.number ⟨false, ['1'], [], by decide, List.all_eq_true.mp rfl, nofun⟩)

/-- The text `t_2.c2 isNull`. -/
def nullSample : ClauseText where
  table := some ⟨'t', ['_', '2'], rfl, List.all_eq_true.mp rfl⟩
  column := ⟨'c', ['2'], rfl, List.all_eq_true.mp rfl⟩
  gap := [' ']
  gap_ne_nil := by decide
  gap_blank := List.all_eq_true.mp rfl
  predicate := .nullCheck .isNull rfl

/-- The text `b2 in('x and y')`. -/
def digitSample : ClauseText where
  table := none
  column := ⟨'b', ['2'], rfl, List.all_eq_true.mp rfl⟩
  gap := [' ']
  gap_ne_nil := by decide
  gap_blank := List.all_eq_true.mp rfl
  predicate := .comparison .isIn rfl [] nofun
    (.list ['\'', 'x', ' ', 'a', 'n', 'd', ' ', 'y', '\''] (by decide))

def plainCondition : Condition := ⟨⟨none, "a"⟩, .eq, some (.single (.int 1))⟩

def nullCondition : Condition := ⟨⟨some "t_2", "c2"⟩, .isNull, none⟩

def digitCondition : Condition := ⟨⟨none, "b2"⟩, .isIn, some (.list [.string "x and y"])⟩

/-- A digit in the first name counts, one in a later name does not. -/
theorem read_conjunction_sample :
    read "b2 in('x and y') and t_2.c2 isNull AND a eq 1" =
      .ok [digitCondition, nullCondition, plainCondition] := by
  have alone : List.Forall₂ (fun t c => read t.text = .ok [c])
      [digitSample, nullSample, plainSample] [digitCondition, nullCondition, plainCondition] :=
    .cons rfl (.cons rfl (.cons rfl .nil))
  exact (read_conjunction_iff digitSample [(.lower, nullSample), (.upper, plainSample)] _ alone).mpr
    (by decide)

/-- Two clauses that read alone, and whose conjunction does not read. The `b` of the second one's
column becomes the operator of a clause about `and`. -/
theorem read_conjunction_takes_joiner :
    read plainSample.text = .ok [plainCondition] ∧ read digitSample.text = .ok [digitCondition] ∧
      String.ofList (conjunction plainSample [(.lower, digitSample)]) =
        "a eq 1 and b2 in('x and y')" ∧
      read "a eq 1 and b2 in('x and y')" = .error (.unknownOperator "b") :=
  ⟨rfl, rfl, rfl, rfl⟩

end RecordQuery.Filter
