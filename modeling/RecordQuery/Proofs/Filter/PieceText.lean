import Mathlib.Data.List.TakeWhile
import RecordQuery.Proofs.Filter.ClauseText

/-!
What the scanner has found as a text. Every reader leaves a rest of its text, and what it has read
stands in front of that rest in the form the grammar gives it. So a piece that states a condition is
the piece of a clause text, with which the text before it begins.
-/

namespace RecordQuery.Filter

open Text

/-! What a reader finds stands in the text in front of what it leaves. -/

theorem chars_of_name? {cs name rest : List Char} (found : name? cs = some (name, rest)) :
    ∃ n : Identifier, name = n.chars ∧ cs = n.chars ++ rest := by
  cases cs with
  | nil => cases found
  | cons c cs =>
    obtain ⟨start, same⟩ := Option.ite_none_right_eq_some.mp found
    cases same
    refine ⟨⟨c, cs.takeWhile isNameRest, start, fun _ mem => List.mem_takeWhile_imp mem⟩, rfl, ?_⟩
    simp [Identifier.chars]

theorem chars_of_dottedName? {cs name rest : List Char}
    (found : dottedName? cs = some (name, rest)) :
    ∃ n : Identifier, name = n.chars ∧ cs = '.' :: (n.chars ++ rest) := by
  unfold dottedName? at found
  split at found
  next =>
    obtain ⟨n, name, rfl⟩ := chars_of_name? found
    exact ⟨n, name, rfl⟩
  next => cases found

/-- The characters of a reference. -/
def referenceChars : Option Identifier → Identifier → List Char
  | none, column => column.chars
  | some table, column => table.chars ++ '.' :: column.chars

theorem chars_of_reference? {cs rest : List Char} {target : Reference}
    (found : reference? cs = some (target, rest)) : ∃ (table : Option Identifier) (column : Identifier),
      target = ⟨table.map fun n => String.ofList n.chars, String.ofList column.chars⟩ ∧
      cs = referenceChars table column ++ rest := by
  obtain ⟨⟨first, after⟩, firstFound, made⟩ := Option.map_eq_some_iff.mp found
  obtain ⟨n, rfl, rfl⟩ := chars_of_name? firstFound
  dsimp only at made
  split at made
  next second rest secondFound =>
    cases made
    obtain ⟨m, rfl, rfl⟩ := chars_of_dottedName? secondFound
    exact ⟨some n, m, rfl, by simp [referenceChars]⟩
  next =>
    cases made
    exact ⟨none, n, rfl, rfl⟩

theorem chars_of_afterBlanks? {cs rest : List Char} (found : afterBlanks? cs = some rest) :
    ∃ gap : List Char, gap ≠ [] ∧ (∀ c ∈ gap, isBlank c = true) ∧ cs = gap ++ rest := by
  cases cs with
  | nil => cases found
  | cons c cs =>
    obtain ⟨blank, same⟩ := Option.ite_none_right_eq_some.mp found
    cases same
    refine ⟨c :: cs.takeWhile isBlank, List.cons_ne_nil _ _, ?_, by simp⟩
    rw [List.forall_mem_cons]
    exact ⟨blank, fun _ mem => List.mem_takeWhile_imp mem⟩

theorem chars_of_upTo? {closing : Char} {cs body rest : List Char}
    (found : upTo? closing cs = some (body, rest)) : cs = body ++ closing :: rest := by
  have split := List.takeWhile_append_dropWhile (p := (· != closing)) (l := cs)
  unfold upTo? at found
  split at found
  next => cases found
  next c rest behind =>
    cases found
    have closes := List.head?_dropWhile_not (· != closing) cs
    rw [behind] at closes split
    obtain rfl : c = closing := by simpa using closes
    exact split.symm

theorem not_mem_of_upTo? {closing : Char} {cs body rest : List Char}
    (found : upTo? closing cs = some (body, rest)) : closing ∉ body := by
  unfold upTo? at found
  split at found
  · cases found
  · cases found
    intro mem
    have differs := List.mem_takeWhile_imp mem
    simp at differs

theorem chars_of_digits? (negative : Bool) {cs digits rest : List Char}
    (found : digits? cs = some (digits, rest)) :
    ∃ n : Numeral, n.negative = negative ∧ digits = n.digits ∧ cs = n.digits ++ rest := by
  have split := List.takeWhile_append_dropWhile (p := isDecimalDigit) (l := cs)
  have whole : ∀ c ∈ cs.takeWhile isDecimalDigit, isDecimalDigit c = true :=
    fun _ mem => List.mem_takeWhile_imp mem
  unfold digits? at found
  dsimp only at found
  rw [Option.ite_none_left_eq_some, List.isEmpty_iff] at found
  obtain ⟨nonempty, found⟩ := found
  have plain (same : some (cs.takeWhile isDecimalDigit, cs.dropWhile isDecimalDigit) =
      some (digits, rest)) :
      ∃ n : Numeral, n.negative = negative ∧ digits = n.digits ∧ cs = n.digits ++ rest := by
    cases same
    refine ⟨⟨negative, cs.takeWhile isDecimalDigit, [], nonempty, whole,
      List.forall_mem_nil _⟩, rfl, ?_, ?_⟩
    · simp [Numeral.digits]
    · simp [Numeral.digits]
  split at found
  next after behind =>
    split at found
    next => exact plain (behind ▸ found)
    next someFraction =>
      cases found
      rw [List.isEmpty_iff] at someFraction
      refine ⟨⟨negative, cs.takeWhile isDecimalDigit, after.takeWhile isDecimalDigit, nonempty,
        whole, fun _ mem => List.mem_takeWhile_imp mem⟩, rfl, ?_, ?_⟩
      · simp [Numeral.digits, someFraction]
      · have text : cs = cs.takeWhile isDecimalDigit ++ '.' :: after := by rw [← behind, split]
        refine text.trans ?_
        simp [Numeral.digits, someFraction]
  next => exact plain found

theorem chars_of_operand? {cs rest : List Char} {raw : RawOperand}
    (found : operand? cs = some (raw, rest)) :
    ∃ o : OperandText, raw = o.raw ∧ cs = o.chars ++ rest := by
  unfold operand? at found
  split at found
  next =>
    obtain ⟨⟨body, rest⟩, closes, made⟩ := Option.map_eq_some_iff.mp found
    cases made
    rw [chars_of_upTo? closes]
    exact ⟨.quoted body (not_mem_of_upTo? closes), rfl, by simp [OperandText.chars]⟩
  next =>
    obtain ⟨⟨body, rest⟩, closes, made⟩ := Option.map_eq_some_iff.mp found
    cases made
    rw [chars_of_upTo? closes]
    exact ⟨.list body (not_mem_of_upTo? closes), rfl, by simp [OperandText.chars]⟩
  next =>
    obtain ⟨⟨digits, rest⟩, read, made⟩ := Option.map_eq_some_iff.mp found
    cases made
    obtain ⟨n, sign, rfl, rfl⟩ := chars_of_digits? true read
    exact ⟨.number n, by simp [OperandText.raw, Numeral.chars, sign],
      by simp [OperandText.chars, Numeral.chars, sign]⟩
  next =>
    obtain ⟨⟨digits, rest⟩, read, made⟩ := Option.map_eq_some_iff.mp found
    cases made
    obtain ⟨n, sign, rfl, rfl⟩ := chars_of_digits? false read
    exact ⟨.number n, by simp [OperandText.raw, Numeral.chars, sign],
      by simp [OperandText.chars, Numeral.chars, sign]⟩

theorem chars_of_afterWord? {word cs rest : List Char} (found : afterWord? word cs = some rest) :
    cs = word ++ rest := by
  obtain ⟨both, same⟩ := Option.ite_none_right_eq_some.mp found
  cases same
  rw [Bool.and_eq_true, List.isPrefixOf_iff_prefix] at both
  exact (List.prefix_iff_eq_append.mp both.1).symm

theorem chars_of_nullCheck? {cs rest : List Char} {op : Operator}
    (found : nullCheck? cs = some (op, rest)) :
    op.isNullCheck = true ∧ cs = op.token.toList ++ rest := by
  unfold nullCheck? at found
  split at found
  next word =>
    cases found
    exact ⟨rfl, chars_of_afterWord? word⟩
  next =>
    obtain ⟨rest, word, made⟩ := Option.map_eq_some_iff.mp found
    cases made
    exact ⟨rfl, chars_of_afterWord? word⟩

theorem chars_of_comparison? {cs rest : List Char} {predicate : Predicate}
    (found : comparison? cs = some (predicate, rest)) :
    ∃ (word gap : List Char) (o : OperandText), predicate = .comparison word o.raw ∧
      (∀ c ∈ gap, isBlank c = true) ∧ cs = word ++ (gap ++ (o.chars ++ rest)) := by
  unfold comparison? at found
  rw [Option.ite_none_left_eq_some] at found
  obtain ⟨⟨raw, rest⟩, operand, made⟩ := Option.map_eq_some_iff.mp found.2
  cases made
  obtain ⟨o, rfl, behind⟩ := chars_of_operand? operand
  refine ⟨cs.takeWhile Char.isAlpha, (cs.dropWhile Char.isAlpha).takeWhile isBlank, o, rfl,
    fun _ mem => List.mem_takeWhile_imp mem, ?_⟩
  rw [← behind, List.takeWhile_append_dropWhile, List.takeWhile_append_dropWhile]

theorem token_of_ofToken? {word : String} {op : Operator}
    (known : Operator.ofToken? word = some op) : op.token = word := by
  have tested := List.find?_some known
  simpa using tested

/-- What states a condition is what a clause text says of its column. -/
theorem chars_of_predicate? {cs rest text : List Char} {target : Reference} {predicate : Predicate}
    {c : Condition} (found : predicate? cs = some (predicate, rest))
    (states : (Piece.mk target predicate text).condition = .ok c) :
    ∃ p : PredicateText, predicate = p.predicate ∧ cs = p.chars ++ rest := by
  unfold predicate? at found
  split at found
  next op rest null =>
    cases found
    obtain ⟨checks, rfl⟩ := chars_of_nullCheck? null
    exact ⟨.nullCheck op checks, rfl, rfl⟩
  next =>
    obtain ⟨word, gap, o, rfl, blank, rfl⟩ := chars_of_comparison? found
    unfold Piece.condition at states
    dsimp only at states
    split at states
    next => cases states
    next op known =>
      split at states
      next => cases states
      next comparing =>
        have token := congrArg String.toList (token_of_ofToken? known)
        rw [String.toList_ofList] at token
        refine ⟨.comparison op (Bool.eq_false_iff.mpr comparing) gap blank o, ?_, ?_⟩
        · simp [PredicateText.predicate, token]
        · simp [PredicateText.chars, token]

/-- A piece that states a condition is that of a clause text, with which the text begins. -/
theorem clauseText_of_piece? {cs : List Char} {p : Piece} {c : Condition}
    (found : piece? cs = some p) (states : p.condition = .ok c) :
    ∃ (t : ClauseText) (rest : List Char), p = t.piece ∧ cs = t.chars ++ rest := by
  simp only [piece?, Option.bind_eq_bind, Option.bind_eq_some_iff] at found
  obtain ⟨⟨target, after⟩, reference, said, blanks, ⟨predicate, rest⟩, predicated, made⟩ := found
  cases made
  obtain ⟨table, column, rfl, rfl⟩ := chars_of_reference? reference
  obtain ⟨gap, someGap, blank, rfl⟩ := chars_of_afterBlanks? blanks
  obtain ⟨statement, rfl, rfl⟩ := chars_of_predicate? predicated states
  let t : ClauseText := ⟨table, column, gap, someGap, blank, statement⟩
  have chars : referenceChars table column ++ (gap ++ (statement.chars ++ rest)) =
      t.chars ++ rest := by
    cases table <;>
      simp [t, referenceChars, ClauseText.chars, ClauseText.leading, ClauseText.afterLeading]
  have covered : (t.chars ++ rest).take ((t.chars ++ rest).length - rest.length) = t.chars := by
    rw [List.length_append, Nat.add_sub_cancel, List.take_left]
  refine ⟨t, rest, ?_, chars⟩
  rw [chars, covered]
  rfl

end RecordQuery.Filter
