import RecordQuery.Proofs.Filter.ReadOperand
import RecordQuery.Proofs.Sql.Quoting

/-!
Which conditions read back from their texts. A condition of a filter that is accepted reads back
from its text unless the text says something else than the condition: an infinite float is written
as a word, a closing parenthesis in a string ends a list, and a comma that stands behind an odd
number of a string's own quotes separates members of a list.
-/

namespace RecordQuery

/-- The literals that a condition compares with. -/
def Condition.literals (c : Condition) : List Scalar :=
  (c.operand.map Operand.literals).getD []

theorem Condition.of_list (target : Reference) {op : Operator} (takes : op.takesList = true)
    (literals : List Scalar) :
    Condition.of target op (.list literals) = ⟨target, op, some (.list literals)⟩ := by
  simp only [Condition.of, takes, Filter.isNullCheck_of_takesList takes, if_true,
    Bool.false_eq_true, if_false]
  rfl

theorem Condition.of_single (target : Reference) {op : Operator}
    (compares : op.isNullCheck = false) (single : op.takesList = false) (literal : Scalar) :
    Condition.of target op (.single literal) = ⟨target, op, some (.single literal)⟩ := by
  simp only [Condition.of, single, compares, Bool.false_eq_true, if_false]

namespace Filter

open Text

/-- The text of the condition says what the condition is. -/
structure RereadsAlone (c : Condition) : Prop where
  finite : ∀ x, Scalar.float x ∈ c.literals → x.isFinite = true
  unclosed : c.op.takesList = true → ∀ s, Scalar.string s ∈ c.literals → ')' ∉ s.toList
  commas : c.op.takesList = true → ∀ s, Scalar.string s ∈ c.literals → CommasEven s.toList

theorem toList_text_of_compares (target : Reference) {op : Operator}
    (compares : op.isNullCheck = false) (operand : Operand) :
    (Condition.mk target op (some operand)).text.toList =
      target.text.toList ++ ' ' :: (op.token.toList ++ ' ' :: operand.text.toList) := by
  simp [Condition.text, compares]

/-! Operands whose text is an operand. -/

/-- The clause text of a condition whose operand begins with a written one. -/
theorem exists_clauseText_of_operandText {target : Reference} {op : Operator}
    (named : IsReference target) (compares : op.isNullCheck = false) (o : OperandText) :
    ∃ (t : ClauseText) (gap : Gap),
      t.predicate = .comparison op compares gap.chars gap.blank o ∧ t.target = target ∧
      t.chars = target.text.toList ++ ' ' :: (op.token.toList ++ ' ' :: o.chars) := by
  let gap : Gap := ⟨[' '], List.cons_ne_nil _ _, List.all_eq_true.mp rfl⟩
  obtain ⟨t, chars, said, same⟩ := exists_clauseText_of_names named.table named.column gap
    (.comparison op compares gap.chars gap.blank o)
  refine ⟨t, gap, said, same, ?_⟩
  simp [chars, gap, Gap.text, PredicateText.chars]

/-- A comparison with a written operand states what is read for the operand. -/
theorem condition_of_operandText {t : ClauseText} {op : Operator}
    {compares : op.isNullCheck = false} {gap : List Char} {blank : ∀ c ∈ gap, isBlank c = true}
    {o : OperandText} (said : t.predicate = .comparison op compares gap blank o) :
    t.piece.condition = (readOperand op t.chars o.raw).map (Condition.of t.target op) := by
  simp only [ClauseText.piece, said, Piece.condition, PredicateText.predicate, String.ofList_toList,
    ofToken?_token, compares, Bool.false_eq_true, if_false]

/-- A condition whose operand is written reads as what is read for the operand. -/
theorem read_of_operandText {target : Reference} {op : Operator} {operand reread : Operand}
    (named : IsReference target) (compares : op.isNullCheck = false) {o : OperandText}
    (written : o.chars = operand.text.toList)
    (reads : ∀ text, readOperand op text o.raw = .ok reread) :
    read (Condition.mk target op (some operand)).text = .ok [Condition.of target op reread] := by
  obtain ⟨t, gap, said, same, chars⟩ := exists_clauseText_of_operandText named compares o
  have text : t.text = (Condition.mk target op (some operand)).text := by
    rw [ClauseText.text, chars, written, ← toList_text_of_compares target compares,
      String.ofList_toList]
  rw [← text, read_text, condition_of_operandText said, reads, same]
  rfl

/-- The text of a literal that stands alone is an operand, unless it is a float that is not
finite. -/
theorem exists_operandText_of_alone {literal : Scalar} (alone : Alone literal)
    (finite : ∀ x, literal = .float x → x.isFinite = true) :
    ∃ o : OperandText, o.chars = (Operand.single literal).text.toList ∧
      ∀ op text, readOperand op text o.raw = .ok (.single literal) := by
  obtain ⟨readable, unquoted⟩ := alone
  cases readable with
  | int n => exact exists_operandText (.int n)
  | uint beyond => exact exists_operandText (.uint beyond)
  | string s => exact exists_operandText (.string (unquoted s rfl))
  | float x =>
    obtain ⟨⟨m, chars⟩, number⟩ := exists_numeral_float (finite x rfl)
    refine ⟨.number m, chars, fun op text => ?_⟩
    simp only [OperandText.raw, chars, readOperand, number]

/-! Floats that are not finite. -/

theorem IsName.tight {name : String} (named : IsName name) :
    ∀ c ∈ name.toList, isBlank c = false := by
  obtain ⟨n, rfl⟩ := named
  rw [String.toList_ofList]
  intro c mem
  rw [Bool.eq_false_iff]
  intro blank
  have rest := isNameRest_of_mem n c mem
  rw [isNameRest_of_isBlank blank] at rest
  cases rest

theorem IsReference.tight {target : Reference} (named : IsReference target) :
    target.text.toList ≠ [] ∧ ∀ c ∈ target.text.toList, isBlank c = false := by
  obtain ⟨table, column⟩ := target
  have nonempty : column.toList ≠ [] := by
    obtain ⟨n, rfl⟩ : IsName column := named.column
    rw [String.toList_ofList]
    exact List.cons_ne_nil _ _
  have column_tight : ∀ c ∈ column.toList, isBlank c = false := IsName.tight named.column
  unfold Reference.text
  cases table with
  | none => exact ⟨nonempty, column_tight⟩
  | some table =>
    have table_tight := IsName.tight (named.table table rfl)
    dsimp only
    split
    · exact ⟨nonempty, column_tight⟩
    · rw [String.toList_append, String.toList_append]
      refine ⟨by simp, fun c mem => ?_⟩
      rw [List.mem_append, List.mem_append] at mem
      rcases mem with (table | point) | column
      · exact table_tight c table
      · rw [List.mem_singleton.mp point]
        decide
      · exact column_tight c column

/-- Behind an operator that is no null check nothing is said by a word that is no operand. -/
theorem predicate?_eq_none {op : Operator} (compares : op.isNullCheck = false) {word : List Char}
    (begins : word.head?.any isBlank = false) (notOperand : operand? word = none) :
    predicate? (op.token.toList ++ ' ' :: word) = none := by
  have stops : (' ' :: word).head?.any Char.isAlpha = false := rfl
  have blank : (' ' :: word).dropWhile isBlank = word := by
    have dropped := dropWhile_eq_self begins
    rwa [List.dropWhile_cons_of_pos (by decide)]
  simp only [predicate?, nullCheck?_of_comparison compares, comparison?,
    takeWhile_run (token_alpha op) stops, dropWhile_run (token_alpha op) stops, blank, notOperand,
    Option.map_none, ite_self]

/-- With a word in place of the operand, in which there is nothing to find, the scan finds
nothing. -/
theorem pieces_eq_nil {target : Reference} {op : Operator} (named : IsReference target)
    (compares : op.isNullCheck = false) {word : List Char}
    (begins : word.head?.any isBlank = false) (notOperand : operand? word = none)
    (silent : predicate? word = none) (nothing : pieces word = []) :
    pieces (target.text.toList ++ ' ' :: (op.token.toList ++ ' ' :: word)) = [] := by
  have token_tight : ∀ c ∈ op.token.toList, isBlank c = false :=
    fun c mem => isBlank_of_isAlpha (token_alpha op c mem)
  have token_begins : (op.token.toList ++ ' ' :: word).head?.any isBlank = false := by
    obtain ⟨c, cs, token, alpha⟩ := token_head_alpha op
    simp [token, isBlank_of_isAlpha alpha]
  have unsaid := predicate?_eq_none compares begins notOperand
  rw [pieces_skip_word named.tight.2 token_begins unsaid,
    pieces_skip_word token_tight begins silent, nothing]

/-- In the text of an infinite float no clause is found. -/
theorem exists_read_eq_error {target : Reference} {op : Operator} (named : IsReference target)
    (compares : op.isNullCheck = false) {x : Binary64} (notFinite : x.isFinite = false) :
    ∃ e, read (Condition.mk target op (some (.single (.float x)))).text = .error e := by
  have words : ∀ word ∈ ["NaN", "-NaN", "inf", "-inf"], predicate? word.toList = none ∧
      operand? word.toList = none ∧ pieces word.toList = [] ∧ word.toList ≠ [] := by
    decide +kernel
  obtain ⟨silent, notOperand, nothing, written⟩ := words _ (floatText_of_not_finite notFinite)
  have tight : ∀ c ∈ (Scalar.floatText x).toList, isBlank c = false :=
    fun c mem => isBlank_of_isNumberChar ((writtenAsNumber_float x).chars c mem)
  have text := toList_text_of_compares target compares (.single (.float x))
  change _ = target.text.toList ++ ' ' :: (op.token.toList ++ ' ' :: (Scalar.floatText x).toList)
    at text
  generalize (Scalar.floatText x).toList = word at silent notOperand nothing written tight text
  have word_begins : word.head?.any isBlank = false := by
    rw [Option.any_eq_false]
    exact fun c head => tight c (List.mem_of_head? head)
  have unfound := pieces_eq_nil named compares word_begins notOperand silent nothing
  have begins : (target.text.toList ++
      ' ' :: (op.token.toList ++ ' ' :: word)).head?.any isBlank = false := by
    obtain ⟨nonempty, names⟩ := named.tight
    obtain ⟨c, cs, front⟩ := List.exists_cons_of_ne_nil nonempty
    rw [front] at names ⊢
    simpa using names c List.mem_cons_self
  have ends : EndsTight (target.text.toList ++ ' ' :: (op.token.toList ++ ' ' :: word)) := by
    have last := (endsTight_of_ne_nil written tight).append (op.token.toList ++ [' '])
    have whole := last.append (target.text.toList ++ [' '])
    simpa using whole
  have notEmpty :
      (target.text.toList ++ ' ' :: (op.token.toList ++ ' ' :: word)).isEmpty = false := by
    simp
  refine ⟨.badFragment .filter (String.ofList (target.text.toList ++
    ' ' :: (op.token.toList ++ ' ' :: word))) "no clause found", ?_⟩
  simp only [read, text, trimChars_of_endsTight begins ends, notEmpty, unfound,
    Bool.false_eq_true, if_false]

/-! Single literals. -/

theorem read_single_iff {target : Reference} {op : Operator} {literal : Scalar}
    (named : IsReference target) (compares : op.isNullCheck = false)
    (single : op.takesList = false) (alone : Alone literal) :
    read (Condition.mk target op (some (.single literal))).text =
        .ok [⟨target, op, some (.single literal)⟩] ↔
      RereadsAlone ⟨target, op, some (.single literal)⟩ := by
  have ofList {p : Prop} (takes : op.takesList = true) : p := by
    rw [single] at takes
    cases takes
  by_cases finite : ∀ x, literal = .float x → x.isFinite = true
  · obtain ⟨o, written, reads⟩ := exists_operandText_of_alone alone finite
    have reread := read_of_operandText named compares written (reads op)
    rw [Condition.of_single target compares single] at reread
    have all (x : Binary64) (mem : Scalar.float x ∈ [literal]) : x.isFinite = true :=
      finite x (List.mem_singleton.mp mem).symm
    exact iff_of_true reread ⟨all, ofList, ofList⟩
  · push Not at finite
    obtain ⟨x, rfl, infinite⟩ := finite
    have notFinite := Bool.eq_false_of_not_eq_true infinite
    obtain ⟨e, failed⟩ := exists_read_eq_error named compares notFinite
    rw [failed]
    exact iff_of_false nofun fun rereads => infinite (rereads.finite x List.mem_cons_self)

/-! Lists. -/

/-- A list that nothing in it closes reads back exactly if its literals do. -/
theorem read_list_iff {target : Reference} {op : Operator} {literals : List Scalar}
    (named : IsReference target) (takes : op.takesList = true)
    (readable : ∀ l ∈ literals, Readable l)
    (paired : ∀ s, Scalar.string s ∈ literals.dropLast → oddQuotes s.toList = false)
    (unclosed : ∀ s, Scalar.string s ∈ literals → ')' ∉ s.toList) :
    read (Condition.mk target op (some (.list literals))).text =
        .ok [⟨target, op, some (.list literals)⟩] ↔
      RereadsAlone ⟨target, op, some (.list literals)⟩ := by
  have compares := isNullCheck_of_takesList takes
  obtain ⟨o, written, reads⟩ := exists_operandText_members readable unclosed
  have reread := read_of_operandText named compares written fun text => reads op text takes
  have said : RereadsAlone ⟨target, op, some (.list literals)⟩ ↔ ∀ l ∈ literals, Rereads l := by
    constructor
    · rintro ⟨finite, -, commas⟩ l mem
      exact ⟨fun x same => finite x (same ▸ mem), fun s same => commas takes s (same ▸ mem)⟩
    · intro all
      exact ⟨fun x mem => (all _ mem).finite x rfl, fun _ => unclosed,
        fun _ s mem => (all _ mem).commas s rfl⟩
  rw [reread, Condition.of_list target takes, said, ← members_listText_iff readable paired]
  simp

/-- A string with a closing parenthesis does not read back as the only member of a list, which
ends there. -/
theorem read_closed_ne {target : Reference} {op : Operator} {s : String}
    (named : IsReference target) (takes : op.takesList = true) (unquoted : '\'' ∉ s.toList)
    (closed : ')' ∈ s.toList) :
    read (Condition.mk target op (some (.list [.string s]))).text ≠
      .ok [⟨target, op, some (.list [.string s])⟩] := by
  have compares := isNullCheck_of_takesList takes
  obtain ⟨a, b, split, first⟩ := List.eq_append_cons_of_mem closed
  have unclosed : ')' ∉ '\'' :: a := by simpa using first
  obtain ⟨t, gap, said, same, chars⟩ :=
    exists_clauseText_of_operandText named compares (.list ('\'' :: a) unclosed)
  -- the clause ends where the list does, and the rest of the string stands behind it
  have text : (Condition.mk target op (some (.list [.string s]))).text =
      String.ofList (t.chars ++ (b ++ ['\'', ')'])) := by
    rw [← String.toList_inj, String.toList_ofList, toList_text_of_compares target compares, chars]
    simp [Operand.text, text_string, split, OperandText.chars]
  have found : piece? (t.chars ++ (b ++ ['\'', ')'])) = some t.piece := by
    apply piece?_of_predicate
    rw [said]
    apply predicate?_of_operand
    have closes := upTo?_append unclosed (b ++ ['\'', ')'])
    simpa [OperandText.chars, OperandText.raw, operand?] using closes
  have ends : EndsTight (t.chars ++ (b ++ ['\'', ')'])) :=
    ⟨t.chars ++ (b ++ ['\'']), ')', by simp, by decide⟩
  rw [text, read_of_clause t found ends]
  intro reread
  obtain ⟨c, rest, states, -, whole⟩ := mapM_cons_eq_ok.mp reread
  obtain ⟨rfl, rfl⟩ := List.cons.inj whole
  obtain ⟨-, list⟩ : t.target = target ∧ members ('\'' :: a) = [.string s] := by
    rw [condition_of_operandText said] at states
    simpa [OperandText.raw, readOperand, takes, Except.map, Condition.of_list] using states
  have commas : CommasEven a := by
    refine commasEven_of_not_mem fun mem => unquoted ?_
    rw [split]
    exact List.mem_append_left _ mem
  rw [members_last (joined_quote commas) (trimChars_quote_ne_nil a)] at list
  have whole : s = String.ofList (a ++ ')' :: b) := by
    rw [← split, String.ofList_toList]
  have cut := (List.cons.inj list).1
  rw [whole] at cut
  exact member_cut_ne (by decide) cut

theorem read_one_iff {target : Reference} {op : Operator} {literal : Scalar}
    (named : IsReference target) (takes : op.takesList = true) (alone : Alone literal) :
    read (Condition.mk target op (some (.list [literal]))).text =
        .ok [⟨target, op, some (.list [literal])⟩] ↔
      RereadsAlone ⟨target, op, some (.list [literal])⟩ := by
  by_cases closed : ∃ s, literal = .string s ∧ ')' ∈ s.toList
  · obtain ⟨s, rfl, closed⟩ := closed
    exact iff_of_false (read_closed_ne named takes (alone.unquoted s rfl) closed)
      fun rereads => rereads.unclosed takes s List.mem_cons_self closed
  · push Not at closed
    refine read_list_iff named takes (List.forall_mem_singleton.mpr alone.readable) nofun
      fun s mem => ?_
    exact closed s (List.mem_singleton.mp mem).symm

/-- A condition of a filter that is accepted reads back from its text exactly if the text says
what the condition is. -/
theorem read_conditionText_iff {s : String} {conditions : List Condition}
    (accepted : read s = .ok conditions) {c : Condition} (mem : c ∈ conditions) :
    read c.text = .ok [c] ↔ RereadsAlone c := by
  have named := read_isReference accepted c mem
  have operand := readOperand_of_read accepted mem
  obtain ⟨target, op, _⟩ := c
  cases operand with
  | nothing checks =>
    exact iff_of_true (read_conditionText ⟨named.table, named.column, .nothing checks⟩)
      ⟨nofun, fun _ => nofun, fun _ => nofun⟩
  | single compares single alone => exact read_single_iff named compares single alone
  | one takes alone => exact read_one_iff named takes alone
  | list takes unclosed =>
    exact read_list_iff named takes readable_of_mem_members (fun s => paired_of_mem_members)
      fun s mem closing => unclosed (subset_of_mem_members mem closing)

/-- A list with a bare string, a comma between quotes and zeros around a number. -/
def bareSample : Condition :=
  ⟨⟨some "t", "a"⟩, .notIn,
    some (.list [.string "it''s", .string "y,z", .float ⟨0xBFE0000000000000⟩])⟩

theorem read_conditionText_bare :
    read "t.a notIn (it''s, 'y,z',, -00.50)" = .ok [bareSample] ∧
      bareSample.text = "t.a notIn ('it''s', 'y,z', -0.5)" ∧
      read "t.a notIn ('it''s', 'y,z', -0.5)" = .ok [bareSample] := by
  have accepted : read "t.a notIn (it''s, 'y,z',, -00.50)" = .ok [bareSample] := rfl
  have literals {l : Scalar} (mem : l ∈ bareSample.literals) :
      l = .string "it''s" ∨ l = .string "y,z" ∨ l = .float ⟨0xBFE0000000000000⟩ := by
    simpa [bareSample, Condition.literals, Operand.literals] using mem
  have rereads : RereadsAlone bareSample := by
    refine ⟨fun x mem => ?_, fun _ s mem => ?_, fun _ s mem => ?_⟩
    · obtain same | same | same := literals mem <;> cases same
      decide
    · obtain same | same | same := literals mem <;> cases same
      · decide
      · decide
    · obtain same | same | same := literals mem <;> cases same
      · intro before after split
        have comma : ',' ∈ "it''s".toList := by simp [split]
        exact absurd comma (by decide)
      · exact commasEven_of_not_mem (by decide)
  exact ⟨accepted, rfl, (read_conditionText_iff accepted (List.mem_singleton_self _)).mpr rereads⟩

/-- A string behind `in` that stands between quotes may have a closing parenthesis. In the text of
the condition the list ends there. -/
theorem read_conditionText_closed :
    read "a in 'f(x)'" = .ok [⟨⟨none, "a"⟩, .isIn, some (.list [.string "f(x)"])⟩] ∧
      Condition.text ⟨⟨none, "a"⟩, .isIn, some (.list [.string "f(x)"])⟩ = "a in ('f(x)')" ∧
      read "a in ('f(x)')" = .ok [⟨⟨none, "a"⟩, .isIn, some (.list [.string "'f(x"])⟩] ∧
      read "a in ('f(x)')" ≠ .ok [⟨⟨none, "a"⟩, .isIn, some (.list [.string "f(x)"])⟩] := by
  have reread : read "a in ('f(x)')" =
      .ok [⟨⟨none, "a"⟩, .isIn, some (.list [.string "'f(x"])⟩] := rfl
  refine ⟨rfl, rfl, reread, ?_⟩
  rw [reread]
  simp

end Filter

end RecordQuery
