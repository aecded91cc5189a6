import RecordQuery.Proofs.Filter.Conjunction
import RecordQuery.Proofs.Filter.ListText

/-!
Conditions with their texts. The conditions whose names and literals a filter can write read back
from their texts, separated by commas, and they still do with more blanks between reference,
operator and operand.
-/

namespace RecordQuery.Filter

open Text

/-- The text is an ASCII letter or underscore, then letters, digits and underscores. -/
def IsName (s : String) : Prop :=
  ∃ n : Identifier, s = String.ofList n.chars

/-- Operands as their operators want them: null checks have none, `in` and `notIn` have a list,
and the others have a single literal. -/
inductive CanonicalOperand : Operator → Option Operand → Prop
  | nothing {op : Operator} (checks : op.isNullCheck = true) : CanonicalOperand op none
  | single {op : Operator} {literal : Scalar} (compares : op.isNullCheck = false)
      (alone : op.takesList = false) (writable : Writable literal) :
      CanonicalOperand op (some (.single literal))
  | list {op : Operator} {literals : List Scalar} (takes : op.takesList = true)
      (writable : ∀ l ∈ literals, WritableMember l) : CanonicalOperand op (some (.list literals))

/-- The conditions that filters can write. -/
structure Canonical (c : Condition) : Prop where
  table : ∀ name, c.target.table = some name → IsName name
  column : IsName c.target.column
  operand : CanonicalOperand c.op c.operand

/-- At least one blank. -/
structure Gap where
  chars : List Char
  ne_nil : chars ≠ []
  blank : ∀ c ∈ chars, isBlank c = true

def Gap.text (gap : Gap) : String := String.ofList gap.chars

/-- The blanks of a clause: between reference and operator, and between operator and operand. -/
structure Spacing where
  beforeOperator : Gap
  beforeOperand : Gap

/-- What a condition says of its column. -/
def predicateText (op : Operator) (operand : Option Operand) (gap : Gap) : String :=
  match operand with
  | none => op.token
  | some operand => op.token ++ gap.text ++ operand.text

/-- The text of a condition with other blanks in it. -/
def spacedText (c : Condition) (spacing : Spacing) : String :=
  c.target.text ++ spacing.beforeOperator.text ++
    predicateText c.op c.operand spacing.beforeOperand

theorem isNullCheck_of_takesList {op : Operator} (takes : op.takesList = true) :
    op.isNullCheck = false := by
  cases op <;> first | contradiction | rfl

/-- With single blanks it is the text of the condition. -/
theorem spacedText_single {gap : Gap} (single : gap.text = " ") {c : Condition}
    (canonical : Canonical c) : spacedText c ⟨gap, gap⟩ = c.text := by
  obtain ⟨target, op, operand⟩ := c
  cases canonical.operand with
  | nothing checks =>
    simp [spacedText, predicateText, single, Condition.text]
  | single compares alone writable =>
    simp [spacedText, predicateText, single, Condition.text, compares, String.append_assoc]
  | list takes writable =>
    simp [spacedText, predicateText, single, Condition.text, isNullCheck_of_takesList takes,
      String.append_assoc]

/-! One clause. -/

theorem ofToken?_token (op : Operator) : Operator.ofToken? op.token = some op := by
  cases op <;> rfl

/-- An operator with an operand of the form that it wants is written as it reads. -/
theorem exists_comparisonText {op : Operator} {operand : Operand}
    (compares : op.isNullCheck = false)
    (wanted : (if op.takesList then operand.asList else operand) = operand) {o : OperandText}
    (written : o.chars = operand.text.toList)
    (read : ∀ text, readOperand op text o.raw = .ok operand) (gap : Gap) :
    ∃ p : PredicateText, p.chars = (predicateText op (some operand) gap).toList ∧
      ∀ target text,
        (Piece.mk target p.predicate text).condition = .ok ⟨target, op, some operand⟩ := by
  refine ⟨.comparison op compares gap.chars gap.blank o, ?_, fun target text => ?_⟩
  · simp [PredicateText.chars, predicateText, Gap.text, written]
  · simp only [Piece.condition, PredicateText.predicate, String.ofList_toList, ofToken?_token,
      compares, read, Except.map, Condition.of, wanted, Bool.false_eq_true, if_false]

/-- What a canonical condition says of its column is written as it reads. -/
theorem exists_predicateText {op : Operator} {operand : Option Operand}
    (canonical : CanonicalOperand op operand) (gap : Gap) :
    ∃ p : PredicateText, p.chars = (predicateText op operand gap).toList ∧
      ∀ target text, (Piece.mk target p.predicate text).condition = .ok ⟨target, op, operand⟩ := by
  cases canonical with
  | nothing checks => exact ⟨.nullCheck op checks, rfl, fun _ _ => rfl⟩
  | single compares alone writable =>
    obtain ⟨o, written, read⟩ := exists_operandText writable
    exact exists_comparisonText compares (by simp [alone]) written (read op) gap
  | list takes writable =>
    obtain ⟨o, written, read⟩ := exists_operandText_list writable
    have compares := isNullCheck_of_takesList takes
    exact exists_comparisonText compares (by rw [if_pos takes]; rfl) written
      (fun text => read op text takes) gap

/-- A reference of names, at least one blank and what is said of the column are a clause text. -/
theorem exists_clauseText_of_names {target : Reference}
    (table : ∀ name, target.table = some name → IsName name) (column : IsName target.column)
    (gap : Gap) (p : PredicateText) :
    ∃ t : ClauseText, t.chars = (target.text ++ gap.text).toList ++ p.chars ∧ t.predicate = p ∧
      t.target = target := by
  obtain ⟨table?, name⟩ := target
  obtain ⟨n, rfl⟩ : IsName name := column
  cases table? with
  | none =>
    refine ⟨⟨none, n, gap.chars, gap.ne_nil, gap.blank, p⟩, ?_, rfl, rfl⟩
    simp [ClauseText.chars, ClauseText.leading, ClauseText.afterLeading, Reference.text, Gap.text]
  | some other =>
    obtain ⟨m, rfl⟩ : IsName other := table other rfl
    have named : m.chars ≠ [] := List.cons_ne_nil _ _
    refine ⟨⟨some m, n, gap.chars, gap.ne_nil, gap.blank, p⟩, ?_, rfl, rfl⟩
    simp [ClauseText.chars, ClauseText.leading, ClauseText.afterLeading, Reference.text, Gap.text,
      named]

/-- A canonical condition, whatever blanks stand in it, is written as a clause that states it. -/
theorem exists_clauseText {c : Condition} (canonical : Canonical c) (spacing : Spacing) :
    ∃ t : ClauseText, t.chars = (spacedText c spacing).toList ∧ t.piece.condition = .ok c := by
  obtain ⟨p, written, states⟩ := exists_predicateText canonical.operand spacing.beforeOperand
  obtain ⟨t, chars, rfl, target⟩ :=
    exists_clauseText_of_names canonical.table canonical.column spacing.beforeOperator p
  refine ⟨t, ?_, ?_⟩
  · rw [chars, written, spacedText, ← String.toList_append]
  · rw [ClauseText.piece, target]
    exact states _ _

/-! Clauses with commas between them. -/

/-- The texts of clauses with a comma and a blank between them. -/
def listing (ts : List ClauseText) : List Char :=
  [',', ' '].intercalate (ts.map ClauseText.chars)

theorem listing_cons_cons (t u : ClauseText) (us : List ClauseText) :
    listing (t :: u :: us) = t.chars ++ ',' :: ' ' :: listing (u :: us) := by
  simp [listing, List.intercalate_cons_cons]

/-- A listing begins with its first clause. -/
theorem listing_cons (t : ClauseText) (ts : List ClauseText) :
    ∃ rest, listing (t :: ts) = t.chars ++ rest ∧ StandsApart rest := by
  cases ts with
  | nil => exact ⟨[], by simp [listing], rfl⟩
  | cons u us => exact ⟨_, listing_cons_cons t u us, by simp [StandsApart]; decide⟩

theorem listing_endsTight (t : ClauseText) (ts : List ClauseText) :
    EndsTight (listing (t :: ts)) := by
  induction ts generalizing t with
  | nil => simpa [listing] using t.endsTight
  | cons u us ih =>
    rw [listing_cons_cons]
    exact ((ih u).append [',', ' ']).append t.chars

/-- The scan finds the clauses of a listing one by one and passes over what separates them. -/
theorem pieces_listing (t : ClauseText) (ts : List ClauseText) :
    pieces (listing (t :: ts)) = (t :: ts).map ClauseText.piece := by
  induction ts generalizing t with
  | nil => simpa [listing] using pieces_clause t
  | cons u us ih =>
    have apart : StandsApart (',' :: ' ' :: listing (u :: us)) := by
      simp [StandsApart]
      decide
    rw [listing_cons_cons, pieces_append t apart, pieces_cons_of_none rfl, pieces_cons_of_none rfl,
      ih u]
    rfl

theorem read_listing (t : ClauseText) (ts : List ClauseText) :
    read (String.ofList (listing (t :: ts))) =
      ((t :: ts).map ClauseText.piece).mapM Piece.condition := by
  obtain ⟨rest, split, apart⟩ := listing_cons t ts
  have ends := listing_endsTight t ts
  rw [split] at ends
  rw [split, read_of_clause t (piece?_append t apart) ends, ← pieces_append t apart, ← split,
    pieces_listing]

theorem exists_clauseTexts {spaced : List (Condition × Spacing)}
    (canonical : ∀ s ∈ spaced, Canonical s.1) :
    ∃ ts : List ClauseText,
      ts.map ClauseText.chars = (spaced.map fun s => spacedText s.1 s.2).map String.toList ∧
      (ts.map ClauseText.piece).mapM Piece.condition = .ok (spaced.map Prod.fst) := by
  induction spaced with
  | nil => exact ⟨[], rfl, rfl⟩
  | cons s spaced ih =>
    rw [List.forall_mem_cons] at canonical
    obtain ⟨t, first, states⟩ := exists_clauseText canonical.1 s.2
    obtain ⟨ts, others, state⟩ := ih canonical.2
    refine ⟨t :: ts, ?_, ?_⟩
    · rw [List.map_cons, first, others]
      rfl
    · exact mapM_cons_eq_ok.mpr ⟨s.1, _, states, state, rfl⟩

/-- Canonical conditions read back from their texts with any blanks in them. -/
theorem read_spacedTexts {spaced : List (Condition × Spacing)} (nonempty : spaced ≠ [])
    (canonical : ∀ s ∈ spaced, Canonical s.1) :
    read (", ".intercalate (spaced.map fun s => spacedText s.1 s.2)) =
      .ok (spaced.map Prod.fst) := by
  obtain ⟨ts, written, states⟩ := exists_clauseTexts canonical
  cases ts with
  | nil => simp_all
  | cons t ts =>
    have text : ", ".intercalate (spaced.map fun s => spacedText s.1 s.2) =
        String.ofList (listing (t :: ts)) := by
      rw [← String.toList_inj, String.toList_ofList, String.toList_intercalate, listing, written]
      rfl
    rw [text, read_listing, states]

theorem exists_gap_single : ∃ gap : Gap, gap.text = " " :=
  ⟨⟨[' '], List.cons_ne_nil _ _, List.all_eq_true.mp rfl⟩, rfl⟩

/-- A canonical condition reads back from its text. -/
theorem read_conditionText {c : Condition} (canonical : Canonical c) : read c.text = .ok [c] := by
  obtain ⟨gap, single⟩ := exists_gap_single
  have each : ∀ s ∈ [(c, Spacing.mk gap gap)], Canonical s.1 :=
    List.forall_mem_singleton.mpr canonical
  have read := read_spacedTexts (List.cons_ne_nil _ _) each
  rw [List.map_singleton, List.map_singleton, String.intercalate_singleton,
    spacedText_single single canonical] at read
  exact read

/-- Conditions that filters can write read back from their texts with commas between them, also
if the single blanks of the texts are replaced by any others. -/
theorem read_rendered {conditions : List Condition} (nonempty : conditions ≠ [])
    (canonical : ∀ c ∈ conditions, Canonical c) :
    read (", ".intercalate (conditions.map Condition.text)) = .ok conditions ∧
    ∀ spacings : List Spacing, spacings.length = conditions.length →
      read (", ".intercalate (conditions.zipWith spacedText spacings)) = .ok conditions := by
  have anySpacing (spacings : List Spacing) (lengths : spacings.length = conditions.length) :
      read (", ".intercalate (conditions.zipWith spacedText spacings)) = .ok conditions := by
    have whole : (conditions.zip spacings).map Prod.fst = conditions :=
      List.map_fst_zip lengths.ge
    have some : conditions.zip spacings ≠ [] := by
      intro none
      rw [none, List.map_nil] at whole
      exact nonempty whole.symm
    have read := read_spacedTexts some fun s mem => canonical s.1 (List.of_mem_zip mem).1
    rw [whole] at read
    rw [← List.map_uncurry_zip_eq_zipWith]
    exact read
  refine ⟨?_, anySpacing⟩
  obtain ⟨gap, single⟩ := exists_gap_single
  have rendered : conditions.zipWith spacedText (conditions.map fun _ => ⟨gap, gap⟩) =
      conditions.map Condition.text := by
    rw [List.zipWith_map_right, List.zipWith_self]
    exact List.map_congr_left fun c mem => spacedText_single single (canonical c mem)
  rw [← rendered]
  exact anySpacing _ (List.length_map _)

/-- Numbers at the ends of their kinds, a name that is a word between clauses, and strings that
look like clauses and lists. -/
def renderedSample : List Condition :=
  [⟨⟨some "t_2", "c"⟩, .ge, some (.single (.int Int64.minValue))⟩,
   ⟨⟨none, "and"⟩, .isNull, none⟩,
   ⟨⟨none, "b2"⟩, .notIn, some (.list [.string "x, y eq 1", .uint 18446744073709551615])⟩,
   ⟨⟨none, "d"⟩, .isIn, some (.list [])⟩,
   ⟨⟨some "t", "_e"⟩, .startsWith, some (.single (.string ") and f isNotNull, (1"))⟩]

theorem isName_of_chars {c : Char} {cs : List Char} (start : isNameStart c = true)
    (rest : cs.all isNameRest = true) : IsName (String.ofList (c :: cs)) :=
  ⟨⟨c, cs, start, List.all_eq_true.mp rest⟩, rfl⟩

theorem renderedSample_canonical : ∀ c ∈ renderedSample, Canonical c := by
  have number : WritableMember (.uint 18446744073709551615) := ⟨.uint (by decide), nofun⟩
  have string : WritableMember (.string "x, y eq 1") :=
    ⟨.string (by decide), fun s same => by cases same; decide⟩
  have someTable {table : String} (named : IsName table) :
      ∀ name, some table = some name → IsName name := by
    rintro name ⟨⟩
    exact named
  simp only [renderedSample, List.forall_mem_cons, List.not_mem_nil, false_imp_iff, implies_true,
    and_true]
  refine ⟨⟨?_, ?_, .single rfl rfl (.int _)⟩, ⟨nofun, ?_, .nothing rfl⟩,
    ⟨nofun, ?_, .list rfl ?_⟩, ⟨nofun, ?_, .list rfl nofun⟩,
    ⟨?_, ?_, .single rfl rfl (.string (by decide))⟩⟩
  · exact someTable (isName_of_chars rfl rfl)
  · exact isName_of_chars rfl rfl
  · exact isName_of_chars rfl rfl
  · exact isName_of_chars rfl rfl
  · simp only [List.forall_mem_cons, List.not_mem_nil, false_imp_iff, implies_true, and_true]
    exact ⟨string, number⟩
  · exact isName_of_chars rfl rfl
  · exact someTable (isName_of_chars rfl rfl)
  · exact isName_of_chars rfl rfl

/-- A line break and a tab before operators, and an ideographic space before operands. -/
def wideSpacing : Spacing where
  beforeOperator := ⟨['\n', '\t'], by decide, List.all_eq_true.mp rfl⟩
  beforeOperand := ⟨['\u3000'], by decide, List.all_eq_true.mp rfl⟩

theorem read_rendered_sample :
    read ("t_2.c ge -9223372036854775808, and isNull, " ++
      "b2 notIn ('x, y eq 1', 18446744073709551615), d in (), " ++
      "t._e startswith ') and f isNotNull, (1'") = .ok renderedSample ∧
    read (", ".intercalate (renderedSample.map (spacedText · wideSpacing))) =
      .ok renderedSample := by
  have ne : renderedSample ≠ [] := List.cons_ne_nil _ _
  obtain ⟨rendered, spaced⟩ := read_rendered ne renderedSample_canonical
  have wide := spaced (renderedSample.map fun _ => wideSpacing) (List.length_map _)
  rw [List.zipWith_map_right, List.zipWith_self] at wide
  exact ⟨rendered, wide⟩

end RecordQuery.Filter
