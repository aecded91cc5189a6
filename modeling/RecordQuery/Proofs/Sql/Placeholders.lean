import RecordQuery.Proofs.Filter.Piecewise
import RecordQuery.Proofs.Filter.Rereading
import RecordQuery.Proofs.Matching.Negation
import RecordQuery.Proofs.Sql.Like

/-!
Placeholders and what is bound to them. A condition has one placeholder unless it is a null check,
and membership binds all literals to it. Every other operator has to bind exactly one literal: the
substring operators bind a pattern of the first one, but the operators that compare bind whatever
literals the condition has, although they only look at the first. So a condition binds what its
placeholders ask for if it compares with one literal, as all conditions of filters do.
-/

namespace RecordQuery

theorem Condition.operand_of_literals {c : Condition} {literal : Scalar} {rest : List Scalar}
    (split : c.literals = literal :: rest) :
    ∃ operand, c.operand = some operand ∧ operand.literals = literal :: rest := by
  unfold literals at split
  cases given : c.operand with
  | none =>
    rw [given] at split
    cases split
  | some operand =>
    rw [given] at split
    exact ⟨operand, rfl, split⟩

namespace Comparison

variable {α : Type} {by' : Comparison α}

/-- The operators that look at the order see the first operand only. -/
theorem holds_cons {op : Operator} (among : op ∈ Operator.orderings) (x y : α) (rest : List α) :
    by'.holds op x (y :: rest) = by'.holds op x [y] := by
  cases op with
  | eq | ne | gt | ge | lt | le => rfl
  | isIn | notIn | isNull | isNotNull | contains | startsWith | endsWith =>
    simp [Operator.orderings] at among

end Comparison

namespace Sql

open Matching

/-! Reading a column with words behind it. -/

/-- A name that is never closed is no token. -/
theorem scan_unclosed {cs : List Char} (noQuote : '"' ∉ cs) (read : List Char) :
    scan (.inName read) cs = none := by
  induction cs generalizing read with
  | nil => rfl
  | cons c cs ih =>
    rw [List.mem_cons, not_or] at noQuote
    have notQuote : c ≠ '"' := Ne.symm noQuote.1
    simp [scan, Scan.step, notQuote, ih noQuote.2]

/-- A quote opens a name or may close one. -/
theorem step_quote (s : Scan) : ∃ name, (s.step '"').2 = .inName name ∨
    (s.step '"').2 = .afterQuote name := by
  cases s with
  | between | inWord w => exact ⟨[], Or.inl rfl⟩
  | inName name => exact ⟨name, Or.inr rfl⟩
  | afterQuote name => exact ⟨name ++ ['"'], Or.inl rfl⟩

/-- Behind a quote and a blank the tokens of the rest follow, if the quote closes a name. If it
opens one nothing closes this name any more. -/
theorem scan_behind_quote {s : Scan} {front after : List Char} {ts : List Token}
    (noQuote : '"' ∉ after) (read : scan .between after = some ts) :
    scan s (front ++ '"' :: ' ' :: after) = (scan s (front ++ ['"'])).map (· ++ ts) := by
  induction front generalizing s with
  | nil =>
    have rest : scan (s.step '"').2 (' ' :: after) = (s.step '"').2.finish.map (· ++ ts) := by
      obtain ⟨name, opens | closes⟩ := step_quote s
      · rw [opens, scan_unclosed (by simp [noQuote])]
        rfl
      · have separated : Separated (' ' :: after) := Or.inr rfl
        rw [closes, scan_afterQuote separated, scan_blank, read]
        rfl
    have left : scan s ('"' :: ' ' :: after) =
        (scan (s.step '"').2 (' ' :: after)).map ((s.step '"').1 ++ ·) := rfl
    have right : scan s ['"'] = (s.step '"').2.finish.map ((s.step '"').1 ++ ·) := rfl
    rw [List.nil_append, List.nil_append, left, right, rest, Option.map_map, Option.map_map]
    simp only [Function.comp_def, List.append_assoc]
  | cons c front ih =>
    rw [List.cons_append, List.cons_append, scan, scan, ih, Option.map_map, Option.map_map]
    simp only [Function.comp_def, List.append_assoc]

/-- The column of a reference ends with a quote. -/
theorem exists_column_closed (target : Reference) :
    ∃ front, (column target).toList = front ++ ['"'] := by
  unfold column
  cases foreignTable? target with
  | none => exact ⟨'"' :: target.column.toList, by simp [quotedName]⟩
  | some singular =>
    exact ⟨(quotedName (Name.plural singular)).toList ++ '.' :: '"' :: target.column.toList,
      by simp [quotedName]⟩

theorem tokens?_comparison (op : Operator) :
    tokens? (comparison op) = some ((comparisonWords op).map .word) := by
  cases op <;> rfl

theorem quote_notMem_comparison (op : Operator) : '"' ∉ (comparison op).toList := by
  cases op <;> decide

/-- A condition reads as its column and the words of its operator, whatever its names are. -/
theorem tokens?_condition (target : Reference) (op : Operator) :
    tokens? (column target ++ " " ++ comparison op) =
      (tokens? (column target)).map (· ++ (comparisonWords op).map .word) := by
  obtain ⟨front, closed⟩ := exists_column_closed target
  have text : (column target ++ " " ++ comparison op).toList =
      front ++ '"' :: ' ' :: (comparison op).toList := by
    simp [closed]
  rw [tokens?, text, tokens?, closed]
  exact scan_behind_quote (quote_notMem_comparison op) (tokens?_comparison op)

/-! Counting placeholders. -/

/-- The placeholders in a token. A question mark in a name is part of the name. -/
def Token.placeholders : Token → Nat
  | .name _ => 0
  | .dot => 0
  | .word w => w.count '?'

def placeholders (ts : List Token) : Nat :=
  (ts.map Token.placeholders).sum

theorem placeholders_append (ts us : List Token) :
    placeholders (ts ++ us) = placeholders ts + placeholders us := by
  simp [placeholders]

theorem placeholders_comparison (op : Operator) :
    placeholders ((comparisonWords op).map .word) = if op.isNullCheck then 0 else 1 := by
  cases op <;> decide

/-- The column of a reference reads as tokens without a placeholder. -/
def Unmarked (target : Reference) : Prop :=
  ∃ ts, tokens? (column target) = some ts ∧ placeholders ts = 0

/-- Names without quotes keep their question marks to themselves. -/
theorem QuoteFree.unmarked {target : Reference} (free : QuoteFree target) : Unmarked target := by
  have said : columnTokens target ∈ saidTokens target [] := by simp [saidTokens]
  have no_words : ∀ word ∈ [], IsWord word := List.forall_mem_nil _
  have tokens_free : ∀ t ∈ columnTokens target, t.QuoteFree :=
    saidTokens_quoteFree.mpr free _ said
  have wellFormed : ∀ t ∈ columnTokens target, t.WellFormed :=
    saidTokens_wellFormed target no_words _ said
  refine ⟨columnTokens target, ?_, ?_⟩
  · rw [tokens?, column_written, scan_written wellFormed tokens_free]
  · unfold columnTokens
    cases foreignTable? target <;> rfl

/-- What a condition binds in so many arguments: membership all of them to its one placeholder,
every other operator one to each. -/
def slots (op : Operator) (arguments : List Scalar) : Nat :=
  if op.takesList then 1 else arguments.length

/-- With no more arguments than its operator asks for, a condition has a placeholder for each of
them exactly if its column has none and the operator asks for that many. -/
theorem exists_placeholders_iff {target : Reference} {op : Operator} {n : Nat}
    (few : n ≤ if op.isNullCheck then 0 else 1) :
    (∃ ts, tokens? (column target ++ " " ++ comparison op) = some ts ∧ placeholders ts = n) ↔
      Unmarked target ∧ n = if op.isNullCheck then 0 else 1 := by
  rw [tokens?_condition]
  constructor
  · rintro ⟨_, read, counted⟩
    obtain ⟨ts, column_read, rfl⟩ := Option.map_eq_some_iff.mp read
    rw [placeholders_append, placeholders_comparison] at counted
    exact ⟨⟨ts, column_read, by omega⟩, by omega⟩
  · rintro ⟨⟨ts, read, unmarked⟩, rfl⟩
    refine ⟨_, Option.map_eq_some_iff.mpr ⟨ts, read, rfl⟩, ?_⟩
    rw [placeholders_append, placeholders_comparison, unmarked, Nat.zero_add]

/-! What a condition binds. -/

/-- About every value the literal alone decides what the whole operand decides. -/
def Decides (op : Operator) (operand : Option Operand) (literal : Scalar) : Prop :=
  ∀ semantics actual answer, valueHolds semantics op actual operand = .ok answer →
    valueHolds semantics op actual (some (.single literal)) = .ok answer

/-- The text and the arguments to which a condition is lowered belong together: there is an argument
for each placeholder, except that membership binds all members to its only one. -/
structure Binds (c : Condition) (text : String) (arguments : List Scalar) : Prop where
  lowered : ofClause (.condition c) = joins c.target ++ [.condition text arguments]
  counted : ∃ ts, tokens? text = some ts ∧ placeholders ts = slots c.op arguments
  members : c.op.takesList = true → arguments = c.literals
  /-- An operator that compares binds the literal that it compares with. -/
  compared : c.op ∈ Operator.orderings →
    ∃ literal, arguments = [literal] ∧ Decides c.op c.operand literal

/-- What a condition is lowered to binds an argument to each placeholder. -/
def FullyBound (c : Condition) : Prop :=
  ∃ text arguments, Binds c text arguments

/-- The literals are what the operator can bind: one for a comparison, and at least one for a
pattern to be built from. The null checks and membership take any. -/
structure Fits (op : Operator) (literals : List Scalar) : Prop where
  compared : op ∈ Operator.orderings → ∃ literal, literals = [literal]
  sought : SeeksNeedle op → literals ≠ []

/-- The operators that look for a needle are those that do nothing else. -/
theorem seeksNeedle_iff {op : Operator} : SeeksNeedle op ↔
    op.isNullCheck = false ∧ op.takesList = false ∧ op ∉ Operator.orderings := by
  constructor
  · intro seeks
    cases seeks <;> decide
  · intro alone
    cases op with
    | contains => exact .contains
    | startsWith => exact .startsWith
    | endsWith => exact .endsWith
    | isNull | isNotNull => cases alone.1
    | isIn | notIn => cases alone.2.1
    | eq | ne | gt | ge | lt | le => simp [Operator.orderings] at alone

theorem takesList_of_orderings {op : Operator} (among : op ∈ Operator.orderings) :
    op.takesList = false := by
  cases op with
  | isIn | notIn => simp [Operator.orderings] at among
  | eq | ne | gt | ge | lt | le | isNull | isNotNull | contains | startsWith | endsWith => rfl

theorem fits_of_nullCheck {op : Operator} (checks : op.isNullCheck = true)
    (literals : List Scalar) : Fits op literals := by
  refine ⟨fun among => ?_, fun seeks => ?_⟩
  · simp [Operator.isNullCheck_of_orderings among] at checks
  · simp [(seeksNeedle_iff.mp seeks).1] at checks

section Arguments

variable {c : Condition}

theorem arguments_eq_literals (binds : c.op.takesList = true ∨ c.op ∈ Operator.orderings) :
    arguments c = c.literals := by
  obtain ⟨target, op, operand⟩ := c
  cases op with
  | eq | ne | gt | ge | lt | le | isIn | notIn => cases operand <;> rfl
  | isNull | isNotNull | contains | startsWith | endsWith =>
    simp [Operator.takesList, Operator.orderings] at binds

/-- A pattern is built from the first literal, if there is one. -/
theorem length_arguments_of_seeks (seeks : SeeksNeedle c.op) :
    (arguments c).length = min 1 c.literals.length := by
  have length_pattern (before after : String) (literals : List Scalar) :
      (pattern before after literals).length = min 1 literals.length := by
    cases literals with
    | nil => rfl
    | cons literal rest => simp [pattern]
  obtain ⟨target, op, operand⟩ := c
  cases operand with
  | none => cases seeks <;> rfl
  | some operand => cases seeks <;> exact length_pattern _ _ operand.literals

variable (c) in
theorem slots_arguments : slots c.op (arguments c) =
    if c.op.isNullCheck then 0
    else if c.op.takesList then 1
    else if c.op ∈ Operator.orderings then c.literals.length
    else min 1 c.literals.length := by
  split_ifs with checks takes among
  · obtain ⟨target, op, operand⟩ := c
    rcases (Filter.isNullCheck_iff op).mp checks with rfl | rfl <;> rfl
  · rw [slots, if_pos takes]
  · rw [slots, if_neg takes, arguments_eq_literals (Or.inr among)]
  · rw [Bool.not_eq_true] at checks takes
    rw [slots, takes, if_neg Bool.false_ne_true]
    exact length_arguments_of_seeks (seeksNeedle_iff.mpr ⟨checks, takes, among⟩)

/-- Only a comparison can bind more than its operator asks for. -/
theorem slots_le (few : c.op ∈ Operator.orderings → c.literals.length ≤ 1) :
    slots c.op (arguments c) ≤ if c.op.isNullCheck then 0 else 1 := by
  rw [slots_arguments]
  split_ifs with checks takes among
  · exact Nat.le_refl 0
  · exact Nat.le_refl 1
  · exact few among
  · exact Nat.min_le_left 1 _

/-- A condition binds as much as its operator asks for exactly if its literals fit. -/
theorem slots_eq_iff : slots c.op (arguments c) = (if c.op.isNullCheck then 0 else 1) ↔
    Fits c.op c.literals := by
  rw [slots_arguments]
  split_ifs with checks takes among
  · exact iff_of_true rfl (fits_of_nullCheck checks _)
  · refine iff_of_true rfl ⟨fun among => ?_, fun seeks => ?_⟩
    · simp [takesList_of_orderings among] at takes
    · simp [(seeksNeedle_iff.mp seeks).2.1] at takes
  · rw [List.length_eq_one_iff]
    exact ⟨fun one => ⟨fun _ => one, fun seeks => absurd among (seeksNeedle_iff.mp seeks).2.2⟩,
      fun fits => fits.compared among⟩
  · rw [Bool.not_eq_true] at checks takes
    have nonempty : min 1 c.literals.length = 1 ↔ c.literals ≠ [] := by
      rw [← List.length_pos_iff]
      omega
    rw [nonempty]
    exact ⟨fun some => ⟨fun ordered => absurd ordered among, fun _ => some⟩,
      fun fits => fits.sought (seeksNeedle_iff.mpr ⟨checks, takes, among⟩)⟩

end Arguments

/-- The first literal decides a comparison, whatever literals follow it. -/
theorem decides_first {op : Operator} (among : op ∈ Operator.orderings) {operand : Operand}
    {literal : Scalar} {rest : List Scalar} (split : operand.literals = literal :: rest) :
    Decides op (some operand) literal := by
  intro semantics actual answer decided
  have comparing := Operator.isNullCheck_of_orderings among
  have nonempty : operand.literals ≠ [] := by
    rw [split]
    exact List.cons_ne_nil literal rest
  have alone : (Operand.single literal).literals ≠ [] := List.cons_ne_nil literal []
  rw [valueHolds_comparing comparing nonempty] at decided
  rw [valueHolds_comparing comparing alone]
  cases actual with
  | null => exact decided
  | list _ | nested _ => cases decided
  | scalar s =>
    obtain ⟨xs, reads, holds⟩ := scalarHolds_eq_ok.mp decided
    rw [split] at reads
    obtain ⟨x, others, first, -, rfl⟩ := List.forall₂_cons_left_iff.mp reads
    refine scalarHolds_eq_ok.mpr ⟨[x], .cons first .nil, ?_⟩
    rw [← Comparison.holds_cons among, holds]

/-- A condition is fully bound exactly if no question mark stands outside the names of its column
and its literals are what its operator can bind. -/
theorem fullyBound_iff (c : Condition) :
    FullyBound c ↔ Unmarked c.target ∧ Fits c.op c.literals := by
  have asked (few : c.op ∈ Operator.orderings → c.literals.length ≤ 1) :
      (∃ ts, tokens? (column c.target ++ " " ++ comparison c.op) = some ts ∧
          placeholders ts = slots c.op (arguments c)) ↔
        Unmarked c.target ∧ Fits c.op c.literals := by
    rw [exists_placeholders_iff (slots_le few), slots_eq_iff]
  constructor
  · rintro ⟨text, bound, binds⟩
    obtain ⟨rfl, rfl⟩ : column c.target ++ " " ++ comparison c.op = text ∧ arguments c = bound := by
      have same := List.append_cancel_left binds.lowered
      simpa using same
    refine (asked fun among => ?_).mp binds.counted
    obtain ⟨literal, one, -⟩ := binds.compared among
    rw [← arguments_eq_literals (Or.inr among), one]
    exact Nat.le_refl 1
  · rintro ⟨unmarked, fits⟩
    refine ⟨_, _, rfl, (asked fun among => ?_).mpr ⟨unmarked, fits⟩, ?_, fun among => ?_⟩
    · obtain ⟨literal, alone⟩ := fits.compared among
      rw [alone]
      exact Nat.le_refl 1
    · exact fun takes => arguments_eq_literals (Or.inl takes)
    · obtain ⟨literal, alone⟩ := fits.compared among
      obtain ⟨operand, given, split⟩ := Condition.operand_of_literals alone
      refine ⟨literal, (arguments_eq_literals (Or.inr among)).trans alone, ?_⟩
      rw [given]
      exact decides_first among split

/-- A condition of a filter has the literals that its operator can bind. -/
theorem fits_of_wellFormed {c : Condition} (wellFormed : c.WellFormed) : Fits c.op c.literals := by
  have one (apart : c.op ∉ [.isNull, .isNotNull, .isIn, .notIn]) :
      ∃ literal, c.literals = [literal] := by
    obtain ⟨literal, given⟩ := wellFormed.single.mpr apart
    exact ⟨literal, by rw [Condition.literals, given]; rfl⟩
  constructor
  · intro among
    apply one
    rw [Filter.comparesAlone_iff]
    exact ⟨Operator.isNullCheck_of_orderings among, takesList_of_orderings among⟩
  · intro seeks
    obtain ⟨comparing, single, -⟩ := seeksNeedle_iff.mp seeks
    obtain ⟨literal, alone⟩ := one ((Filter.comparesAlone_iff c.op).mpr ⟨comparing, single⟩)
    rw [alone]
    exact List.cons_ne_nil literal []

/-- A condition keeps the literals of the operand that it is given, unless it compares with
nothing. -/
theorem fits_literals_of (target : Reference) (op : Operator) (operand : Operand) :
    Fits op (Condition.of target op operand).literals ↔ Fits op operand.literals := by
  cases checks : op.isNullCheck with
  | true => exact iff_of_true (fits_of_nullCheck checks _) (fits_of_nullCheck checks _)
  | false =>
    have kept : (Condition.of target op operand).literals = operand.literals := by
      unfold Condition.of Condition.literals
      rw [checks]
      cases op.takesList <;> rfl
    rw [kept]

/-- A condition of a column, an operator and an operand binds what its placeholders ask for exactly
if its column has no question mark outside its names and the operand fits the operator: one literal
for a comparison, at least one for a pattern. A null check only depends on its column, and every
condition of a filter that is accepted is fully bound. Of the literals that are bound for a
comparison the first alone decides. -/
theorem fullyBound_iff_fits (target : Reference) :
    (∀ op operand, FullyBound (.of target op operand) ↔
      Unmarked target ∧ Fits op operand.literals) ∧
    (FullyBound (.isNull target) ↔ Unmarked target) ∧
    (FullyBound (.isNotNull target) ↔ Unmarked target) ∧
    (∀ s conditions, Filter.read s = .ok conditions → ∀ c ∈ conditions, FullyBound c) ∧
    ∀ c literal rest, c.op ∈ Operator.orderings → arguments c = literal :: rest →
      Decides c.op c.operand literal := by
  refine ⟨fun op operand => ?_, ?_, ?_, ?_, ?_⟩
  · exact (fullyBound_iff _).trans (and_congr_right' (fits_literals_of target op operand))
  · exact (fullyBound_iff _).trans (and_iff_left (fits_of_nullCheck rfl _))
  · exact (fullyBound_iff _).trans (and_iff_left (fits_of_nullCheck rfl _))
  · intro s conditions accepted c mem
    have wellFormed := Filter.wellFormed_of_read accepted mem
    have named := wellFormed.named
    have free : QuoteFree c.target :=
      ⟨fun table mem => (named.table table mem).quote_free, named.column.quote_free⟩
    exact (fullyBound_iff c).mpr ⟨free.unmarked, fits_of_wellFormed wellFormed⟩
  · intro c literal rest among bound
    rw [arguments_eq_literals (Or.inr among)] at bound
    obtain ⟨operand, given, split⟩ := Condition.operand_of_literals bound
    rw [given]
    exact decides_first among split

/-- A question mark in a column or in a literal is no placeholder, and a list of one literal is as
good as the literal. -/
theorem fullyBound_iff_fits_sample :
    Filter.read "users.name contains 'why?' and age in (1, 2)" =
        .ok [⟨⟨some "users", "name"⟩, .contains, some (.single (.string "why?"))⟩,
          ⟨⟨none, "age"⟩, .isIn, some (.list [.int 1, .int 2])⟩] ∧
      FullyBound ⟨⟨some "users", "name"⟩, .contains, some (.single (.string "why?"))⟩ ∧
      FullyBound ⟨⟨none, "age"⟩, .isIn, some (.list [.int 1, .int 2])⟩ ∧
      FullyBound (.of ⟨none, "why?"⟩ .lt (.list [.int 1])) ∧
      FullyBound (.isNull ⟨some "users", "why?"⟩) := by
  obtain ⟨given, -, -, read, -⟩ := fullyBound_iff_fits ⟨none, "why?"⟩
  obtain ⟨-, nothing, -⟩ := fullyBound_iff_fits ⟨some "users", "why?"⟩
  have accepted : Filter.read "users.name contains 'why?' and age in (1, 2)" =
      .ok [⟨⟨some "users", "name"⟩, .contains, some (.single (.string "why?"))⟩,
        ⟨⟨none, "age"⟩, .isIn, some (.list [.int 1, .int 2])⟩] := rfl
  have column : Unmarked ⟨none, "why?"⟩ := QuoteFree.unmarked ⟨nofun, by decide⟩
  have foreign : Unmarked ⟨some "users", "why?"⟩ := by
    refine QuoteFree.unmarked ⟨fun table mem => ?_, by decide⟩
    cases mem
    decide
  have fits : Fits .lt [.int 1] := ⟨fun _ => ⟨_, rfl⟩, nofun⟩
  exact ⟨accepted, read _ _ accepted _ List.mem_cons_self,
    read _ _ accepted _ (List.mem_cons_of_mem _ List.mem_cons_self),
    (given _ _).mpr ⟨column, fits⟩, nothing.mpr foreign⟩

/-- The condition that a column equals a list of two numbers. -/
def comparedWithTwo : Condition :=
  .of ⟨none, "age"⟩ .eq (.list [.int 1, .int 2])

/-- The condition is lowered to a text with one placeholder and to two arguments, of which only the
first is compared with. -/
theorem comparedWithTwo_bindsBoth :
    ofClause (.condition comparedWithTwo) = [.condition "\"age\" = ?" [.int 1, .int 2]] ∧
      tokens? "\"age\" = ?" = some [.name "age".toList, .word ['='], .word ['?']] ∧
      valueHolds .strict .eq (.scalar (.int 1)) comparedWithTwo.operand = .ok true ∧
      valueHolds .strict .eq (.scalar (.int 2)) comparedWithTwo.operand = .ok false ∧
      ¬ FullyBound comparedWithTwo := by
  refine ⟨rfl, rfl, rfl, rfl, fun bound => ?_⟩
  obtain ⟨-, fits⟩ := (fullyBound_iff comparedWithTwo).mp bound
  obtain ⟨literal, one⟩ := fits.compared List.mem_cons_self
  cases one

end Sql

end RecordQuery
