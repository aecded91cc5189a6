import RecordQuery.Proofs.Filter.ReadOperand
import RecordQuery.Proofs.Sql.Quoting

/-!
The conditions of a filter one by one. A filter that is accepted has a part for each of its
conditions, which reads as this condition alone: what the scanner takes is a clause text, and it goes
on only behind it. So the parts stand in the order of the conditions and no two of them overlap. What
lies between them is of no account. Each condition names its column, and has the operand that its
operator wants.
-/

namespace RecordQuery

/-- The texts stand in the other one, each behind the one before it. -/
inductive StandIn : List (List Char) → List Char → Prop
  | nil (text : List Char) : StandIn [] text
  | cons (before part : List Char) {parts : List (List Char)} {after : List Char}
      (later : StandIn parts after) : StandIn (part :: parts) (before ++ (part ++ after))

/-- More text in front moves the parts along. -/
theorem StandIn.behind {parts : List (List Char)} {text : List Char} (front : List Char)
    (stand : StandIn parts text) : StandIn parts (front ++ text) := by
  cases stand with
  | nil => exact .nil _
  | cons before part later =>
    rw [← List.append_assoc]
    exact .cons (front ++ before) part later

/-- The condition names its column, and has the operand that its operator wants. -/
structure Condition.WellFormed (c : Condition) : Prop where
  named : Filter.IsReference c.target
  nothing : c.operand = none ↔ c.op = .isNull ∨ c.op = .isNotNull
  list : (∃ literals, c.operand = some (.list literals)) ↔ c.op = .isIn ∨ c.op = .notIn
  single : (∃ literal, c.operand = some (.single literal)) ↔
    c.op ∉ [.isNull, .isNotNull, .isIn, .notIn]

namespace Filter

open Text

/-! From the text to its pieces. -/

/-- If all pieces of a text state a condition, they are those of clause texts in it. -/
theorem exists_clauseTexts_of_pieces {cs : List Char} {conditions : List Condition}
    (states : (pieces cs).mapM Piece.condition = .ok conditions) :
    ∃ ts : List ClauseText, StandIn (ts.map ClauseText.chars) cs ∧
      List.Forall₂ (fun t c => t.piece.condition = .ok c) ts conditions := by
  -- the scan goes on behind a whole clause text, so not with the next character
  induction size : cs.length using Nat.strong_induction_on generalizing cs conditions with
  | _ n ih =>
    cases cs with
    | nil =>
      cases states
      exact ⟨[], .nil [], .nil⟩
    | cons c cs =>
      rw [List.length_cons] at size
      cases found : piece? (c :: cs) with
      | none =>
        rw [pieces_cons_of_none found] at states
        obtain ⟨ts, stand, alone⟩ := ih cs.length (by omega) states rfl
        exact ⟨ts, stand.behind [c], alone⟩
      | some p =>
        have run := states
        rw [pieces_cons_of_some found] at run
        obtain ⟨first, -, first_ok, -, -⟩ := mapM_cons_eq_ok.mp run
        obtain ⟨t, rest, rfl, split⟩ := clauseText_of_piece? found first_ok
        rw [split] at found
        rw [split, pieces_of_piece? t found] at states
        obtain ⟨first, others, first_ok, others_ok, rfl⟩ := mapM_cons_eq_ok.mp states
        have shorter : rest.length < n := by
          have whole := congrArg List.length split
          have nonempty : 0 < t.chars.length := by simp [ClauseText.chars, Identifier.chars]
          rw [List.length_cons, List.length_append] at whole
          omega
        obtain ⟨ts, stand, alone⟩ := ih rest.length shorter others_ok rfl
        rw [split]
        exact ⟨t :: ts, .cons [] t.chars stand, .cons first_ok alone⟩

/-- A filter that is accepted states its conditions piece by piece. -/
theorem mapM_condition_of_read {s : String} {conditions : List Condition}
    (accepted : read s = .ok conditions) :
    (pieces (trimChars s.toList)).mapM Piece.condition = .ok conditions := by
  unfold read at accepted
  dsimp only at accepted
  split at accepted
  next blank =>
    rw [List.isEmpty_iff] at blank
    rw [blank]
    exact accepted
  next =>
    split at accepted
    · cases accepted
    · exact accepted

/-! The form of a condition. -/

theorem isNullCheck_iff (op : Operator) : op.isNullCheck = true ↔ op = .isNull ∨ op = .isNotNull := by
  cases op <;> decide

theorem takesList_iff (op : Operator) : op.takesList = true ↔ op = .isIn ∨ op = .notIn := by
  cases op <;> decide

theorem comparesAlone_iff (op : Operator) : op ∉ [.isNull, .isNotNull, .isIn, .notIn] ↔
    op.isNullCheck = false ∧ op.takesList = false := by
  cases op <;> decide

theorem wellFormed_of_read {s : String} {conditions : List Condition}
    (accepted : read s = .ok conditions) {c : Condition} (mem : c ∈ conditions) :
    c.WellFormed := by
  have named := read_isReference accepted c mem
  have operand := readOperand_of_read accepted mem
  obtain ⟨target, op, _⟩ := c
  cases operand with
  | nothing checks =>
    obtain rfl | rfl := (isNullCheck_iff op).mp checks <;>
      exact ⟨named, by simp, by simp, by simp⟩
  | single compares single =>
    have alone := (comparesAlone_iff op).mpr ⟨compares, single⟩
    refine ⟨named, iff_of_false nofun ?_, iff_of_false nofun ?_, iff_of_true ⟨_, rfl⟩ alone⟩
    · rw [← isNullCheck_iff, compares]
      exact Bool.false_ne_true
    · rw [← takesList_iff, single]
      exact Bool.false_ne_true
  | one takes =>
    obtain rfl | rfl := (takesList_iff op).mp takes <;>
      exact ⟨named, by simp, by simp, by simp⟩
  | list takes =>
    obtain rfl | rfl := (takesList_iff op).mp takes <;>
      exact ⟨named, by simp, by simp, by simp⟩

/-- Each condition of a filter that is accepted comes from its own part of the filter, which reads
as this condition alone, and is well formed. -/
theorem read_piecewise {s : String} {conditions : List Condition}
    (accepted : read s = .ok conditions) :
    (∃ parts, StandIn parts (trimChars s.toList) ∧
      List.Forall₂ (fun part c => read (String.ofList part) = .ok [c]) parts conditions) ∧
    ∀ c ∈ conditions, c.WellFormed := by
  obtain ⟨ts, stand, alone⟩ := exists_clauseTexts_of_pieces (mapM_condition_of_read accepted)
  refine ⟨⟨ts.map ClauseText.chars, stand, ?_⟩, fun c mem => wellFormed_of_read accepted mem⟩
  rw [List.forall₂_map_left_iff]
  refine alone.imp fun t c states => ?_
  have read := read_text t
  rw [states] at read
  exact read

/-- Words before, between and behind the clauses belong to none of their parts. -/
theorem read_piecewise_sample :
    read " where t_2.c2 isNull, or say a eq 1!" = .ok [nullCondition, plainCondition] ∧
      (∃ parts, StandIn parts (trimChars " where t_2.c2 isNull, or say a eq 1!".toList) ∧
        List.Forall₂ (fun part c => read (String.ofList part) = .ok [c]) parts
          [nullCondition, plainCondition]) ∧
      ∀ c ∈ [nullCondition, plainCondition], c.WellFormed :=
  ⟨rfl, read_piecewise rfl⟩

end Filter

end RecordQuery
