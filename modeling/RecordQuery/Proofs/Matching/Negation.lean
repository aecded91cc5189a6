import RecordQuery.Proofs.Sorting.RangeFilter

/-!
Operators and their negations. About a value that is not null two opposite operators give
opposite answers, or fail for the same literals. Only floats can be without an order: next to a
NaN the four inequalities are all false. Null satisfies no operator that compares, so neither an
operator nor its negation selects it.
-/

namespace RecordQuery

theorem Binary64.compare?_eq_none {x y : Binary64} :
    x.compare? y = none ↔ x.isNaN = true ∨ y.isNaN = true := by
  simp only [compare?, ite_eq_left_iff, reduceCtorEq, imp_false, not_not, Bool.or_eq_true]

theorem Operator.isNullCheck_of_orderings {op : Operator} (among : op ∈ orderings) :
    op.isNullCheck = false := by
  cases op with
  | isNull | isNotNull => simp [orderings] at among
  | eq | ne | gt | ge | lt | le | isIn | notIn | contains | startsWith | endsWith => rfl

namespace Comparison

variable {α : Type} {by' : Comparison α} {x y : α}

theorem holds_ne (x : α) {expected : List α} (nonempty : expected ≠ []) :
    by'.holds .ne x expected = !by'.holds .eq x expected := by
  cases expected with
  | nil => exact absurd rfl nonempty
  | cons y rest =>
    simp only [holds]
    cases by'.compare? x y with
    | none => rfl
    | some ordering => cases ordering <;> rfl

theorem holds_ge {ordering : Ordering} (compared : by'.compare? x y = some ordering)
    (rest : List α) : by'.holds .ge x (y :: rest) = !by'.holds .lt x (y :: rest) := by
  simp only [holds, compared]
  cases ordering <;> rfl

theorem holds_le {ordering : Ordering} (compared : by'.compare? x y = some ordering)
    (rest : List α) : by'.holds .le x (y :: rest) = !by'.holds .gt x (y :: rest) := by
  simp only [holds, compared]
  cases ordering <;> rfl

/-- Values without an order only differ. -/
theorem holds_of_unordered (unordered : by'.compare? x y = none) (rest : List α) {op : Operator}
    (among : op ∈ Operator.orderings) : by'.holds op x (y :: rest) = (op == .ne) := by
  cases op with
  | eq | ne | gt | ge | lt | le => simp only [holds, unordered]
  | isIn | notIn | isNull | isNotNull | contains | startsWith | endsWith =>
    simp [Operator.orderings] at among

end Comparison

/-- How a scalar is compared: what literals are read as, how such values compare, and the scalar
as one of them. -/
structure Reading where
  {α : Type}
  read? : Scalar → Option α
  by' : Comparison α
  value : α

def Scalar.reading : Scalar → Reading
  | .string s => ⟨asString?, .strings, s⟩
  | .int n => ⟨asInt?, .ints, n⟩
  | .uint n => ⟨asUInt?, .uints, n⟩
  | .float x => ⟨asFloat?, .floats, x⟩
  | .bool b => ⟨asBit?, .bits, Comparison.bit b⟩
  | .time t => ⟨asTimeText?, .strings, t.text⟩
  | .bytes bs => ⟨asHex?, .strings, Text.hexBytes bs⟩

/-- The literal can be read as a value of the kind. Lists and nested records compare with no
literal. -/
def Value.Reads (value : Value) (literal : Scalar) : Prop :=
  ∃ s y, value = .scalar s ∧ s.reading.read? literal = some y

/-- A float that is NaN, or is compared with what reads as NaN. -/
def Scalar.MeetsNaN (s literal : Scalar) : Prop :=
  ∃ x, s = .float x ∧
    (x.isNaN = true ∨ ∃ y, literal.asFloat? = some y ∧ y.isNaN = true)

/-- The value is NaN, or the first literal of the operand is one for it. -/
def Value.MeetsNaN (value : Value) (operand : Operand) : Prop :=
  ∃ s literal rest, value = .scalar s ∧ operand.literals = literal :: rest ∧ s.MeetsNaN literal

/-- Only next to a NaN a scalar and what is read have no order. -/
theorem Scalar.compare?_eq_none {s literal : Scalar} {y : s.reading.α}
    (reads : s.reading.read? literal = some y) :
    s.reading.by'.compare? s.reading.value y = none ↔ s.MeetsNaN literal := by
  cases s with
  | float x =>
    have reads : literal.asFloat? = some y := reads
    refine Binary64.compare?_eq_none.trans ⟨fun nan => ⟨x, rfl, ?_⟩, ?_⟩
    · exact nan.imp_right fun nan => ⟨y, reads, nan⟩
    · rintro ⟨_, ⟨⟩, nan | ⟨y', reads', nan⟩⟩
      · exact Or.inl nan
      · cases reads.symm.trans reads'
        exact Or.inr nan
  | string _ | int _ | uint _ | bool _ | time _ | bytes _ =>
    refine iff_of_false nofun ?_
    rintro ⟨x, ⟨⟩, -⟩

/-- Both fail, or they decide and disagree. -/
inductive Opposite : Except Error Bool → Except Error Bool → Prop
  | failures (e e' : Error) : Opposite (.error e) (.error e')
  | answers (answer : Bool) : Opposite (.ok answer) (.ok !answer)

namespace Matching

variable {semantics : NullSemantics} {op : Operator} {value : Value} {operand : Operand}

/-! The literals of an operand. -/

section ReadAll

variable {α : Type} {read? : Scalar → Option α} {kind : Kind} {literals : List Scalar}

theorem readAll_eq_ok {xs : List α} : readAll read? op kind literals = .ok xs ↔
    List.Forall₂ (fun literal x => read? literal = some x) literals xs := by
  induction literals generalizing xs with
  | nil => simp [readAll, eq_comm]
  | cons literal rest ih =>
    rw [readAll, List.forall₂_cons_left_iff]
    cases read? literal with
    | none => simp
    | some x => simp only [map_eq_ok, ih, Option.some.injEq, exists_and_left, exists_eq_left',
        eq_comm (a := xs)]

variable (op kind) in
theorem exists_readAll_eq_error : (∃ e, readAll read? op kind literals = .error e) ↔
    ∃ literal ∈ literals, read? literal = none := by
  induction literals with
  | nil => simp [readAll]
  | cons literal rest ih =>
    rw [readAll, List.exists_mem_cons_iff, ← ih]
    cases read? literal with
    | none => simp
    | some x => cases readAll read? op kind rest <;> simp [Except.map]

end ReadAll

theorem scalarHolds_eq (op : Operator) (s : Scalar) (literals : List Scalar) :
    scalarHolds op s literals = (readAll s.reading.read? op s.kind literals).map
      (s.reading.by'.holds op s.reading.value) := by
  cases s <;> rfl

section ScalarHolds

variable {s : Scalar} {literals : List Scalar}

theorem scalarHolds_eq_ok {answer : Bool} : scalarHolds op s literals = .ok answer ↔
    ∃ xs, List.Forall₂ (fun literal x => s.reading.read? literal = some x) literals xs ∧
      s.reading.by'.holds op s.reading.value xs = answer := by
  simp only [scalarHolds_eq, map_eq_ok, readAll_eq_ok]

/-- A comparison with literals fails exactly if one of them cannot be read. -/
theorem exists_scalarHolds_eq_error (op : Operator) :
    (∃ e, scalarHolds op s literals = .error e) ↔
      ∃ literal ∈ literals, s.reading.read? literal = none := by
  rw [← exists_readAll_eq_error op s.kind, scalarHolds_eq]
  cases readAll s.reading.read? op s.kind literals <;> simp [Except.map]

end ScalarHolds

/-- With a literal to compare with, the kind of the value decides. -/
theorem valueHolds_comparing (comparing : op.isNullCheck = false)
    (nonempty : operand.literals ≠ []) :
    valueHolds semantics op value (some operand) =
      match value with
      | .null => .ok false
      | .scalar s => scalarHolds op s operand.literals
      | .list _ | .nested _ =>
        .error (.mismatch (.compare op) value.kind (firstKind operand.literals)) := by
  cases op with
  | isNull | isNotNull => cases comparing
  | eq | ne | gt | ge | lt | le | isIn | notIn | contains | startsWith | endsWith =>
    cases value <;> simp [valueHolds, nonempty]

variable (semantics) in
/-- A comparison fails exactly if a literal cannot be read as a value of the kind. -/
theorem exists_valueHolds_eq_error (comparing : op.isNullCheck = false)
    (nonempty : operand.literals ≠ []) (notNull : value ≠ .null) :
    (∃ e, valueHolds semantics op value (some operand) = .error e) ↔
      ∃ literal ∈ operand.literals, ¬ value.Reads literal := by
  have unread : value.kind.isOrderable = false →
      ∃ literal ∈ operand.literals, ¬ value.Reads literal := by
    intro unordered
    obtain ⟨literal, mem⟩ := List.exists_mem_of_ne_nil _ nonempty
    refine ⟨literal, mem, ?_⟩
    rintro ⟨s, y, rfl, -⟩
    exact absurd s.kind_isOrderable (ne_true_of_eq_false unordered)
  rw [valueHolds_comparing comparing nonempty]
  cases value with
  | null => exact absurd rfl notNull
  | list _ | nested _ => exact iff_of_true ⟨_, rfl⟩ (unread rfl)
  | scalar s =>
    have reads_iff (literal : Scalar) :
        ¬ (Value.scalar s).Reads literal ↔ s.reading.read? literal = none := by
      simp [Value.Reads, Option.eq_none_iff_forall_ne_some]
    simp only [reads_iff]
    exact exists_scalarHolds_eq_error op

/-- All comparisons of a value fail together, or all of them decide. -/
theorem fail_or_decide (semantics : NullSemantics) (nonempty : operand.literals ≠ [])
    (notNull : value ≠ .null) :
    (∀ op : Operator, op.isNullCheck = false →
      ∃ e, valueHolds semantics op value (some operand) = .error e) ∨
    ∃ s xs, value = .scalar s ∧
      List.Forall₂ (fun literal x => s.reading.read? literal = some x) operand.literals xs ∧
      ∀ op : Operator, op.isNullCheck = false →
        valueHolds semantics op value (some operand) =
          .ok (s.reading.by'.holds op s.reading.value xs) := by
  cases value with
  | null => exact absurd rfl notNull
  | list _ | nested _ =>
    refine Or.inl fun op comparing => ⟨_, valueHolds_comparing comparing nonempty⟩
  | scalar s =>
    -- Whether the literals can be read does not depend on the operator.
    cases outcome : scalarHolds .eq s operand.literals with
    | error e =>
      refine Or.inl fun op comparing => ?_
      have unread := (exists_scalarHolds_eq_error .eq).mp ⟨e, outcome⟩
      rw [valueHolds_comparing comparing nonempty]
      exact (exists_scalarHolds_eq_error op).mpr unread
    | ok answer =>
      obtain ⟨xs, reads, -⟩ := scalarHolds_eq_ok.mp outcome
      refine Or.inr ⟨s, xs, rfl, reads, fun op comparing => ?_⟩
      rw [valueHolds_comparing comparing nonempty]
      exact scalarHolds_eq_ok.mpr ⟨xs, reads, rfl⟩

/-- How the operators that compare answer about one value that is not null. -/
structure Negates (semantics : NullSemantics) (value : Value) (operand : Operand) : Prop where
  /-- They all fail for the same literals. -/
  fails_iff : ∀ op : Operator, op.isNullCheck = false →
    ((∃ e, valueHolds semantics op value (some operand) = .error e) ↔
      ∃ literal ∈ operand.literals, ¬ value.Reads literal)
  equality : Opposite (valueHolds semantics .eq value (some operand))
    (valueHolds semantics .ne value (some operand))
  membership : Opposite (valueHolds semantics .isIn value (some operand))
    (valueHolds semantics .notIn value (some operand))
  ordered : ¬ value.MeetsNaN operand →
    Opposite (valueHolds semantics .lt value (some operand))
      (valueHolds semantics .ge value (some operand)) ∧
    Opposite (valueHolds semantics .gt value (some operand))
      (valueHolds semantics .le value (some operand))
  /-- Next to a NaN only `ne` holds, if all literals can be read. -/
  unordered : value.MeetsNaN operand → (∀ literal ∈ operand.literals, value.Reads literal) →
    ∀ op ∈ Operator.orderings, valueHolds semantics op value (some operand) = .ok (op == .ne)

theorem negates (semantics : NullSemantics) (nonempty : operand.literals ≠ [])
    (notNull : value ≠ .null) : Negates semantics value operand := by
  have fails_iff (op : Operator) (comparing : op.isNullCheck = false) :=
    exists_valueHolds_eq_error semantics comparing nonempty notNull
  rcases fail_or_decide semantics nonempty notNull with fail | ⟨s, xs, rfl, reads, decides⟩
  · have opposite (op op' : Operator) (comparing : op.isNullCheck = false)
        (comparing' : op'.isNullCheck = false) :
        Opposite (valueHolds semantics op value (some operand))
          (valueHolds semantics op' value (some operand)) := by
      obtain ⟨e, fails⟩ := fail op comparing
      obtain ⟨e', fails'⟩ := fail op' comparing'
      rw [fails, fails']
      exact .failures e e'
    refine ⟨fails_iff, opposite _ _ rfl rfl, opposite _ _ rfl rfl, fun _ => ?_, fun _ all => ?_⟩
    · exact ⟨opposite _ _ rfl rfl, opposite _ _ rfl rfl⟩
    · obtain ⟨literal, mem, unread⟩ := (fails_iff .eq rfl).mp (fail .eq rfl)
      exact absurd (all literal mem) unread
  · have opposite {op op' : Operator} (comparing : op.isNullCheck = false)
        (comparing' : op'.isNullCheck = false)
        (negates : s.reading.by'.holds op' s.reading.value xs =
          !s.reading.by'.holds op s.reading.value xs) :
        Opposite (valueHolds semantics op (.scalar s) (some operand))
          (valueHolds semantics op' (.scalar s) (some operand)) := by
      rw [decides op comparing, decides op' comparing', negates]
      exact .answers _
    obtain ⟨literal, rest, split⟩ := List.exists_cons_of_ne_nil nonempty
    rw [split] at reads
    obtain ⟨y, ys, first, -, rfl⟩ := List.forall₂_cons_left_iff.mp reads
    have meets_iff : (Value.scalar s).MeetsNaN operand ↔ s.MeetsNaN literal := by
      simp [Value.MeetsNaN, split]
    refine ⟨fails_iff, opposite rfl rfl (Comparison.holds_ne _ (List.cons_ne_nil y ys)),
      opposite rfl rfl rfl, fun apart => ?_, fun meets _ op among => ?_⟩
    · rw [meets_iff, ← Scalar.compare?_eq_none first] at apart
      obtain ⟨ordering, compared⟩ := Option.ne_none_iff_exists'.mp apart
      exact ⟨opposite rfl rfl (Comparison.holds_ge compared ys),
        opposite rfl rfl (Comparison.holds_le compared ys)⟩
    · rw [meets_iff, ← Scalar.compare?_eq_none first] at meets
      rw [decides op (Operator.isNullCheck_of_orderings among),
        Comparison.holds_of_unordered meets ys among]

/-- About a value that is not null, `eq` and `ne` disagree, and so do `in` and `notIn`. `lt` and
`ge` disagree, and so do `gt` and `le`, unless a NaN leaves them all false. Wherever one of them
fails all of them do. Null satisfies none of the operators that compare, and exactly one of the
two null checks, which never fail, holds of any value. -/
theorem operators_negate (semantics : NullSemantics) {operand : Operand}
    (nonempty : operand.literals ≠ []) :
    (∀ value, value ≠ .null → Negates semantics value operand) ∧
    (∀ op : Operator, op.isNullCheck = false →
      valueHolds semantics op .null (some operand) = .ok false) ∧
    ∀ value (anything : Option Operand), ∃ answer,
      valueHolds semantics .isNull value anything = .ok answer ∧
      valueHolds semantics .isNotNull value anything = .ok !answer := by
  refine ⟨fun value notNull => negates semantics nonempty notNull, fun op comparing => ?_,
    fun value anything => ⟨countsAsNull semantics value, rfl, rfl⟩⟩
  rw [valueHolds_comparing comparing nonempty]

def sampleFloat : Value := .scalar (.float ⟨0x3FF8000000000000⟩)

/-- A list for a float, whose first member reads as NaN. -/
def sampleOperand : Operand := .list [.string "NaN", .int 3]

/-- A float is neither less than the text of a NaN nor at least that. It may still be in a list
that has the text, or not. -/
theorem operators_negate_text :
    sampleOperand.literals ≠ [] ∧ sampleFloat.MeetsNaN sampleOperand ∧
    (∀ op ∈ Operator.orderings,
      valueHolds .strict op sampleFloat (some sampleOperand) = .ok (op == .ne)) ∧
    Opposite (valueHolds .strict .isIn sampleFloat (some sampleOperand))
      (valueHolds .strict .notIn sampleFloat (some sampleOperand)) ∧
    valueHolds .strict .notIn .null (some sampleOperand) = .ok false := by
  have nan : Scalar.asFloat? (.string "NaN") = some .nan := by decide +kernel
  have meets : sampleFloat.MeetsNaN sampleOperand :=
    ⟨_, _, _, rfl, rfl, _, rfl, Or.inr ⟨_, nan, by decide⟩⟩
  have nonempty : sampleOperand.literals ≠ [] := by decide
  obtain ⟨negates, null, -⟩ := operators_negate .strict nonempty
  have float := negates sampleFloat (by simp [sampleFloat])
  refine ⟨nonempty, meets, float.unordered meets ?_, float.membership, null .notIn rfl⟩
  intro literal mem
  rcases List.mem_cons.mp mem with rfl | mem
  · exact ⟨_, _, rfl, nan⟩
  · rw [List.mem_singleton.mp mem]
    exact ⟨_, _, rfl, rfl⟩

end Matching

end RecordQuery
