import RecordQuery.Proofs.Matching.Negation

/-!
Membership in a list, by equality. A value is in a list of literals exactly if it is equal to one
of them, and outside it exactly if it differs from all. Whether either question can be answered is
a matter of each literal alone, so neither the order of the literals nor how often they are listed
matters, except that a mismatch names the first one that cannot be read.
-/

namespace RecordQuery

theorem Binary64.compare?_eq_eq_comm {x y : Binary64} :
    x.compare? y = some .eq ↔ y.compare? x = some .eq := by
  simp only [compare?, Bool.or_comm y.isNaN]
  split
  · exact Iff.rfl
  · simp only [Option.some.injEq, Int.compare_eq_eq]
    exact eq_comm

namespace Comparison

variable {α β : Type} {by' : Comparison α}

theorem same_iff {x y : α} : by'.same x y = true ↔ by'.compare? x y = some .eq :=
  beq_iff_eq

/-- Values that compare by an order of their keys are equal both ways round. -/
theorem same_comm_of_key [Ord β] [Std.OrientedOrd β] (key : α → β)
    (compares : ∀ x y, by'.compare? x y = some (compare (key x) (key y))) (x y : α) :
    by'.same x y = by'.same y x := by
  rw [Bool.eq_iff_iff, same_iff, same_iff, compares, compares, Option.some.injEq,
    Option.some.injEq]
  exact Std.OrientedCmp.eq_comm

theorem holds_eq (x y : α) (rest : List α) : by'.holds .eq x (y :: rest) = by'.same x y := by
  simp only [holds, same]
  cases by'.compare? x y with
  | none => rfl
  | some ordering => cases ordering <;> rfl

end Comparison

/-- Being equal is mutual in every kind. -/
theorem Scalar.same_comm (s : Scalar) (x y : s.reading.α) :
    s.reading.by'.same x y = s.reading.by'.same y x := by
  cases s with
  | float _ =>
    rw [Bool.eq_iff_iff, Comparison.same_iff, Comparison.same_iff]
    exact Binary64.compare?_eq_eq_comm
  | int _ => exact Comparison.same_comm_of_key Int64.toInt (fun _ _ => rfl) x y
  | uint _ => exact Comparison.same_comm_of_key UInt64.toNat (fun _ _ => rfl) x y
  | bool _ => exact Comparison.same_comm_of_key (fun n : Nat => n) (fun _ _ => rfl) x y
  | string _ | time _ | bytes _ =>
    exact Comparison.same_comm_of_key (fun t : String => t) (fun _ _ => rfl) x y

namespace Matching

variable {op : Operator} {kind : Kind} {s : Scalar} {literals others : List Scalar}

/-- What is reported of a literal that cannot be read as a value of the kind. -/
def unreadable (op : Operator) (kind : Kind) (literal : Scalar) : Error :=
  .mismatch (.compare op) kind (literal.kind.name ++ " " ++ literal.text)

/-- The first literal that cannot be read is reported. -/
theorem readAll_eq_error {α : Type} {read? : Scalar → Option α} {e : Error} :
    readAll read? op kind literals = .error e ↔ ∃ before literal after,
      literals = before ++ literal :: after ∧ (∀ l ∈ before, read? l ≠ none) ∧
      read? literal = none ∧ e = unreadable op kind literal := by
  induction literals with
  | nil => simp [readAll]
  | cons l rest ih =>
    rw [exists_split_cons, ← ih, readAll]
    cases read? l with
    | none => simp [unreadable, eq_comm]
    | some x => cases readAll read? op kind rest <;> simp [Except.map]

/-- Membership can be asked of a list without members too. -/
theorem valueHolds_membership (semantics : NullSemantics) (membership : op.takesList = true)
    (s : Scalar) (operand : Operand) :
    valueHolds semantics op (.scalar s) (some operand) = scalarHolds op s operand.literals := by
  cases op with
  | isIn | notIn => simp [valueHolds, Operator.takesList]
  | eq | ne | gt | ge | lt | le | isNull | isNotNull | contains | startsWith | endsWith =>
    cases membership

theorem valueHolds_single (semantics : NullSemantics) (op : Operator)
    (comparing : op.isNullCheck = false) (s literal : Scalar) :
    valueHolds semantics op (.scalar s) (some (.single literal)) = scalarHolds op s [literal] :=
  valueHolds_comparing comparing (List.cons_ne_nil literal [])

theorem scalarHolds_eq_error {e : Error} : scalarHolds op s literals = .error e ↔
    ∃ before literal after, literals = before ++ literal :: after ∧
      (∀ l ∈ before, s.reading.read? l ≠ none) ∧ s.reading.read? literal = none ∧
      e = unreadable op s.kind literal := by
  rw [← readAll_eq_error, scalarHolds_eq]
  cases readAll s.reading.read? op s.kind literals <;> simp [Except.map]

/-- Equality with one literal is that of the value with what the literal is read as. -/
theorem scalarHolds_eq_singleton {literal : Scalar} {x : s.reading.α}
    (reads : s.reading.read? literal = some x) :
    scalarHolds .eq s [literal] = .ok (s.reading.by'.same s.reading.value x) :=
  scalarHolds_eq_ok.mpr ⟨[x], .cons reads .nil, Comparison.holds_eq _ _ _⟩

theorem scalarHolds_ne_singleton {literal : Scalar} {x : s.reading.α}
    (reads : s.reading.read? literal = some x) :
    scalarHolds .ne s [literal] = .ok !s.reading.by'.same s.reading.value x := by
  refine scalarHolds_eq_ok.mpr ⟨[x], .cons reads .nil, ?_⟩
  rw [Comparison.holds_ne _ (List.cons_ne_nil x []), Comparison.holds_eq]

/-- Some member of the list is equal to the value, if all of them can be read. -/
theorem any_same_iff {xs : List s.reading.α}
    (reads : List.Forall₂ (fun literal x => s.reading.read? literal = some x) literals xs) :
    (xs.any fun x => s.reading.by'.same x s.reading.value) = true ↔
      ∃ literal ∈ literals, scalarHolds .eq s [literal] = .ok true := by
  induction reads with
  | nil => simp
  | cons first rest ih =>
    rw [List.any_cons, Bool.or_eq_true, ih, List.exists_mem_cons_iff,
      scalarHolds_eq_singleton first, Scalar.same_comm, Except.ok.injEq]

/-- No member of the list is equal to the value exactly if all of them differ from it. -/
theorem not_any_same_iff {xs : List s.reading.α}
    (reads : List.Forall₂ (fun literal x => s.reading.read? literal = some x) literals xs) :
    (!xs.any fun x => s.reading.by'.same x s.reading.value) = true ↔
      ∀ literal ∈ literals, scalarHolds .ne s [literal] = .ok true := by
  induction reads with
  | nil => simp
  | cons first rest ih =>
    rw [List.any_cons, Bool.not_or, Bool.and_eq_true, ih, List.forall_mem_cons,
      scalarHolds_ne_singleton first, Scalar.same_comm, Except.ok.injEq]

/-- What membership in a list of literals says, by equality with each of them. -/
structure MemberByEquality (semantics : NullSemantics) (s : Scalar) (literals : List Scalar) :
    Prop where
  /-- Membership cannot be decided exactly where equality with some literal cannot. -/
  fails_iff : ∀ op ∈ [Operator.isIn, .notIn],
    ((∃ e, valueHolds semantics op (.scalar s) (some (.list literals)) = .error e) ↔
      ∃ literal ∈ literals, ∃ e,
        valueHolds semantics .eq (.scalar s) (some (.single literal)) = .error e)
  isIn_iff : ∀ answer, valueHolds semantics .isIn (.scalar s) (some (.list literals)) = .ok answer →
    (answer = true ↔ ∃ literal ∈ literals,
      valueHolds semantics .eq (.scalar s) (some (.single literal)) = .ok true)
  notIn_iff : ∀ answer,
    valueHolds semantics .notIn (.scalar s) (some (.list literals)) = .ok answer →
    (answer = true ↔ ∀ literal ∈ literals,
      valueHolds semantics .ne (.scalar s) (some (.single literal)) = .ok true)

theorem takesList_of_mem (membership : op ∈ [Operator.isIn, .notIn]) : op.takesList = true := by
  rcases List.mem_cons.mp membership with rfl | membership
  · rfl
  · rw [List.mem_singleton.mp membership]
    rfl

theorem memberByEquality (semantics : NullSemantics) (s : Scalar) (literals : List Scalar) :
    MemberByEquality semantics s literals := by
  refine ⟨fun op membership => ?_, fun answer decided => ?_, fun answer decided => ?_⟩
  · simp only [valueHolds_membership semantics (takesList_of_mem membership),
      valueHolds_single semantics .eq rfl, exists_scalarHolds_eq_error, Operand.literals,
      List.mem_singleton, exists_eq_left]
  · rw [valueHolds_membership semantics rfl] at decided
    obtain ⟨xs, reads, rfl⟩ := scalarHolds_eq_ok.mp decided
    simp only [valueHolds_single semantics .eq rfl]
    exact any_same_iff reads
  · rw [valueHolds_membership semantics rfl] at decided
    obtain ⟨xs, reads, rfl⟩ := scalarHolds_eq_ok.mp decided
    simp only [valueHolds_single semantics .ne rfl]
    exact not_any_same_iff reads

/-- The same answer, or a mismatch in both, which may report different literals. -/
inductive Alike (op : Operator) (kind : Kind) : Except Error Bool → Except Error Bool → Prop
  | answers (answer : Bool) : Alike op kind (.ok answer) (.ok answer)
  | mismatches (literal literal' : Scalar) :
      Alike op kind (.error (unreadable op kind literal)) (.error (unreadable op kind literal'))

/-- Results that fail together and say yes together are alike. -/
theorem alike_of_iff
    (fails : (∃ e, scalarHolds op s literals = .error e) ↔ ∃ e, scalarHolds op s others = .error e)
    (holds : ∀ answer answer', scalarHolds op s literals = .ok answer →
      scalarHolds op s others = .ok answer' → (answer = true ↔ answer' = true)) :
    Alike op s.kind (scalarHolds op s literals) (scalarHolds op s others) := by
  cases outcome : scalarHolds op s literals with
  | error e =>
    obtain ⟨e', outcome'⟩ := fails.mp ⟨e, outcome⟩
    obtain ⟨_, literal, _, -, -, -, rfl⟩ := scalarHolds_eq_error.mp outcome
    obtain ⟨_, literal', _, -, -, -, rfl⟩ := scalarHolds_eq_error.mp outcome'
    rw [outcome']
    exact .mismatches literal literal'
  | ok answer =>
    cases outcome' : scalarHolds op s others with
    | error e =>
      obtain ⟨e', failed⟩ := fails.mpr ⟨e, outcome'⟩
      cases outcome.symm.trans failed
    | ok answer' =>
      rw [Bool.eq_iff_iff.mpr (holds answer answer' outcome outcome')]
      exact .answers answer'

/-- Membership in a list is equality with one of its members, and its negation is inequality with
all of them. Both fail exactly if equality with some member fails. So the order of the members and
how often they are listed change at most which literal a mismatch reports. -/
theorem membership_by_equality (semantics : NullSemantics) (s : Scalar) (literals : List Scalar) :
    MemberByEquality semantics s literals ∧
    ∀ others : List Scalar, (∀ literal, literal ∈ others ↔ literal ∈ literals) →
      ∀ op ∈ [Operator.isIn, .notIn],
        Alike op s.kind (valueHolds semantics op (.scalar s) (some (.list literals)))
          (valueHolds semantics op (.scalar s) (some (.list others))) := by
  refine ⟨memberByEquality semantics s literals, fun others same op membership => ?_⟩
  simp only [valueHolds_membership semantics (takesList_of_mem membership), Operand.literals]
  refine alike_of_iff ?_ fun answer answer' decided decided' => ?_
  · simp only [exists_scalarHolds_eq_error, same]
  · obtain ⟨xs, reads, rfl⟩ := scalarHolds_eq_ok.mp decided
    obtain ⟨ys, reads', rfl⟩ := scalarHolds_eq_ok.mp decided'
    rcases List.mem_cons.mp membership with rfl | membership
    · refine (any_same_iff reads).trans ((any_same_iff reads').trans ?_).symm
      simp only [same]
    · rw [List.mem_singleton.mp membership]
      refine (not_any_same_iff reads).trans ((not_any_same_iff reads').trans ?_).symm
      simp only [same]

/-- Literals for a float: the text of a NaN, a whole number and the text of one and a half. -/
def mixedMembers : List Scalar := [.string "NaN", .int 3, .string "1.5"]

/-- One and a half is in the list by its text, although the first member is a NaN. The members may
be listed backwards and twice. -/
theorem membership_by_equality_mixed :
    valueHolds .strict .isIn sampleFloat (some (.list mixedMembers)) = .ok true ∧
    (∃ literal ∈ mixedMembers,
      valueHolds .strict .eq sampleFloat (some (.single literal)) = .ok true) ∧
    Alike .isIn .float (valueHolds .strict .isIn sampleFloat (some (.list mixedMembers)))
      (valueHolds .strict .isIn sampleFloat
        (some (.list (mixedMembers.reverse ++ mixedMembers)))) := by
  have holds : valueHolds .strict .isIn sampleFloat (some (.list mixedMembers)) = .ok true := by
    rfl
  obtain ⟨member, alike⟩ := membership_by_equality .strict (.float ⟨0x3FF8000000000000⟩) mixedMembers
  refine ⟨holds, (member.isIn_iff true holds).mp rfl, alike _ (fun literal => ?_) _ ?_⟩
  · simp only [List.mem_append, List.mem_reverse, or_self]
  · exact List.mem_cons_self

end Matching

end RecordQuery
