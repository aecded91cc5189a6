import RecordQuery.Proofs.Query.Stages
import RecordQuery.Proofs.Sorting.SortProblems

/-!
Range filters over sorted records. A condition reads its operand as a value of the kind of the
column and then compares, and a sort compares two values by their kinds. Both order the values of
every kind alike, floats apart, so a list of records in ascending order of a column is cut in two
by the records below a bound.
-/

namespace RecordQuery

/-- Filters and sorting order the values of the kind alike. Floats are left out, since NaN comes
somewhere in a sorted list, but a filter compares it with nothing. -/
def Kind.isExact : Kind → Bool
  | .string | .int | .uint | .bool | .time | .bytes => true
  | .null | .float | .list | .snapshot => false

namespace Operator

/-- The operators that look at the order of two values. -/
def orderings : List Operator :=
  [.eq, .ne, .gt, .ge, .lt, .le]

theorem exists_holdsFor? {op : Operator} (among : op ∈ orderings) (ordering : Ordering) :
    ∃ decision, op.holdsFor? ordering = some decision := by
  cases op with
  | eq | ne | gt | ge | lt | le => exact ⟨_, rfl⟩
  | isIn | notIn | isNull | isNotNull | contains | startsWith | endsWith =>
    simp [orderings] at among

/-- The operator that only the one order passes. -/
def ofOrdering : Ordering → Operator
  | .lt => .lt
  | .eq => .eq
  | .gt => .gt

theorem holdsFor?_ofOrdering (demanded ordering : Ordering) :
    (ofOrdering demanded).holdsFor? ordering = some (ordering == demanded) := by
  cases demanded <;> rfl

theorem mem_ofOrdering {op : Operator} :
    op ∈ [Operator.lt, .eq, .gt] ↔ ∃ ordering, op = ofOrdering ordering := by
  constructor
  · intro among
    simp only [List.mem_cons, List.not_mem_nil, or_false] at among
    obtain rfl | rfl | rfl := among
    · exact ⟨.lt, rfl⟩
    · exact ⟨.eq, rfl⟩
    · exact ⟨.gt, rfl⟩
  · rintro ⟨ordering, rfl⟩
    cases ordering <;> simp [ofOrdering]

theorem ofOrdering_mem_orderings (ordering : Ordering) : ofOrdering ordering ∈ orderings := by
  cases ordering <;> simp [ofOrdering, orderings]

end Operator

/-- An ordering operator decides by the order of the value and the one operand. -/
theorem Comparison.holds_of_compare {α : Type} {by' : Comparison α} {x y : α} {ordering : Ordering}
    (compared : by'.compare? x y = some ordering) {op : Operator} {decision : Bool}
    (decides : op.holdsFor? ordering = some decision) : by'.holds op x [y] = decision := by
  cases op with
  | eq | ne | gt | ge | lt | le => simp only [holds, compared, decides, Option.getD_some]
  | isIn | notIn | isNull | isNotNull | contains | startsWith | endsWith => cases decides

namespace Matching

variable {semantics : NullSemantics} {op : Operator} {a b : Scalar} {decision : Bool}

theorem readAll_holds {α : Type} {read? : Scalar → Option α} {by' : Comparison α} {x y : α}
    {kind : Kind} {ordering : Ordering} (reads : read? b = some y)
    (compared : by'.compare? x y = some ordering)
    (decides : op.holdsFor? ordering = some decision) :
    (readAll read? op kind [b]).map (by'.holds op x) = .ok decision := by
  simp only [readAll, reads, Except.map, Comparison.holds_of_compare compared decides]

/-- A literal of the kind of the value is read as it is, and compared as sorting compares it. -/
theorem scalarHolds_of_kind (exactKind : a.kind.isExact = true) (same : a.kind = b.kind)
    (decides : op.holdsFor? (placeOrder a.place b.place) = some decision) :
    scalarHolds op a [b] = .ok decision := by
  have compared := Scalar.order?_of_kind same
  cases a <;> cases b <;> simp only [Scalar.kind, reduceCtorEq] at same
  case float.float => cases exactKind
  all_goals
    rw [scalarHolds]
    exact readAll_holds rfl compared decides

theorem valueHolds_of_kind (exactKind : a.kind.isExact = true) (same : a.kind = b.kind)
    (decides : op.holdsFor? (placeOrder a.place b.place) = some decision) :
    valueHolds semantics op (.scalar a) (some (.single b)) = .ok decision := by
  rw [← scalarHolds_of_kind exactKind same decides]
  cases op with
  | eq | ne | gt | ge | lt | le => rfl
  | isIn | notIn | isNull | isNotNull | contains | startsWith | endsWith => cases decides

/-- Sorting has a place for NaN, but a filter does not find it equal to itself. -/
example : Value.order (.scalar (.float .nan)) (.scalar (.float .nan)) = .ok .eq ∧
    valueHolds .strict .eq (.scalar (.float .nan)) (some (.single (.float .nan))) = .ok false :=
  ⟨by rfl, by rfl⟩

/-- The operator holds between the two scalars. -/
def Holds (semantics : NullSemantics) (op : Operator) (a b : Scalar) : Prop :=
  valueHolds semantics op (.scalar a) (some (.single b)) = .ok true

theorem holds_iff (exactKind : a.kind.isExact = true) (same : a.kind = b.kind)
    (among : op ∈ Operator.orderings) :
    Holds semantics op a b ↔ op.holdsFor? (placeOrder a.place b.place) = some true := by
  obtain ⟨decision, decides⟩ := Operator.exists_holdsFor? among (placeOrder a.place b.place)
  simp only [Holds, valueHolds_of_kind exactKind same decides, decides, Except.ok.injEq,
    Option.some.injEq]

/-- Each of `lt`, `eq` and `gt` holds in the one order that it demands. -/
theorem holds_ofOrdering_iff (exactKind : a.kind.isExact = true) (same : a.kind = b.kind)
    (ordering : Ordering) :
    Holds semantics (.ofOrdering ordering) a b ↔ placeOrder a.place b.place = ordering := by
  rw [holds_iff exactKind same (Operator.ofOrdering_mem_orderings ordering),
    Operator.holdsFor?_ofOrdering, Option.some.injEq, beq_iff_eq]

theorem existsUnique_holds (exactKind : a.kind.isExact = true) (same : a.kind = b.kind) :
    ∃! op, op ∈ [Operator.lt, .eq, .gt] ∧ Holds semantics op a b := by
  refine ⟨.ofOrdering (placeOrder a.place b.place), ⟨Operator.mem_ofOrdering.mpr ⟨_, rfl⟩, ?_⟩, ?_⟩
  · exact (holds_ofOrdering_iff exactKind same _).mpr rfl
  · rintro op ⟨among, holds⟩
    obtain ⟨ordering, rfl⟩ := Operator.mem_ofOrdering.mp among
    rw [(holds_ofOrdering_iff exactKind same ordering).mp holds]

theorem Holds.lt_trans {c : Scalar} (exactKind : b.kind.isExact = true) (sameA : a.kind = b.kind)
    (sameC : b.kind = c.kind) (first : Holds semantics .lt a b) (second : Holds semantics .lt b c) :
    Holds semantics .lt a c := by
  have exactKindA : a.kind.isExact = true := sameA ▸ exactKind
  have less := (holds_ofOrdering_iff exactKindA sameA .lt).mp first
  have less' := (holds_ofOrdering_iff exactKind sameC .lt).mp second
  refine (holds_ofOrdering_iff exactKindA (sameA.trans sameC) .lt).mpr ?_
  exact Std.TransCmp.lt_trans less less'

end Matching

namespace Value

variable {nulls : NullPlacement} {direction : Direction} {b : Scalar} {x y : Value}

theorem order_null_ne (x : Value) (ordering : Ordering) : x.order .null ≠ .ok ordering := by
  cases x <;> nofun

theorem order_lt_of_ne_gt {x y z : Value} {ordering : Ordering}
    (compared : x.order y = .ok ordering) (upTo : ordering ≠ .gt) (less : y.order z = .ok .lt) :
    x.order z = .ok .lt := by
  obtain ⟨a, c, rfl, rfl, same, rfl⟩ := order_eq_ok.mp compared
  obtain ⟨_, b, middle, rfl, same', less⟩ := order_eq_ok.mp less
  cases middle
  have trans := Std.TransCmp.lt_of_isLE_of_lt (Ordering.isLE_iff_ne_gt.mpr upTo) less.symm
  exact order_eq_ok.mpr ⟨a, b, rfl, rfl, same.trans same', trans.symm⟩

/-- The value is less than the bound. -/
def Below (b : Scalar) (x : Value) : Prop :=
  x.order (.scalar b) = .ok .lt

/-- What is not after a null is null, if nulls come first. -/
theorem eq_null_of_precedes (inOrder : Precedes nulls direction x .null ∨ Ties x .null)
    (first : nulls = .first) : x = .null := by
  rcases inOrder with precedes | ties
  · cases precedes with
    | nullFirst _ notNull => cases notNull
    | nullLast last _ => cases first.symm.trans last
    | less _ compared | greater _ compared => exact absurd compared (order_null_ne x _)
  · cases ties with
    | nulls => rfl
    | equal compared => exact absurd compared (order_null_ne x _)

/-- What is not after a value below the bound is below it too, unless it is a null that comes
first. -/
theorem Below.of_precedes (below : Below b y)
    (inOrder : Precedes nulls direction x y ∨ Ties x y) (upward : direction ≠ .descending) :
    Below b x ∨ (nulls = .first ∧ x = .null) := by
  rcases inOrder with precedes | ties
  · cases precedes with
    | nullFirst first _ => exact Or.inr ⟨first, rfl⟩
    | nullLast _ _ => cases below
    | less _ compared => exact Or.inl (order_lt_of_ne_gt compared nofun below)
    | greater downward _ => exact absurd downward upward
  · cases ties with
    | nulls => cases below
    | equal compared => exact Or.inl (order_lt_of_ne_gt compared nofun below)

end Value

namespace Schema

variable {ρ : Type} {schema : Schema ρ} {target : Reference} {r : ρ}

/-- The value of a record in a column. -/
def valueOf (schema : Schema ρ) (target : Reference) (r : ρ) : Except Error Value := do
  (← schema.reflect r).lookup target

/-- The record has a value in the column, which is null or of the kind. -/
def HasKind (schema : Schema ρ) (target : Reference) (kind : Kind) (r : ρ) : Prop :=
  ∃ x, schema.valueOf target r = .ok x ∧ (x = .null ∨ x.kind = kind)

/-- The records stand in the order of the sort key. -/
def Sorted (schema : Schema ρ) (nulls : NullPlacement) (key : SortKey) (records : List ρ) : Prop :=
  records.Pairwise fun r r' => ∃ x y, schema.valueOf key.target r = .ok x ∧
    schema.valueOf key.target r' = .ok y ∧
    (Value.Precedes nulls key.direction x y ∨ Value.Ties x y)

/-- The record has a value below the bound. -/
def Below (schema : Schema ρ) (target : Reference) (b : Scalar) (r : ρ) : Prop :=
  ∃ x, schema.valueOf target r = .ok x ∧ Value.Below b x

/-- The value of the record is a null, and nulls come first. -/
def LeadingNull (schema : Schema ρ) (nulls : NullPlacement) (target : Reference) (r : ρ) : Prop :=
  nulls = .first ∧ schema.valueOf target r = .ok .null

theorem valueOf_eq_ok {x : Value} : schema.valueOf target r = .ok x ↔
    ∃ s, schema.reflect r = .ok s ∧ s.lookup target = .ok x :=
  bind_eq_ok

theorem valueOf_of_reflect {s : Snapshot} (reads : schema.reflect r = .ok s) :
    schema.valueOf target r = s.lookup target := by
  simp only [valueOf, reads, bind, Except.bind]

theorem below_iff {b : Scalar} {x : Value} (value : schema.valueOf target r = .ok x) :
    schema.Below target b r ↔ Value.Below b x := by
  simp only [Below, value, Except.ok.injEq, exists_eq_left']

theorem LeadingNull.not_below {nulls : NullPlacement} {b : Scalar}
    (leads : schema.LeadingNull nulls target r) : ¬ schema.Below target b r := by
  rw [below_iff leads.2]
  exact nofun

variable {nulls : NullPlacement} {key : SortKey} {records : List ρ}

theorem Sorted.leadingNull (sorted : schema.Sorted nulls key records) :
    records.Pairwise fun r r' =>
      schema.LeadingNull nulls key.target r' → schema.LeadingNull nulls key.target r := by
  refine sorted.imp fun inOrder leads => ?_
  obtain ⟨x, y, hx, hy, inOrder⟩ := inOrder
  cases hy.symm.trans leads.2
  exact ⟨leads.1, Value.eq_null_of_precedes inOrder leads.1 ▸ hx⟩

theorem Sorted.below (sorted : schema.Sorted nulls key records)
    (upward : key.direction ≠ .descending) (b : Scalar) :
    records.Pairwise fun r r' => schema.Below key.target b r' →
      schema.Below key.target b r ∨ schema.LeadingNull nulls key.target r := by
  refine sorted.imp fun inOrder below => ?_
  obtain ⟨x, y, hx, hy, inOrder⟩ := inOrder
  rw [below_iff hx]
  refine (((below_iff hy).mp below).of_precedes inOrder upward).imp_right fun leads => ?_
  exact ⟨leads.1, leads.2 ▸ hx⟩

end Schema

/-- What holds only of members that follow others of which it holds, holds of the first ones. -/
theorem exists_append_of_pairwise {α : Type} {p : α → Prop} {xs : List α}
    (closed : xs.Pairwise fun x y => p y → p x) :
    ∃ front back, xs = front ++ back ∧ (∀ x ∈ front, p x) ∧ ∀ x ∈ back, ¬ p x := by
  induction xs with
  | nil => exact ⟨[], [], rfl, nofun, nofun⟩
  | cons x rest ih =>
    rw [List.pairwise_cons] at closed
    by_cases holds : p x
    · obtain ⟨front, back, rfl, inFront, inBack⟩ := ih closed.2
      exact ⟨x :: front, back, rfl, List.forall_mem_cons.mpr ⟨holds, inFront⟩, inBack⟩
    · refine ⟨[], x :: rest, rfl, nofun, List.forall_mem_cons.mpr ⟨holds, ?_⟩⟩
      exact fun y mem holdsLater => holds (closed.1 y mem holdsLater)

namespace Query

variable {ρ : Type} {schema : Schema ρ} {options : EvaluationOptions} {records : List ρ}
  {key : SortKey} {b : Scalar}

theorem valueOf_recordAt {snapshots : List Snapshot} {target : Reference}
    (reflects : List.Forall₂ (fun r s => schema.reflect r = .ok s) records snapshots)
    (i : Fin snapshots.toArray.size) :
    schema.valueOf target (recordAt reflects.length_eq i) =
      (Selection.snapshotAt i).lookup target :=
  Schema.valueOf_of_reflect (reflect_recordAt reflects i)

theorem uniform_of_hasKind {snapshots : List Snapshot} {target : Reference} {kind : Kind}
    (reflects : List.Forall₂ (fun r s => schema.reflect r = .ok s) records snapshots)
    (orderable : kind.isOrderable = true)
    (values : ∀ r ∈ records, schema.HasKind target kind r) :
    Selection.Uniform target (Selection.all snapshots.toArray) := by
  have column (i : Fin snapshots.toArray.size) :
      ∃ x, (Selection.snapshotAt i).get? target.table target.column = some x ∧
        (x = .null ∨ x.kind = kind) := by
    obtain ⟨x, reads, alike⟩ := values (recordAt reflects.length_eq i) (List.get_mem _ _)
    rw [valueOf_recordAt reflects, Snapshot.lookup_eq_ok] at reads
    exact ⟨x, reads, alike⟩
  refine ⟨fun i _ lacks => ?_, kind, orderable, fun i _ x holds => ?_⟩
  · obtain ⟨x, found, -⟩ := column i
    cases found.symm.trans lacks
  · obtain ⟨_, found, rfl | alike⟩ := column i <;> cases found.symm.trans holds.1
    · cases holds.2
    · exact alike

/-- A column of one kind that has an order can be sorted, and then stands in order. -/
theorem run_sort {kind : Kind} (orderable : kind.isOrderable = true)
    (values : ∀ r ∈ records, schema.HasKind key.target kind r) :
    ∃ sorted, (ofClauses [.sort key]).run schema options records = .ok sorted ∧
      sorted.Perm records ∧ schema.Sorted options.nulls key sorted := by
  obtain ⟨snapshots, reflected⟩ := exists_mapM_eq_ok fun r mem => by
    obtain ⟨x, reads, -⟩ := values r mem
    exact (Schema.valueOf_eq_ok.mp reads).imp fun _ reads => reads.1
  have reflects := mapM_eq_ok.mp reflected
  have size := reflects.length_eq
  have uniform := uniform_of_hasKind reflects orderable values
  obtain ⟨sorted, sorts⟩ := Selection.exists_sort_eq_ok options.nulls [key] fun _ among =>
    List.mem_singleton.mp among ▸ uniform
  have selects : (ofClauses [.sort key]).select options snapshots.toArray = .ok sorted := by
    refine (select_eq_ok rfl).mpr ⟨_, sorted, Selection.filter_eq_ok.mpr ⟨?_, ?_⟩, sorts, rfl⟩
    · exact fun _ _ => ⟨true, rfl⟩
    · exact (List.filter_eq_self.mpr fun _ _ => rfl).symm
  have sortedFrom := Selection.sort_sortedFrom sorts
  refine ⟨sorted.map (recordAt size), ?_, ?_, ?_⟩
  · exact run_eq_ok.mpr ⟨snapshots, reflects, sorted, selects,
      (filterMap_eq_map_recordAt size sorted).symm⟩
  · have perm := sortedFrom.perm.map (recordAt size)
    rwa [map_recordAt_all size] at perm
  · rw [Schema.Sorted, List.pairwise_map]
    refine sortedFrom.ordered.imp fun {i j} inOrder => ?_
    simp only [valueOf_recordAt reflects]
    rcases inOrder with before | tied
    · cases before with
      | here precedes =>
        obtain ⟨x, y, hx, hy, precedes⟩ := precedes
        exact ⟨x, y, hx, hy, Or.inl precedes⟩
      | later _ nothing => cases nothing
    · obtain ⟨x, y, hx, hy, ties⟩ := tied key (List.mem_singleton_self key)
      exact ⟨x, y, hx, hy, Or.inr ties⟩

theorem exists_valueHolds_lt (semantics : NullSemantics) (exactKind : b.kind.isExact = true)
    {x : Value} (alike : x = .null ∨ x.kind = b.kind) :
    ∃ decision, Matching.valueHolds semantics .lt x (some (.single b)) = .ok decision ∧
      (decision = true ↔ Value.Below b x) := by
  cases x with
  | null =>
    refine ⟨false, rfl, iff_of_false Bool.false_ne_true fun below => ?_⟩
    cases below
  | scalar a =>
    have same : a.kind = b.kind := alike.resolve_left (by simp)
    refine ⟨_, Matching.valueHolds_of_kind (same ▸ exactKind) same rfl, ?_⟩
    simp [Value.Below, Value.order, Scalar.order?_of_kind same]
  | list _ | nested _ =>
    rw [← alike.resolve_left (by simp)] at exactKind
    cases exactKind

open Classical in
/-- The filter keeps a record exactly if its value is below the bound. -/
theorem decides_lt (semantics : NullSemantics) (exactKind : b.kind.isExact = true) {r : ρ}
    (hasKind : schema.HasKind key.target b.kind r) :
    Decides schema semantics [⟨key.target, .lt, some (.single b)⟩] r
      (decide (schema.Below key.target b r)) := by
  obtain ⟨x, value, alike⟩ := hasKind
  obtain ⟨s, reads, found⟩ := Schema.valueOf_eq_ok.mp value
  obtain ⟨decision, decided, below⟩ := exists_valueHolds_lt semantics exactKind alike
  have same : decision = decide (schema.Below key.target b r) := by
    rw [Bool.eq_iff_iff, below, decide_eq_true_iff, Schema.below_iff value]
  refine ⟨s, reads, ?_⟩
  rw [Selection.satisfies_singleton, Matching.accepts, found, ← same]
  exact decided

/-- The records below a bound are a stretch of a sorted list, with only nulls in front of it. -/
theorem run_lt_of_sorted (exactKind : b.kind.isExact = true) (upward : key.direction ≠ .descending)
    (values : ∀ r ∈ records, schema.HasKind key.target b.kind r)
    (sorted : schema.Sorted options.nulls key records) :
    ∃ lead front back, records = lead ++ (front ++ back) ∧
      (ofClauses [.condition ⟨key.target, .lt, some (.single b)⟩]).run schema options records =
        .ok front ∧
      ∀ r ∈ lead, schema.LeadingNull options.nulls key.target r := by
  classical
  obtain ⟨lead, rest, rfl, leads, follows⟩ := exists_append_of_pairwise sorted.leadingNull
  have closed : rest.Pairwise fun r r' =>
      schema.Below key.target b r' → schema.Below key.target b r := by
    have sortedRest : schema.Sorted options.nulls key rest := (List.pairwise_append.mp sorted).2.1
    refine List.Pairwise.imp_of_mem (fun mem _ split below => ?_) (sortedRest.below upward b)
    exact (split below).resolve_right (follows _ mem)
  obtain ⟨front, back, rfl, inFront, inBack⟩ := exists_append_of_pairwise closed
  refine ⟨lead, front, back, rfl, ?_, leads⟩
  have keeps := run_conditions fun r mem =>
    decides_lt options.nullSemantics exactKind (values r mem)
  have kept : (lead ++ (front ++ back)).filter (fun r => decide (schema.Below key.target b r)) =
      front := by
    rw [List.filter_append, List.filter_append,
      List.filter_eq_nil_iff.mpr fun r mem => ?_, List.filter_eq_self.mpr fun r mem => ?_,
      List.filter_eq_nil_iff.mpr fun r mem => ?_, List.append_nil, List.nil_append]
    · exact fun kept => inBack r mem (of_decide_eq_true kept)
    · exact decide_eq_true (inFront r mem)
    · exact fun kept => (leads r mem).not_below (of_decide_eq_true kept)
  rwa [kept] at keeps

/-- Between scalars of one kind, floats apart, an ordering operator decides by the order by which
they are sorted. So exactly one of `lt`, `eq` and `gt` holds, and `lt` is transitive. A list of
records can be sorted by a column of the kind, and the records below a bound are the first ones
of a list in ascending order, after the nulls if these come first. -/
theorem filter_follows_order (semantics : NullSemantics) {b : Scalar}
    (exactKind : b.kind.isExact = true) :
    (∀ a : Scalar, a.kind = b.kind → ∀ op ∈ Operator.orderings, ∃ ordering decision,
      Value.order (.scalar a) (.scalar b) = .ok ordering ∧ op.holdsFor? ordering = some decision ∧
      Matching.valueHolds semantics op (.scalar a) (some (.single b)) = .ok decision) ∧
    (∀ a : Scalar, a.kind = b.kind →
      ∃! op, op ∈ [Operator.lt, .eq, .gt] ∧ Matching.Holds semantics op a b) ∧
    (∀ a c : Scalar, a.kind = b.kind → b.kind = c.kind → Matching.Holds semantics .lt a b →
      Matching.Holds semantics .lt b c → Matching.Holds semantics .lt a c) ∧
    ∀ {ρ : Type} (schema : Schema ρ) (options : EvaluationOptions) (key : SortKey)
      (records : List ρ), (∀ r ∈ records, schema.HasKind key.target b.kind r) →
      (∃ sorted, (ofClauses [.sort key]).run schema options records = .ok sorted ∧
        sorted.Perm records ∧ schema.Sorted options.nulls key sorted) ∧
      (key.direction ≠ .descending → schema.Sorted options.nulls key records →
        ∃ lead front back, records = lead ++ (front ++ back) ∧
          (ofClauses [.condition ⟨key.target, .lt, some (.single b)⟩]).run schema options records =
            .ok front ∧
          (∀ r ∈ lead, schema.LeadingNull options.nulls key.target r) ∧
          ((∀ r ∈ records, ¬ schema.LeadingNull options.nulls key.target r) →
            records = front ++ back)) := by
  refine ⟨fun a same op among => ?_, fun a same => ?_, fun a c sameA sameC => ?_,
    fun schema options key records values => ⟨?_, fun upward sorted => ?_⟩⟩
  · obtain ⟨decision, decides⟩ := Operator.exists_holdsFor? among (placeOrder a.place b.place)
    exact ⟨_, decision, Value.order_eq_ok.mpr ⟨a, b, rfl, rfl, same, rfl⟩, decides,
      Matching.valueHolds_of_kind (same ▸ exactKind) same decides⟩
  · exact Matching.existsUnique_holds (same ▸ exactKind) same
  · exact Matching.Holds.lt_trans exactKind sameA sameC
  · exact run_sort b.kind_isOrderable values
  · obtain ⟨lead, front, back, split, kept, leads⟩ :=
      run_lt_of_sorted exactKind upward values sorted
    refine ⟨lead, front, back, split, kept, leads, fun none_leads => ?_⟩
    have empty : lead = [] := List.eq_nil_iff_forall_not_mem.mpr fun r mem =>
      none_leads r (split ▸ List.mem_append_left _ mem) (leads r mem)
    rw [split, empty, List.nil_append]

/-- People by their ages, which need not be known. -/
def peopleSchema : Schema (Option Int64) where
  name := "Person"
  columns := [⟨"age", "Option<i64>", .field,
    fun age => .ok (age.elim .null fun n => .scalar (.int n)), none⟩]

def peopleSnapshots : List Snapshot :=
  [⟨[("age", .null)], [], []⟩, ⟨[("age", .scalar (.int 2))], [], []⟩,
    ⟨[("age", .scalar (.int 5))], [], []⟩]

def peopleSelection (positions : List (Fin 3)) : Selection peopleSnapshots.toArray := positions

/-- The one person younger than 3 stands after the one of unknown age. -/
theorem filter_follows_order_people :
    (Kind.int.isExact = true ∧ ∃! op, op ∈ [Operator.lt, .eq, .gt] ∧
      Matching.Holds .strict op (.int 2) (.int 3)) ∧
    (ofClauses [.condition ⟨⟨none, "age"⟩, .lt, some (.single (.int 3))⟩]).run peopleSchema {}
      [none, some 2, some 5] = .ok [some 2] ∧
    ∃ lead back, [none, some 2, some 5] = lead ++ ([some 2] ++ back) ∧
      ∀ r ∈ lead, peopleSchema.LeadingNull .first ⟨none, "age"⟩ r := by
  have sorted : peopleSchema.Sorted .first ⟨⟨none, "age"⟩, .ascending⟩ [none, some 2, some 5] := by
    simp only [Schema.Sorted, List.pairwise_cons, List.forall_mem_cons]
    exact ⟨⟨⟨_, _, rfl, rfl, Or.inl (.nullFirst rfl rfl)⟩,
      ⟨_, _, rfl, rfl, Or.inl (.nullFirst rfl rfl)⟩, List.forall_mem_nil _⟩,
      ⟨⟨_, _, rfl, rfl, Or.inl (.less (by decide) rfl)⟩, List.forall_mem_nil _⟩,
      List.forall_mem_nil _, .nil⟩
  have values : ∀ r ∈ [none, some 2, some 5],
      peopleSchema.HasKind ⟨none, "age"⟩ .int r := by
    simp only [List.forall_mem_cons]
    exact ⟨⟨_, rfl, Or.inl rfl⟩, ⟨_, rfl, Or.inr rfl⟩, ⟨_, rfl, Or.inr rfl⟩,
      List.forall_mem_nil _⟩
  have computed : (ofClauses [.condition ⟨⟨none, "age"⟩, .lt, some (.single (.int 3))⟩]).run
      peopleSchema {} [none, some 2, some 5] = .ok [some 2] := by
    have selects : (ofClauses [.condition ⟨⟨none, "age"⟩, .lt, some (.single (.int 3))⟩]).select {}
        peopleSnapshots.toArray = .ok (peopleSelection [1]) :=
      (select_eq_ok rfl).mpr ⟨peopleSelection [1], _, by rfl, Selection.sort_nil _ _, by rfl⟩
    exact run_eq_ok.mpr
      ⟨peopleSnapshots, .cons rfl (.cons rfl (.cons rfl .nil)), _, selects, by rfl⟩
  obtain ⟨-, one, -, lists⟩ := filter_follows_order .strict (b := .int 3) rfl
  obtain ⟨-, splits⟩ := lists peopleSchema {} ⟨⟨none, "age"⟩, .ascending⟩ _ values
  obtain ⟨lead, front, back, split, kept, leads, -⟩ := splits (by decide) sorted
  cases kept.symm.trans computed
  exact ⟨⟨rfl, one _ rfl⟩, computed, lead, back, split, leads⟩

end Query

end RecordQuery
