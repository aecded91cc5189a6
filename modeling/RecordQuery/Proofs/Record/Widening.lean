import RecordQuery.Proofs.Number.Single
import RecordQuery.Proofs.Record.Merging
import RecordQuery.Proofs.Record.Relations

/-!
Widening loses nothing but the signals of NaNs. What a field holds widens into a value that narrows
back into it, unless its type has an option within an option, or holds records, documents or
offsets; only a signaling NaN of single precision comes back quiet. So the fields of one record can
be merged into another: it takes over the plain columns and keeps its relations.
-/

namespace RecordQuery

namespace FieldType

/-- The type is an option, perhaps boxed. -/
def isOption : FieldType → Bool
  | .option _ => true
  | .boxed t => t.isOption
  | _ => false

/-- The type is built from numbers, truth values, texts, instants in UTC, bytes and lists, with
boxes and at most one option. -/
def isLossless : FieldType → Bool
  | .localTime | .json | .record _ => false
  | .option t => t.isLossless && !t.isOption
  | .boxed t => t.isLossless
  | _ => true

/-- What a field holds, with every NaN of single precision made quiet. -/
def quieted : (t : FieldType) → t.Carrier → t.Carrier
  | .single, x => x.quieted
  | .singles, xs => xs.map Binary32.quieted
  | .option t, x => x.map t.quieted
  | .boxed t, x => t.quieted x
  | _, x => x

/-- The field holds a signaling NaN of single precision. -/
def Signals : (t : FieldType) → t.Carrier → Prop
  | .single, x => x.isSignaling
  | .singles, xs => ∃ x ∈ xs, x.isSignaling
  | .option t, x => ∃ y ∈ x, t.Signals y
  | .boxed t, x => t.Signals x
  | _, _ => False

/-- Only signaling NaNs are changed. -/
theorem quieted_eq_self_iff {t : FieldType} {x : t.Carrier} : t.quieted x = x ↔ ¬ t.Signals x := by
  induction t with
  | single => simp only [quieted, Signals, Binary32.quieted_eq_self_iff, Bool.not_eq_true]
  | singles =>
    have quiet : x.map Binary32.quieted = x ↔ ∀ y ∈ x, y.quieted = y :=
      calc
        x.map Binary32.quieted = x ↔ x.map Binary32.quieted = x.map id := by rw [List.map_id]
        _ ↔ ∀ y ∈ x, y.quieted = y := List.map_inj_left
    simp only [quieted, Signals, quiet, Binary32.quieted_eq_self_iff, not_exists, not_and,
      Bool.not_eq_true]
  | option t ih =>
    cases x with
    | none => simp [quieted, Signals]
    | some x => simp [quieted, Signals, ih]
  | boxed t ih => exact ih
  | int | double | bool | string | bytes | ints | doubles | bools | strings | time | localTime
  | json | record => exact iff_of_true rfl not_false

/-- In a value a signaling NaN cannot be told from a quiet one. -/
theorem toValue_quieted {t : FieldType} (x : t.Carrier) :
    t.toValue (t.quieted x) = t.toValue x := by
  induction t with
  | single => simp only [quieted, toValue, Binary32.widen_quieted]
  | singles =>
    simp only [quieted, toValue, List.map_map, Function.comp_def, Binary32.widen_quieted]
  | option t ih =>
    cases x with
    | none => rfl
    | some x => exact ih x
  | boxed t ih => exact ih x
  | int | double | bool | string | bytes | ints | doubles | bools | strings | time | localTime
  | json | record => rfl

/-- A value other than null narrows into an option as into the type itself. -/
theorem ofValue_option {t : FieldType} {v : Value} (present : v ≠ .null) :
    (FieldType.option t).ofValue v = (t.ofValue v).map some := by
  cases v with
  | null => exact absurd rfl present
  | scalar _ | list _ | nested _ => rfl

/-- What a field holds narrows back from the value it widens into, with its NaNs made quiet. The
value is null only in options. -/
theorem exists_widened {t : FieldType} (lossless : t.isLossless = true) (x : t.Carrier) :
    ∃ v, t.toValue x = .ok v ∧ (t.isOption = false → v ≠ .null) ∧
      t.ofValue v = .ok (t.quieted x) := by
  induction t with
  | int t => exact ⟨_, rfl, nofun, ofValue_int_eq_ok.mpr ⟨_, rfl, x.isWhole_toScalar⟩⟩
  | ints t => exact ⟨_, rfl, nofun, ofValue_ints_eq_ok.mpr (Ranged.areWhole_toItems x)⟩
  | single => exact ⟨_, rfl, nofun, congrArg Except.ok x.narrow_widen⟩
  | singles =>
    refine ⟨_, rfl, nofun, congrArg Except.ok ?_⟩
    rw [List.map_map]
    exact List.map_congr_left fun y _ => y.narrow_widen
  | double | bool | string | bytes | doubles | bools | strings | time =>
    exact ⟨_, rfl, nofun, rfl⟩
  | localTime | json | record => cases lossless
  | boxed t ih => exact ih lossless x
  | option t ih =>
    obtain ⟨lossless, plain⟩ := Bool.and_eq_true_iff.mp lossless
    cases x with
    | none => exact ⟨.null, rfl, nofun, rfl⟩
    | some x =>
      obtain ⟨v, widens, proper, narrows⟩ := ih lossless x
      -- null stands for an absent value, so what is there must not widen into it
      have present : v ≠ .null := proper (by simpa using plain)
      refine ⟨v, widens, nofun, ?_⟩
      rw [ofValue_option present, narrows]
      rfl

/-- Within an option, an option that is empty cannot be told from an absent one. -/
example : (FieldType.option (.option .bool)).toValue (some none) = .ok .null ∧
    (FieldType.option (.option .bool)).ofValue .null = .ok none :=
  ⟨rfl, rfl⟩

end FieldType

variable {ρ : Type}

namespace Column

variable {c : Column ρ} {r r' : ρ}

/-- Whether and how a column fails depends on its value only. -/
theorem Fails.congr {e : Error} (same : c.read r' = c.read r) (fails : c.Fails r e) :
    c.Fails r' e := by
  cases fails with
  | unread reads => exact .unread (same.trans reads)
  | holder relates reads bad => exact .holder relates (same.trans reads) bad
  | entry relates reads split loadable bad =>
    exact .entry relates (same.trans reads) split loadable bad

theorem assigned_congr (same : c.role = .field → c.read r' = c.read r) :
    c.assigned r' = c.assigned r := by
  unfold assigned
  cases role : c.role with
  | field => rw [same role]
  | forward | back => rfl

theorem linked_congr {role : Role} (relates : role ≠ .field)
    (same : c.role ≠ .field → c.read r' = c.read r) : c.linked r' role = c.linked r role := by
  unfold linked
  split
  next this => rw [loads, loads, same (this ▸ relates)]
  next => rfl

end Column

namespace Schema

variable {schema : Schema ρ} {a b r : ρ}

/-- The record has the plain columns of one record and the relations of another. -/
structure Combines (schema : Schema ρ) (a b r : ρ) : Prop where
  plain : ∀ c ∈ schema.columns, c.role = .field → c.read r = c.read a
  relations : ∀ c ∈ schema.columns, c.role ≠ .field → c.read r = c.read b

theorem FailsFirst.congr {e : Error}
    (alike : ∀ c ∈ schema.columns, ∀ e, c.Fails r e ↔ c.Fails b e)
    (fails : schema.FailsFirst b e) : schema.FailsFirst r e := by
  obtain ⟨before, c, after, split, all, fails⟩ := fails
  rw [split, List.forall_mem_append, List.forall_mem_cons] at alike
  obtain ⟨alike_before, alike_here, -⟩ := alike
  exact ⟨before, c, after, split, fun d mem e' => mt (alike_before d mem e').mp (all d mem e'),
    (alike_here e).mpr fails⟩

/-- A plain column that can be read does not fail. -/
theorem not_fails_plain {c : Column ρ} {v : Value} (plain : c.role = .field)
    (reads : c.read r = .ok v) (e : Error) : ¬ c.Fails r e := by
  intro fails
  cases fails with
  | unread unreadable => cases reads.symm.trans unreadable
  | holder relates => exact relates plain
  | entry relates => exact relates plain

theorem Combines.fails_iff (combines : schema.Combines a b r)
    (readable : ∀ c ∈ schema.columns, c.role = .field → ∃ v, c.read b = .ok v) {s : Snapshot}
    (success : schema.reflect a = .ok s) :
    ∀ c ∈ schema.columns, ∀ e, c.Fails r e ↔ c.Fails b e := by
  intro c mem e
  by_cases plain : c.role = .field
  · obtain ⟨v, reads⟩ := readable c mem plain
    refine iff_of_false (fun fails => ?_) (not_fails_plain plain reads e)
    exact not_fails_of_reflect success c mem e (fails.congr (combines.plain c mem plain).symm)
  · have same := combines.relations c mem plain
    exact ⟨.congr same.symm, .congr same⟩

/-- A record that combines two others has the fields of the one snapshot and the relations of the
other. It cannot be reflected exactly if the relations cannot. -/
theorem Combines.reflect (combines : schema.Combines a b r)
    (readable : ∀ c ∈ schema.columns, c.role = .field → ∃ v, c.read b = .ok v) {s : Snapshot}
    (success : schema.reflect a = .ok s) :
    schema.reflect r = (schema.reflect b).map fun t => ⟨s.fields, t.forward, t.back⟩ := by
  have alike := combines.fails_iff readable success
  cases outcome : schema.reflect b with
  | error e => exact reflect_of_failsFirst ((reflect_eq_error.mp outcome).congr alike)
  | ok t =>
    have assigned : schema.columns.flatMap (·.assigned r) = schema.columns.flatMap (·.assigned a) :=
      List.flatMap_congr fun c mem => c.assigned_congr (combines.plain c mem)
    have linked (role : Role) (relates : role ≠ .field) :
        schema.columns.flatMap (·.linked r role) = schema.columns.flatMap (·.linked b role) :=
      List.flatMap_congr fun c mem => c.linked_congr relates (combines.relations c mem)
    have none_fails : ∀ c ∈ schema.columns, ∀ e, ¬ c.Fails r e := fun c mem e =>
      mt (alike c mem e).mp (not_fails_of_reflect outcome c mem e)
    rw [reflect_of_not_fails none_fails, eq_of_reflect success, eq_of_reflect outcome, assigned,
      linked .forward (by decide), linked .back (by decide)]
    rfl

end Schema

namespace Row

variable {specs : List ColumnSpec} {type : String} {a b row row' : Row specs}

/-- The columns of a record type whose schema is derived: their names differ, and every plain one
has a setter. -/
structure Derived (specs : List ColumnSpec) : Prop where
  distinct : (specs.map (·.name)).Nodup
  writable : ∀ spec ∈ specs, spec.role = .field → spec.isWritable = true

/-- The types of the plain columns are lossless. -/
def Lossless (specs : List ColumnSpec) : Prop :=
  ∀ spec ∈ specs, spec.role = .field → spec.fieldType.isLossless = true

/-- The last row has the plain columns of the first, with NaNs made quiet, and the relations of the
second. -/
structure TakesOver (a b row : Row specs) : Prop where
  plain : ∀ {spec : ColumnSpec} (p : Place spec specs), spec.role = .field →
    p.cell row = spec.fieldType.quieted (p.cell a)
  relations : ∀ {spec : ColumnSpec} (p : Place spec specs), spec.role ≠ .field →
    p.cell row = p.cell b

namespace Place

variable {spec : ColumnSpec} {p : Place spec specs}

theorem read_congr
    (same : spec.fieldType.toValue (p.cell row') = spec.fieldType.toValue (p.cell row)) :
    p.column.read row' = p.column.read row := by
  rw [Column.read, Column.read, get_column, get_column, same]

/-- A lossless column can be read, and its value narrows back. -/
theorem exists_read (p : Place spec specs) (lossless : spec.fieldType.isLossless = true)
    (row : Row specs) : ∃ v, p.column.read row = .ok v ∧
      spec.fieldType.ofValue v = .ok (spec.fieldType.quieted (p.cell row)) := by
  obtain ⟨v, widens, -, narrows⟩ := FieldType.exists_widened lossless (p.cell row)
  exact ⟨v, read_column widens, narrows⟩

end Place

theorem TakesOver.combines (takes : TakesOver a b row) :
    (schema type specs).Combines a b row := by
  constructor
  · intro c mem plain
    obtain ⟨spec, p, rfl⟩ := exists_place.mp mem
    refine Place.read_congr ?_
    rw [takes.plain p (p.column_role.symm.trans plain), FieldType.toValue_quieted]
  · intro c mem relates
    obtain ⟨spec, p, rfl⟩ := exists_place.mp mem
    refine Place.read_congr ?_
    rw [takes.relations p (mt p.column_role.trans relates)]

section Merging

variable (derived : Derived specs) (lossless : Lossless specs) {s : Snapshot}
  (success : (schema type specs).reflect a = .ok s)

include derived success

theorem mem_fields {name : String} {v : Value} : (name, v) ∈ s.fields ↔
    ∃ (spec : ColumnSpec) (p : Place spec specs), spec.role = .field ∧ spec.name = name ∧
      p.column.read a = .ok v := by
  have distinct' : ((schema type specs).columns.map (·.name)).Nodup := by
    rw [schema, map_name_columns]
    exact derived.distinct
  rw [Schema.mem_fields distinct' success]
  constructor
  · rintro ⟨c, mem, plain, rfl, reads⟩
    obtain ⟨spec, p, rfl⟩ := exists_place.mp mem
    exact ⟨spec, p, p.column_role.symm.trans plain, p.column_name.symm, reads⟩
  · rintro ⟨spec, p, plain, rfl, reads⟩
    have mem : p.column ∈ (schema type specs).columns := exists_place.mpr ⟨spec, p, rfl⟩
    exact ⟨p.column, mem, p.column_role.trans plain, p.column_name, reads⟩

include lossless

/-- The fields of a snapshot narrow back into the columns that they come from. -/
theorem narrows_of_mem_fields {spec : ColumnSpec} (p : Place spec specs) {v : Value}
    (mem : (spec.name, v) ∈ s.fields) : spec.isWritable = true ∧
      spec.fieldType.ofValue v = .ok (spec.fieldType.quieted (p.cell a)) := by
  obtain ⟨other, q, plain, same, reads⟩ := (mem_fields derived success).mp mem
  -- no other column has the name, so the value comes from the column itself
  obtain rfl := List.inj_on_of_nodup_map derived.distinct q.mem p.mem same
  obtain rfl := q.unique derived.distinct p
  obtain ⟨v', reads', narrows⟩ := q.exists_read (lossless other q.mem plain) a
  cases reads.symm.trans reads'
  exact ⟨derived.writable other q.mem plain, narrows⟩

theorem exists_merge_fields (b : Row specs) :
    ∃ row, (schema type specs).merge b s.fields = (row, .ok ()) ∧ TakesOver a b row := by
  have distinct := derived.distinct
  have narrows {spec : ColumnSpec} (p : Place spec specs) {v : Value} :=
    narrows_of_mem_fields derived lossless success p (v := v)
  have accepted : ∀ pair ∈ s.fields, ∀ e, ¬ Refuses specs pair.1 pair.2 e := by
    rintro ⟨name, v⟩ mem e refused
    obtain ⟨spec, p, plain, rfl, -⟩ := (mem_fields derived success).mp mem
    obtain ⟨writable, narrowed⟩ := narrows p mem
    rw [refuses_iff distinct p.mem, if_pos writable, narrowed] at refused
    cases refused
  obtain ⟨row, merged⟩ : ∃ row, (schema type specs).merge b s.fields = (row, .ok ()) :=
    exists_merge_eq_ok distinct accepted
  have assigned := ((merge_eq_ok distinct).mp merged).2
  refine ⟨row, merged, fun {spec} p plain => ?_, fun p relates =>
    assigned.kept p (Or.inl (ColumnSpec.isWritable_of_relates relates))⟩
  obtain ⟨v, reads, -⟩ := p.exists_read (lossless spec p.mem plain) a
  have mem : (spec.name, v) ∈ s.fields :=
    (mem_fields derived success).mpr ⟨spec, p, plain, rfl, reads⟩
  obtain ⟨last, found, among⟩ := exists_lookup_reverse mem
  have taken := assigned.last p last found
  exact Except.ok.inj (taken.symm.trans (narrows p among).2)

end Merging

end Row

/-- What a field of a lossless type holds widens into a value that narrows back into it, with its
NaNs made quiet: it comes back bit by bit exactly if it has no signaling NaN of single precision.
So the fields of one record of a derived type can be merged into any other one whose plain columns
are of such types: it takes over the plain columns and keeps the relations, and its snapshot has
the fields of the one and the relations of the other. -/
theorem narrow_widened :
    (∀ t : FieldType, t.isLossless = true → ∀ x : t.Carrier,
      ∃ v, t.toValue x = .ok v ∧ t.ofValue v = .ok (t.quieted x) ∧
        (t.ofValue v = .ok x ↔ ¬ t.Signals x)) ∧
    ∀ (type : String) (specs : List ColumnSpec), Row.Derived specs → Row.Lossless specs →
      ∀ (a b : Row specs) (s : Snapshot), (Row.schema type specs).reflect a = .ok s →
        ∃ row, (Row.schema type specs).merge b s.fields = (row, .ok ()) ∧
          Row.TakesOver a b row ∧
          (Row.schema type specs).reflect row =
            ((Row.schema type specs).reflect b).map fun t => ⟨s.fields, t.forward, t.back⟩ := by
  constructor
  · intro t lossless x
    obtain ⟨v, widens, -, narrows⟩ := FieldType.exists_widened lossless x
    refine ⟨v, widens, narrows, ?_⟩
    rw [narrows, Except.ok.injEq, FieldType.quieted_eq_self_iff]
  · intro type specs derived lossless a b s success
    obtain ⟨row, merged, takes⟩ := Row.exists_merge_fields derived lossless success b
    refine ⟨row, merged, takes, takes.combines.reflect ?_ success⟩
    intro c mem plain
    obtain ⟨spec, p, rfl⟩ := Row.exists_place.mp mem
    obtain ⟨v, reads, -⟩ := p.exists_read (lossless spec p.mem (p.column_role.symm.trans plain)) b
    exact ⟨v, reads⟩

/-- The number 1.5. -/
def oneAndHalf : Binary32 := ⟨0x3FC00000⟩

theorem widen_oneAndHalf : oneAndHalf.widen = ⟨0x3FF8000000000000⟩ := by decide +kernel

/-- Samples, each with a note at most, weights of single precision and perhaps an owner. -/
def sampleColumns : List ColumnSpec :=
  [⟨"id", "u16", .int .uint16, .field, true⟩,
    ⟨"note", "Option<Box<String>>", .option (.boxed .string), .field, true⟩,
    ⟨"weights", "Vec<f32>", .singles, .field, true⟩,
    ⟨"relations", "Option<SampleRelations>", .option (.record "SampleRelations"), .forward, false⟩]

def weighedSample : Row sampleColumns :=
  (⟨7, by decide⟩, some "dry", [oneAndHalf], none, ())

def ownedSample : Row sampleColumns :=
  (⟨9, by decide⟩, none, [], some (.ok ⟨[("Owner", .nested .empty)], [], []⟩), ())

def weighedSnapshot : Snapshot :=
  ⟨[("id", .scalar (.uint 7)), ("note", .scalar (.string "dry")),
    ("weights", .list (.floats [⟨0x3FF8000000000000⟩]))], [], []⟩

/-- A sample takes over the weights of another one and keeps its owner. -/
theorem narrow_widened_sample :
    (∃ v, FieldType.singles.toValue [oneAndHalf] = .ok v ∧
      FieldType.singles.ofValue v = .ok [oneAndHalf]) ∧
    Row.Derived sampleColumns ∧ Row.Lossless sampleColumns ∧
    (Row.schema "Sample" sampleColumns).reflect weighedSample = .ok weighedSnapshot ∧
    ∃ row, (Row.schema "Sample" sampleColumns).merge ownedSample weighedSnapshot.fields =
        (row, .ok ()) ∧
      (Row.schema "Sample" sampleColumns).reflect row =
        .ok ⟨weighedSnapshot.fields, [("owner", .empty)], []⟩ := by
  have quiet : ¬ FieldType.singles.Signals [oneAndHalf] := by
    unfold FieldType.Signals
    decide
  have derived : Row.Derived sampleColumns := ⟨by decide, by decide⟩
  have lossless : Row.Lossless sampleColumns := by
    unfold Row.Lossless
    decide
  have success :
      (Row.schema "Sample" sampleColumns).reflect weighedSample = .ok weighedSnapshot := by
    rw [weighedSnapshot, ← widen_oneAndHalf]
    rfl
  have owned : (Row.schema "Sample" sampleColumns).reflect ownedSample =
      .ok ⟨[("id", .scalar (.uint 9)), ("note", .null), ("weights", .list (.floats []))],
        [("owner", .empty)], []⟩ := by
    rfl
  obtain ⟨values, records⟩ := narrow_widened
  obtain ⟨v, widens, -, exact_iff⟩ := values .singles rfl [oneAndHalf]
  obtain ⟨row, merged, -, reflects⟩ := records "Sample" sampleColumns derived lossless
    weighedSample ownedSample _ success
  rw [owned] at reflects
  exact ⟨⟨v, widens, exact_iff.mpr quiet⟩, derived, lossless, success, row, merged, reflects⟩

/-- A signaling NaN comes back as another one, which is quiet. -/
theorem narrow_widened_signaling :
    FieldType.singles.isLossless = true ∧
    ∃ v, FieldType.singles.toValue [⟨0x7F800001⟩] = .ok v ∧
      FieldType.singles.ofValue v = .ok [⟨0x7FC00001⟩] ∧
      FieldType.singles.ofValue v ≠ .ok [⟨0x7F800001⟩] := by
  obtain ⟨v, widens, -, narrows⟩ :=
    FieldType.exists_widened (t := .singles) rfl [⟨0x7F800001⟩]
  have quiet : FieldType.singles.quieted [⟨0x7F800001⟩] = [⟨0x7FC00001⟩] := by decide
  rw [quiet] at narrows
  refine ⟨rfl, v, widens, narrows, fun same => ?_⟩
  exact absurd (Except.ok.inj (narrows.symm.trans same)) (by decide)

end RecordQuery
