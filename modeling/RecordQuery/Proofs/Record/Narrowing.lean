import Mathlib.Data.List.Forall2
import RecordQuery.Proofs.Attempt
import RecordQuery.Proofs.Matching.WholeNumbers
import RecordQuery.Proofs.Record.Cells
import RecordQuery.Store.Key

/-!
Narrowing of whole numbers. A number narrows into a type exactly if the type has it, and then stays
the number that it was, also in a list and as the key of a record. So records of different ids have
different keys, and an id that the type of the keys does not have gives no key.
-/

namespace RecordQuery

theorem Ranged.ofInt?_eq_some {t : IntType} {n : Int} {x : Ranged t} :
    Ranged.ofInt? t n = some x ↔ x.val = n := by
  rw [ofInt?, Option.dite_none_right_eq_some]
  constructor
  · rintro ⟨range, same⟩
    rw [← Option.some.inj same]
  · rintro rfl
    exact ⟨x.property, rfl⟩

/-- The value is a whole number, signed or not. -/
def Value.IsWhole (v : Value) (n : Int) : Prop :=
  ∃ s, v = .scalar s ∧ s.IsWhole n

/-- The value is a list of whole numbers, all of which are signed or none. -/
inductive Value.AreWhole : Bool → Value → List Int → Prop
  | ints (ns : List Int64) : AreWhole true (.list (.ints ns)) (ns.map Int64.toInt)
  | uints (ns : List UInt64) : AreWhole false (.list (.uints ns)) (ns.map fun n => (n.toNat : Int))

/-- The signed types are within the 64 bits of signed values. -/
theorem IntType.range_of_signed : ∀ {t : IntType}, t.isSigned = true →
    -2 ^ 63 ≤ t.least ∧ t.greatest < 2 ^ 63 := by
  rintro (_ | _ | _ | _ | _ | _ | _ | _ | _ | _) <;> decide

/-- The other types are within the 64 bits of unsigned values. -/
theorem IntType.range_of_unsigned : ∀ {t : IntType}, t.isSigned = false →
    0 ≤ t.least ∧ t.greatest < 2 ^ 64 := by
  rintro (_ | _ | _ | _ | _ | _ | _ | _ | _ | _) <;> decide

namespace Ranged

variable {t : IntType}

theorem toInt_ofInt (signed : t.isSigned = true) (x : Ranged t) :
    (Int64.ofInt x.val).toInt = x.val := by
  obtain ⟨least, greatest⟩ := IntType.range_of_signed signed
  exact Int64.toInt_ofInt_of_le (least.trans x.property.1) (x.property.2.trans_lt greatest)

theorem toNat_ofNat (unsigned : t.isSigned = false) (x : Ranged t) :
    ((UInt64.ofNat x.val.toNat).toNat : Int) = x.val := by
  obtain ⟨least, greatest⟩ := IntType.range_of_unsigned unsigned
  have nonneg : 0 ≤ x.val := least.trans x.property.1
  have below : x.val < 2 ^ 64 := x.property.2.trans_lt greatest
  have fits : x.val.toNat < UInt64.size := by
    rw [UInt64.size]
    omega
  rw [UInt64.toNat_ofNat_of_lt' fits, Int.toNat_of_nonneg nonneg]

/-- A number widens into the scalar of the same number. -/
theorem isWhole_toScalar (x : Ranged t) : x.toScalar.IsWhole x.val := by
  rw [toScalar]
  split
  next signed =>
    have whole := Scalar.IsWhole.int (Int64.ofInt x.val)
    rwa [toInt_ofInt signed] at whole
  next unsigned =>
    have whole := Scalar.IsWhole.uint (UInt64.ofNat x.val.toNat)
    rwa [toNat_ofNat (Bool.eq_false_of_not_eq_true unsigned)] at whole

theorem areWhole_toItems (xs : List (Ranged t)) :
    Value.AreWhole t.isSigned (.list (toItems xs)) (xs.map (·.val)) := by
  rw [toItems]
  cases signedness : t.isSigned with
  | true =>
    have same : (xs.map fun x => Int64.ofInt x.val).map Int64.toInt = xs.map (·.val) := by
      rw [List.map_map]
      exact List.map_congr_left fun x _ => toInt_ofInt signedness x
    exact same ▸ .ints _
  | false =>
    have same : (xs.map fun x => UInt64.ofNat x.val.toNat).map (fun n => (n.toNat : Int)) =
        xs.map (·.val) := by
      rw [List.map_map]
      exact List.map_congr_left fun x _ => toNat_ofNat signedness x
    exact same ▸ .uints _

end Ranged

namespace FieldType

section Integers

variable {t : IntType} {kind : Kind}

theorem narrowInt_eq_ok {n : Int} {x : Ranged t} : narrowInt t kind n = .ok x ↔ x.val = n := by
  rw [← Ranged.ofInt?_eq_some, narrowInt]
  cases Ranged.ofInt? t n with
  | none => exact iff_of_false nofun nofun
  | some x => rw [Except.ok.injEq, Option.some.injEq]

theorem narrowInts_eq_ok {ns : List Int} {xs : List (Ranged t)} :
    narrowInts t kind ns = .ok xs ↔ xs.map (·.val) = ns := by
  induction ns generalizing xs with
  | nil => rw [narrowInts, Except.ok.injEq, List.map_eq_nil_iff, eq_comm]
  | cons n rest ih =>
    rw [narrowInts]
    cases narrowed : narrowInt t kind n with
    | error e =>
      refine iff_of_false nofun fun same => ?_
      obtain ⟨x, xs, rfl, here, later⟩ := List.map_eq_cons_iff.mp same
      cases narrowed.symm.trans (narrowInt_eq_ok.mpr here)
    | ok x =>
      rw [narrowInt_eq_ok] at narrowed
      simp only [map_eq_ok, ih]
      constructor
      · rintro ⟨xs, later, rfl⟩
        rw [List.map_cons, narrowed, later]
      · intro same
        obtain ⟨x', xs, rfl, here, later⟩ := List.map_eq_cons_iff.mp same
        exact ⟨xs, later, by rw [Subtype.ext (narrowed.trans here.symm)]⟩

/-- A whole number narrows into a type that has it, and stays the same number. -/
theorem ofValue_int_eq_ok {v : Value} {x : Ranged t} :
    (FieldType.int t).ofValue v = .ok x ↔ v.IsWhole x.val := by
  constructor
  · intro narrowed
    cases v with
    | null | list _ | nested _ => cases narrowed
    | scalar s =>
      cases s with
      | int n =>
        rw [narrowInt_eq_ok.mp narrowed]
        exact ⟨.int n, rfl, .int n⟩
      | uint n =>
        rw [narrowInt_eq_ok.mp narrowed]
        exact ⟨.uint n, rfl, .uint n⟩
      | string _ | float _ | bool _ | time _ | bytes _ => cases narrowed
  · rintro ⟨s, rfl, whole⟩
    generalize number : x.val = n at whole
    cases whole with
    | int n => exact narrowInt_eq_ok.mpr number
    | uint n => exact narrowInt_eq_ok.mpr number

/-- A list of whole numbers narrows into a list of a type of its signedness that has them all. -/
theorem ofValue_ints_eq_ok {v : Value} {xs : List (Ranged t)} :
    (FieldType.ints t).ofValue v = .ok xs ↔ v.AreWhole t.isSigned (xs.map (·.val)) := by
  generalize same : t.isSigned = signed
  constructor
  · intro narrowed
    unfold ofValue at narrowed
    rw [same] at narrowed
    split at narrowed
    next ns =>
      rw [narrowInts_eq_ok.mp narrowed]
      exact .ints ns
    next ns =>
      rw [narrowInts_eq_ok.mp narrowed]
      exact .uints ns
    next => cases narrowed
  · intro whole
    generalize numbers : xs.map (·.val) = ns at whole
    cases whole with
    | ints ns =>
      unfold ofValue
      rw [same]
      exact narrowInts_eq_ok.mpr numbers
    | uints ns =>
      unfold ofValue
      rw [same]
      exact narrowInts_eq_ok.mpr numbers

end Integers

theorem exists_mismatch {α : Type} {type : String} {actual : Kind} {e : Error}
    (failed : (mismatch type actual : Except Error α) = .error e) :
    ∃ actual type, e = .mismatch .assign actual type :=
  ⟨actual, type, (Except.error.inj failed).symm⟩

theorem narrowInt_eq_error {t : IntType} {kind : Kind} {n : Int} {e : Error}
    (failed : narrowInt t kind n = .error e) :
    ∃ actual type, e = .mismatch .assign actual type := by
  unfold narrowInt at failed
  split at failed
  · cases failed
  · exact exists_mismatch failed

theorem narrowInts_eq_error {t : IntType} {kind : Kind} {ns : List Int} {e : Error}
    (failed : narrowInts t kind ns = .error e) :
    ∃ actual type, e = .mismatch .assign actual type := by
  induction ns with
  | nil => cases failed
  | cons n rest ih =>
    rw [narrowInts] at failed
    cases narrowed : narrowInt t kind n with
    | error e' =>
      rw [narrowed] at failed
      cases failed
      exact narrowInt_eq_error narrowed
    | ok x =>
      rw [narrowed] at failed
      exact ih (map_eq_error.mp failed)

/-- A value that does not narrow is a mismatch. -/
theorem ofValue_eq_error {t : FieldType} {v : Value} {e : Error} (failed : t.ofValue v = .error e) :
    ∃ actual type, e = .mismatch .assign actual type := by
  induction t generalizing v with
  | option t ih =>
    unfold ofValue at failed
    split at failed
    · cases failed
    · exact ih (map_eq_error.mp failed)
  | boxed t ih => exact ih failed
  | record type => exact exists_mismatch failed
  | int t =>
    unfold ofValue at failed
    split at failed
    · exact narrowInt_eq_error failed
    · exact narrowInt_eq_error failed
    · exact exists_mismatch failed
  | ints t =>
    unfold ofValue at failed
    split at failed
    · exact narrowInts_eq_error failed
    · exact narrowInts_eq_error failed
    · exact exists_mismatch failed
  | single | double | bool | string | bytes | singles | doubles | bools | strings =>
    unfold ofValue at failed
    split at failed
    all_goals first | exact exists_mismatch failed | cases failed
  | time | localTime | json =>
    unfold ofValue at failed
    split at failed
    all_goals first | exact exists_mismatch failed | cases failed | split at failed
    -- The texts of instants and documents may be malformed.
    all_goals first | exact exists_mismatch failed | cases failed

end FieldType

theorem Value.IsWhole.unique {v : Value} {m n : Int} (whole : v.IsWhole m) (whole' : v.IsWhole n) :
    m = n := by
  obtain ⟨s, rfl, whole⟩ := whole
  obtain ⟨_, ⟨⟩, whole'⟩ := whole'
  cases whole <;> cases whole' <;> rfl

/-- The numbers of the type, and no others, are those of its values. -/
theorem IntType.exists_ranged {t : IntType} {p : Int → Prop} :
    (∃ x : Ranged t, p x.val) ↔ ∃ n, p n ∧ t.least ≤ n ∧ n ≤ t.greatest := by
  constructor
  · rintro ⟨x, holds⟩
    exact ⟨x.val, holds, x.property⟩
  · rintro ⟨n, holds, range⟩
    exact ⟨⟨n, range⟩, holds⟩

theorem IntType.exists_ranged_list {t : IntType} {p : List Int → Prop} :
    (∃ xs : List (Ranged t), p (xs.map (·.val))) ↔
      ∃ ns, p ns ∧ ∀ n ∈ ns, t.least ≤ n ∧ n ≤ t.greatest := by
  constructor
  · rintro ⟨xs, holds⟩
    refine ⟨_, holds, fun n mem => ?_⟩
    obtain ⟨x, -, rfl⟩ := List.mem_map.mp mem
    exact x.property
  · rintro ⟨ns, holds, range⟩
    refine ⟨ns.pmap Subtype.mk range, ?_⟩
    rwa [List.map_pmap, List.pmap_eq_self.mpr fun _ _ => rfl]

namespace Column

variable {ρ : Type}

/-- The record has the whole number in the column. -/
def HoldsWhole (c : Column ρ) (r : ρ) (n : Int) : Prop :=
  ∃ v, c.read r = .ok v ∧ v.IsWhole n

end Column

/-- A record has the number of a cell of whole numbers in the column of the cell. -/
theorem Row.Place.holdsWhole {t : IntType} {name type : String} {role : Role} {hasSetter : Bool}
    {specs : List ColumnSpec} (p : Place ⟨name, type, .int t, role, hasSetter⟩ specs)
    (row : Row specs) :
    p.column.HoldsWhole row (p.cell row).val :=
  ⟨_, read_column rfl, _, rfl, Ranged.isWhole_toScalar (p.cell row)⟩

namespace Schema

variable {ρ : Type} {schema : Schema ρ} {c : Column ρ} {t : IntType} {r : ρ} {n : Int}

theorem idOf_of_read {κ : Type} {narrow : Value → Except Error κ} {v : Value}
    (id : schema.idColumn? = some c) (reads : c.read r = .ok v) : schema.idOf narrow r =
      (narrow v).mapError fun e => .noKey (schema.name ++ "." ++ c.name ++ ": " ++ e.message) := by
  simp only [idOf, id, reads, bind, Except.bind]
  cases narrow v <;> rfl

/-- The key of a record is the number that is its id. -/
theorem idOf_eq_ok (id : schema.idColumn? = some c) (holds : c.HoldsWhole r n) {k : Ranged t} :
    schema.idOf (FieldType.int t).ofValue r = .ok k ↔ k.val = n := by
  obtain ⟨v, reads, whole⟩ := holds
  have narrows : (FieldType.int t).ofValue v = .ok k ↔ k.val = n := by
    rw [FieldType.ofValue_int_eq_ok]
    exact ⟨fun whole' => whole'.unique whole, fun same => same ▸ whole⟩
  rw [idOf_of_read id reads, ← narrows]
  cases (FieldType.int t).ofValue v <;> simp [Except.mapError]

/-- An id that the type of keys does not have gives no key. -/
theorem exists_idOf_eq_noKey (id : schema.idColumn? = some c) (holds : c.HoldsWhole r n)
    (beyond : ¬ (t.least ≤ n ∧ n ≤ t.greatest)) :
    ∃ reason, schema.idOf (FieldType.int t).ofValue r = .error (.noKey reason) := by
  cases key : schema.idOf (FieldType.int t).ofValue r with
  | ok k => exact absurd ((idOf_eq_ok id holds).mp key ▸ k.property) beyond
  | error e =>
    obtain ⟨v, reads, -⟩ := holds
    rw [idOf_of_read id reads] at key
    cases narrowed : (FieldType.int t).ofValue v with
    | ok x =>
      rw [narrowed] at key
      cases key
    | error e' =>
      rw [narrowed] at key
      cases key
      exact ⟨_, rfl⟩

end Schema

/-- A value narrows into a type of whole numbers exactly if it is a number that the type has, and
into a list of them exactly if it is a list of such numbers and signed as the type is. The numbers
stay the same. So the key of a record is the number that is its id, records of different ids have
different keys, and an id that the type of keys does not have gives no key. -/
theorem narrow_exactly (t : IntType) :
    (∀ v, (∀ x, (FieldType.int t).ofValue v = .ok x ↔ v.IsWhole x.val) ∧
      ((∃ x, (FieldType.int t).ofValue v = .ok x) ↔
        ∃ n, v.IsWhole n ∧ t.least ≤ n ∧ n ≤ t.greatest)) ∧
    (∀ v, (∀ xs, (FieldType.ints t).ofValue v = .ok xs ↔
        v.AreWhole t.isSigned (xs.map (·.val))) ∧
      ((∃ xs, (FieldType.ints t).ofValue v = .ok xs) ↔
        ∃ ns, v.AreWhole t.isSigned ns ∧ ∀ n ∈ ns, t.least ≤ n ∧ n ≤ t.greatest)) ∧
    ∀ {ρ : Type} (schema : Schema ρ) (c : Column ρ), schema.idColumn? = some c →
      ∀ r n, c.HoldsWhole r n →
        (t.least ≤ n ∧ n ≤ t.greatest →
          ∃ k, schema.idOf (FieldType.int t).ofValue r = .ok k ∧ k.val = n) ∧
        (¬ (t.least ≤ n ∧ n ≤ t.greatest) →
          ∃ reason, schema.idOf (FieldType.int t).ofValue r = .error (.noKey reason)) ∧
        ∀ r' n', c.HoldsWhole r' n' → ∀ k, schema.idOf (FieldType.int t).ofValue r = .ok k →
          schema.idOf (FieldType.int t).ofValue r' = .ok k → n = n' := by
  refine ⟨fun v => ⟨fun x => FieldType.ofValue_int_eq_ok, ?_⟩,
    fun v => ⟨fun xs => FieldType.ofValue_ints_eq_ok, ?_⟩,
    fun schema c id r n holds => ⟨fun range => ?_, Schema.exists_idOf_eq_noKey id holds, ?_⟩⟩
  · exact (exists_congr fun x => FieldType.ofValue_int_eq_ok).trans IntType.exists_ranged
  · exact (exists_congr fun xs => FieldType.ofValue_ints_eq_ok).trans IntType.exists_ranged_list
  · exact ⟨⟨n, range⟩, (Schema.idOf_eq_ok id holds).mpr rfl, rfl⟩
  · intro r' n' holds' k key key'
    exact ((Schema.idOf_eq_ok id holds).mp key).symm.trans ((Schema.idOf_eq_ok id holds').mp key')

/-- Users by a numbered id, with the relations that are loaded. -/
def userColumns : List ColumnSpec :=
  [⟨"id", "i64", .int .int64, .field, true⟩, ⟨"name", "String", .string, .field, true⟩,
    ⟨"relations", "Option<UserRelations>", .option (.record "UserRelations"), .forward, false⟩]

def userNumbered (id : Ranged .int64) (name : String) : Row userColumns :=
  (id, name, none, ())

/-- The largest key of one byte is no key of another id, and the next id has none. -/
theorem narrow_exactly_users :
    let schema := Row.schema "User" userColumns
    let id : Row.Place ⟨"id", "i64", .int .int64, .field, true⟩ userColumns := .here
    let ann := userNumbered ⟨255, by decide⟩ "Ann"
    let bob := userNumbered ⟨256, by decide⟩ "Bob"
    schema.idColumn? = some id.column ∧
    id.column.HoldsWhole ann 255 ∧ id.column.HoldsWhole bob 256 ∧
    (∃ k : Ranged .uint8, schema.idOf (FieldType.int .uint8).ofValue ann = .ok k ∧ k.val = 255) ∧
    ∃ reason, schema.idOf (FieldType.int .uint8).ofValue bob = .error (.noKey reason) := by
  intro schema id ann bob
  have found : schema.idColumn? = some id.column := rfl
  have ann_holds : id.column.HoldsWhole ann 255 := id.holdsWhole ann
  have bob_holds : id.column.HoldsWhole bob 256 := id.holdsWhole bob
  obtain ⟨-, -, keys⟩ := narrow_exactly .uint8
  refine ⟨found, ann_holds, bob_holds, ?_, ?_⟩
  · exact (keys schema id.column found ann 255 ann_holds).1 (by decide)
  · exact (keys schema id.column found bob 256 bob_holds).2.1 (by decide)

end RecordQuery
