import RecordQuery.Error
import RecordQuery.Json.Basic
import RecordQuery.Number.Binary32
import RecordQuery.Time.Timestamp

/-!
Types of record fields: what a field of each type holds, how it widens into a value, and which
values narrow back into it. Numbers are checked against the range of the type, so narrowing
never wraps.
-/

namespace RecordQuery

/-- The types of whole numbers. -/
inductive IntType where
  | int8 | int16 | int32 | int64 | intSize
  | uint8 | uint16 | uint32 | uint64 | uintSize
  deriving DecidableEq, Repr

namespace IntType

def name : IntType → String
  | .int8 => "i8"
  | .int16 => "i16"
  | .int32 => "i32"
  | .int64 => "i64"
  | .intSize => "isize"
  | .uint8 => "u8"
  | .uint16 => "u16"
  | .uint32 => "u32"
  | .uint64 => "u64"
  | .uintSize => "usize"

def isSigned : IntType → Bool
  | .int8 | .int16 | .int32 | .int64 | .intSize => true
  | .uint8 | .uint16 | .uint32 | .uint64 | .uintSize => false

/-- The least number of the type. -/
def least : IntType → Int
  | .int8 => -0x80
  | .int16 => -0x8000
  | .int32 => -0x80000000
  | .int64 | .intSize => -0x8000000000000000
  | .uint8 | .uint16 | .uint32 | .uint64 | .uintSize => 0

/-- The greatest number of the type. -/
def greatest : IntType → Int
  | .int8 => 0x7F
  | .int16 => 0x7FFF
  | .int32 => 0x7FFFFFFF
  | .int64 | .intSize => 0x7FFFFFFFFFFFFFFF
  | .uint8 => 0xFF
  | .uint16 => 0xFFFF
  | .uint32 => 0xFFFFFFFF
  | .uint64 | .uintSize => 0xFFFFFFFFFFFFFFFF

end IntType

/-- A number in the range of a type. -/
abbrev Ranged (t : IntType) := { n : Int // t.least ≤ n ∧ n ≤ t.greatest }

namespace Ranged

variable {t : IntType}

instance : Inhabited (Ranged t) := ⟨⟨0, by cases t <;> decide⟩⟩

/-- The number, if the type has it. -/
def ofInt? (t : IntType) (n : Int) : Option (Ranged t) :=
  if h : t.least ≤ n ∧ n ≤ t.greatest then some ⟨n, h⟩ else none

/-- The number as a scalar of 64 bits, signed as its type is. -/
def toScalar (n : Ranged t) : Scalar :=
  if t.isSigned then .int (Int64.ofInt n.val) else .uint (UInt64.ofNat n.val.toNat)

/-- Numbers as a list of scalars of 64 bits. -/
def toItems (ns : List (Ranged t)) : Items :=
  if t.isSigned then .ints (ns.map fun n => Int64.ofInt n.val)
  else .uints (ns.map fun n => UInt64.ofNat n.val.toNat)

end Ranged

/-- The types of record fields. -/
inductive FieldType where
  | int (t : IntType)
  /-- A float of single precision. -/
  | single
  | double
  | bool
  | string
  | bytes
  | ints (t : IntType)
  | singles
  | doubles
  | bools
  | strings
  /-- An instant in UTC. -/
  | time
  /-- An instant with an offset from UTC. -/
  | localTime
  | json
  | option (t : FieldType)
  | boxed (t : FieldType)
  /-- A record of the named type. It can be read but not assigned. -/
  | record (type : String)
  deriving DecidableEq, Repr

namespace FieldType

/-- What a field of the type holds. Of a nested record only its reading matters. -/
abbrev Carrier : FieldType → Type
  | .int t => Ranged t
  | .single => Binary32
  | .double => Binary64
  | .bool => Bool
  | .string => String
  | .bytes => List UInt8
  | .ints t => List (Ranged t)
  | .singles => List Binary32
  | .doubles => List Binary64
  | .bools => List Bool
  | .strings => List String
  | .time | .localTime => Instant
  | .json => Json
  | .option t => Option t.Carrier
  | .boxed t => t.Carrier
  | .record _ => Except Error Snapshot

/-- The type as mismatches name it. Layers of options and boxes do not show. -/
def name : FieldType → String
  | .int t => t.name
  | .single => "f32"
  | .double => "f64"
  | .bool => "bool"
  | .string => "alloc::string::String"
  | .bytes => "alloc::vec::Vec<u8>"
  | .ints t => "alloc::vec::Vec<" ++ t.name ++ ">"
  | .singles => "alloc::vec::Vec<f32>"
  | .doubles => "alloc::vec::Vec<f64>"
  | .bools => "alloc::vec::Vec<bool>"
  | .strings => "alloc::vec::Vec<alloc::string::String>"
  | .time | .localTime => "chrono::datetime::DateTime<chrono::offset::utc::Utc>"
  | .json => "serde_json::value::Value"
  | .option t => t.name
  | .boxed t => t.name
  | .record type => type

/-- What a field holds at first: zero, empty, false, absent, or the start of 1970. -/
def blank : (t : FieldType) → t.Carrier
  | .int _ => default
  | .single => Binary32.zero
  | .double => Binary64.zero
  | .bool => false
  | .string => ""
  | .bytes => []
  | .ints _ => []
  | .singles | .doubles => []
  | .bools => []
  | .strings => []
  | .time | .localTime => ⟨0, 0⟩
  | .json => .null
  | .option _ => none
  | .boxed t => t.blank
  | .record _ => .ok .empty

/-- Widens what a field holds. -/
def toValue : (t : FieldType) → t.Carrier → Except Error Value
  | .int _, n => .ok (.scalar (Ranged.toScalar n))
  | .single, x => .ok (.scalar (.float x.widen))
  | .double, x => .ok (.scalar (.float x))
  | .bool, b => .ok (.scalar (.bool b))
  | .string, s => .ok (.scalar (.string s))
  | .bytes, bs => .ok (.scalar (.bytes bs))
  | .ints _, ns => .ok (.list (Ranged.toItems ns))
  | .singles, xs => .ok (.list (.floats (xs.map Binary32.widen)))
  | .doubles, xs => .ok (.list (.floats xs))
  | .bools, bs => .ok (.list (.bools bs))
  | .strings, ss => .ok (.list (.strings ss))
  | .time, t | .localTime, t => .ok (.scalar (.time t))
  | .json, document =>
    if document.isNull then .ok .null
    else .ok (.scalar (.bytes document.text.toUTF8.data.toList))
  | .option _, none => .ok .null
  | .option t, some x => t.toValue x
  | .boxed t, x => t.toValue x
  | .record _, reading => reading.map .nested

/-- The error of a value of the given kind that does not narrow into the type. -/
def mismatch {α : Type} (type : String) (actual : Kind) : Except Error α :=
  .error (.mismatch .assign actual type)

/-- The number as one of the type, unless it is out of range. -/
def narrowInt (t : IntType) (actual : Kind) (n : Int) : Except Error (Ranged t) :=
  match Ranged.ofInt? t n with
  | some n => .ok n
  | none => mismatch t.name actual

/-- Numbers narrow one by one, up to the first that is out of range. -/
def narrowInts (t : IntType) (actual : Kind) : List Int → Except Error (List (Ranged t))
  | [] => .ok []
  | n :: rest =>
    match narrowInt t actual n with
    | .error e => .error e
    | .ok n => (narrowInts t actual rest).map (n :: ·)

private def readTime? (s : String) : Option Instant :=
  Timestamp.read? s.toList

private def readJson? (bytes : List UInt8) : Option Json :=
  (String.fromUTF8? ⟨bytes.toArray⟩).bind fun s => Json.read? s.toList

/-- Narrows a value into what a field of the type holds. -/
def ofValue : (t : FieldType) → Value → Except Error t.Carrier
  | .int t, v =>
    match v with
    | .scalar (.int n) => narrowInt t .int n.toInt
    | .scalar (.uint n) => narrowInt t .uint n.toNat
    | v => mismatch t.name v.kind
  | .single, v =>
    match v with
    | .scalar (.float x) => .ok x.narrow
    | .scalar (.int n) => .ok (Binary32.ofInt n.toInt)
    | .scalar (.uint n) => .ok (Binary32.ofInt n.toNat)
    | v => mismatch "f32" v.kind
  | .double, v =>
    match v with
    | .scalar (.float x) => .ok x
    | .scalar (.int n) => .ok (Binary64.ofInt n.toInt)
    | .scalar (.uint n) => .ok (Binary64.ofInt n.toNat)
    | v => mismatch "f64" v.kind
  | .bool, v =>
    match v with
    | .scalar (.bool b) => .ok b
    | v => mismatch FieldType.bool.name v.kind
  | .string, v =>
    match v with
    | .scalar (.string s) => .ok s
    | v => mismatch FieldType.string.name v.kind
  | .bytes, v =>
    match v with
    | .scalar (.bytes bs) => .ok bs
    | .scalar (.string s) => .ok s.toUTF8.data.toList
    | v => mismatch FieldType.bytes.name v.kind
  | .ints t, v =>
    match v, t.isSigned with
    | .list (.ints ns), true => narrowInts t .int (ns.map Int64.toInt)
    | .list (.uints ns), false => narrowInts t .uint (ns.map fun n => (n.toNat : Int))
    | v, _ => mismatch (FieldType.ints t).name v.kind
  | .singles, v =>
    match v with
    | .list (.floats xs) => .ok (xs.map Binary64.narrow)
    | v => mismatch FieldType.singles.name v.kind
  | .doubles, v =>
    match v with
    | .list (.floats xs) => .ok xs
    | v => mismatch FieldType.doubles.name v.kind
  | .bools, v =>
    match v with
    | .list (.bools bs) => .ok bs
    | v => mismatch FieldType.bools.name v.kind
  | .strings, v =>
    match v with
    | .list (.strings ss) => .ok ss
    | v => mismatch FieldType.strings.name v.kind
  | .time, v | .localTime, v =>
    match v with
    | .scalar (.time t) => .ok t
    | .scalar (.string s) =>
      match readTime? s with
      | some t => .ok t
      | none => mismatch FieldType.time.name .string
    | v => mismatch FieldType.time.name v.kind
  | .json, v =>
    match v with
    | .null => .ok .null
    | .scalar (.bytes bs) =>
      match readJson? bs with
      | some document => .ok document
      | none => mismatch FieldType.json.name .bytes
    | .scalar (.string s) =>
      match Json.read? s.toList with
      | some document => .ok document
      | none => mismatch FieldType.json.name .string
    | v => mismatch FieldType.json.name v.kind
  | .option t, v =>
    match v with
    | .null => .ok none
    | v => (t.ofValue v).map some
  | .boxed t, v => t.ofValue v
  | .record type, v => mismatch type v.kind

end FieldType

end RecordQuery
