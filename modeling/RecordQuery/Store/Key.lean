import RecordQuery.Record.FieldType
import RecordQuery.Record.Schema

/-!
Keys of stores: the types that can be keys, their order and text, and the key that a record has
by its id column.
-/

namespace RecordQuery

/-- The types of keys. -/
inductive KeyType where
  | int (t : IntType)
  | bool
  | string
  | bytes
  | option (t : KeyType)
  deriving DecidableEq, Repr

namespace KeyType

/-- The type of a field that holds such a key. -/
abbrev fieldType : KeyType → FieldType
  | .int t => .int t
  | .bool => .bool
  | .string => .string
  | .bytes => .bytes
  | .option t => .option t.fieldType

abbrev Carrier (t : KeyType) : Type := t.fieldType.Carrier

/-- The order of keys. False comes before true, and no key before any key. -/
def order : (t : KeyType) → t.Carrier → t.Carrier → Ordering
  | .int _, a, b => compare a.val b.val
  | .bool, a, b => compare a.toNat b.toNat
  | .string, a, b => compare a b
  | .bytes, a, b => List.compareLex (fun x y => compare x.toNat y.toNat) a b
  | .option t, a, b =>
    match a, b with
    | none, none => .eq
    | none, some _ => .lt
    | some _, none => .gt
    | some a, some b => t.order a b

instance (t : KeyType) : Ord t.Carrier := ⟨t.order⟩

/-- The text of a key in messages. -/
def text : (t : KeyType) → t.Carrier → String
  | .int _, n => toString n.val
  | .bool, b => if b then "true" else "false"
  | .string, s => Text.quoted s
  | .bytes, bs => "[" ++ ", ".intercalate (bs.map fun b => toString b.toNat) ++ "]"
  | .option t, k =>
    match k with
    | none => "None"
    | some k => "Some(" ++ t.text k ++ ")"

end KeyType

namespace Schema

/-- The names of key columns, in order of preference. -/
def idNames : List String := ["id", "ID", "Id", "iD", "_id"]

/-- The plain column that holds the key. -/
def idColumn? {ρ : Type} (schema : Schema ρ) : Option (Column ρ) :=
  (idNames.filterMap schema.column?).find? fun c => c.role == .field

/-- The key of a record by its id column, narrowed into the type of keys. -/
def idOf {ρ κ : Type} (schema : Schema ρ) (narrow : Value → Except Error κ) (r : ρ) :
    Except Error κ :=
  match schema.idColumn? with
  | none => .error (.noKey (schema.name ++ " has no id column"))
  | some c => do
    let value ← c.read r
    match narrow value with
    | .ok key => .ok key
    | .error e => .error (.noKey (schema.name ++ "." ++ c.name ++ ": " ++ e.message))

end Schema

end RecordQuery
