import RecordQuery.Assoc
import RecordQuery.Name
import RecordQuery.Scalar

/-!
Values of columns, and snapshots of records. A snapshot holds the values of a record's columns
and, apart from them, the snapshots of its loaded relations.
-/

namespace RecordQuery

/-- A list of scalars of one kind. -/
inductive Items where
  | bools (bs : List Bool)
  | ints (ns : List Int64)
  | uints (ns : List UInt64)
  | floats (xs : List Binary64)
  | strings (ss : List String)
  deriving DecidableEq, Repr

mutual

/-- The value of a column. -/
inductive Value where
  | null
  | scalar (s : Scalar)
  | list (items : Items)
  | nested (snapshot : Snapshot)
  deriving Repr

/-- The columns of a record, and its forward and back relations under their canonical names. -/
inductive Snapshot where
  | mk (fields : List (String × Value)) (forward back : List (String × Snapshot))
  deriving Repr

end

/-! Equality of values is decided by walking both of them. -/

mutual

private def Value.decEq : (a b : Value) → Decidable (a = b)
  | .null, .null => isTrue rfl
  | .scalar s, .scalar t =>
    if h : s = t then isTrue (by rw [h]) else isFalse fun e => h (Value.scalar.inj e)
  | .list xs, .list ys =>
    if h : xs = ys then isTrue (by rw [h]) else isFalse fun e => h (Value.list.inj e)
  | .nested m, .nested n =>
    match Snapshot.decEq m n with
    | isTrue h => isTrue (by rw [h])
    | isFalse h => isFalse fun e => h (Value.nested.inj e)
  | .null, .scalar _ => isFalse nofun
  | .null, .list _ => isFalse nofun
  | .null, .nested _ => isFalse nofun
  | .scalar _, .null => isFalse nofun
  | .scalar _, .list _ => isFalse nofun
  | .scalar _, .nested _ => isFalse nofun
  | .list _, .null => isFalse nofun
  | .list _, .scalar _ => isFalse nofun
  | .list _, .nested _ => isFalse nofun
  | .nested _, .null => isFalse nofun
  | .nested _, .scalar _ => isFalse nofun
  | .nested _, .list _ => isFalse nofun

private def Snapshot.decEq : (a b : Snapshot) → Decidable (a = b)
  | .mk fields forward back, .mk fields' forward' back' =>
    match decEqFields fields fields', decEqRelations forward forward',
        decEqRelations back back' with
    | isTrue hf, isTrue hr, isTrue hb => isTrue (by rw [hf, hr, hb])
    | isFalse h, _, _ => isFalse fun e => h (Snapshot.mk.inj e).1
    | _, isFalse h, _ => isFalse fun e => h (Snapshot.mk.inj e).2.1
    | _, _, isFalse h => isFalse fun e => h (Snapshot.mk.inj e).2.2

private def decEqFields : (a b : List (String × Value)) → Decidable (a = b)
  | [], [] => isTrue rfl
  | [], _ :: _ => isFalse nofun
  | _ :: _, [] => isFalse nofun
  | (name, v) :: rest, (name', v') :: rest' =>
    if hn : name = name' then
      match Value.decEq v v', decEqFields rest rest' with
      | isTrue hv, isTrue hr => isTrue (by rw [hn, hv, hr])
      | isFalse h, _ => isFalse fun e => h (Prod.mk.inj (List.cons.inj e).1).2
      | _, isFalse h => isFalse fun e => h (List.cons.inj e).2
    else isFalse fun e => hn (Prod.mk.inj (List.cons.inj e).1).1

private def decEqRelations : (a b : List (String × Snapshot)) → Decidable (a = b)
  | [], [] => isTrue rfl
  | [], _ :: _ => isFalse nofun
  | _ :: _, [] => isFalse nofun
  | (name, s) :: rest, (name', s') :: rest' =>
    if hn : name = name' then
      match Snapshot.decEq s s', decEqRelations rest rest' with
      | isTrue hs, isTrue hr => isTrue (by rw [hn, hs, hr])
      | isFalse h, _ => isFalse fun e => h (Prod.mk.inj (List.cons.inj e).1).2
      | _, isFalse h => isFalse fun e => h (List.cons.inj e).2
    else isFalse fun e => hn (Prod.mk.inj (List.cons.inj e).1).1

end

instance : DecidableEq Value := Value.decEq

instance : DecidableEq Snapshot := Snapshot.decEq

namespace Value

def kind : Value → Kind
  | .null => .null
  | .scalar s => s.kind
  | .list _ => .list
  | .nested _ => .snapshot

def isNull : Value → Bool
  | .null => true
  | _ => false

/-- The value is null or the zero of its kind. Lists and nested records are never zero. -/
def isZero : Value → Bool
  | .null => true
  | .scalar s => s.isZero
  | .list _ => false
  | .nested _ => false

end Value

namespace Snapshot

def empty : Snapshot := ⟨[], [], []⟩

instance : Inhabited Snapshot := ⟨empty⟩

/-- The columns, by name. -/
def fields : Snapshot → Assoc String Value
  | .mk fields _ _ => fields

/-- The forward relations, by canonical name. -/
def forward : Snapshot → Assoc String Snapshot
  | .mk _ forward _ => forward

/-- The back relations, by canonical name. -/
def back : Snapshot → Assoc String Snapshot
  | .mk _ _ back => back

/-- Sets a column. -/
def withField (s : Snapshot) (column : String) (value : Value) : Snapshot :=
  ⟨s.fields.insert column value, s.forward, s.back⟩

/-- Stores a forward relation under the canonical form of its name. -/
def withForward (s : Snapshot) (name : String) (related : Snapshot) : Snapshot :=
  ⟨s.fields, s.forward.insert (Name.canonical name) related, s.back⟩

/-- Stores a back relation under the canonical form of its name. -/
def withBack (s : Snapshot) (name : String) (related : Snapshot) : Snapshot :=
  ⟨s.fields, s.forward, s.back.insert (Name.canonical name) related⟩

/-- The relation of a name in any spelling. A forward relation hides a back relation. -/
def relation? (s : Snapshot) (name : String) : Option Snapshot :=
  let key := Name.canonical name
  (s.forward.find? key).or (s.back.find? key)

/-- Table names that address the record itself. -/
def isOwnTable (table : String) : Bool :=
  table == "" || table == "*" || table == "-"

/-- The snapshot whose columns a table name addresses. -/
def holder? (s : Snapshot) : Option String → Option Snapshot
  | none => some s
  | some table => if isOwnTable table then some s else s.relation? table

/-- The value of a column of the record itself or of one of its relations. -/
def get? (s : Snapshot) (table : Option String) (column : String) : Option Value :=
  (s.holder? table).bind fun holder => holder.fields.find? column

end Snapshot

end RecordQuery
