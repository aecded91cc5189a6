import RecordQuery.Error

/-!
Schemas of record types: the columns of a type in their order, each with an accessor and perhaps
a setter. A schema gives the snapshot of a record, and assigns values to a record by column.
-/

namespace RecordQuery

/-- What a column is: a plain field, or the relations loaded in one direction. -/
inductive Role where
  | field | forward | back
  deriving DecidableEq, Repr

/-- Why an accessor gives no value. -/
inductive Fault where
  | failed (e : Error)
  /-- The accessor broke down, perhaps with a message. -/
  | crashed (message : Option String)
  deriving Repr

/-- One column of the records of type `ρ`. -/
structure Column (ρ : Type) where
  name : String
  /-- The type as it is declared. -/
  type : String
  role : Role
  get : ρ → Except Fault Value
  /-- Stores a value. A column without a setter is read-only. -/
  set? : Option (ρ → Value → Except Error ρ)

namespace Column

variable {ρ : Type}

def isWritable (c : Column ρ) : Bool :=
  c.set?.isSome

/-- The value of the column. A broken accessor makes the column unreadable, and an error that
names no column takes the name of this one. -/
def read (c : Column ρ) (r : ρ) : Except Error Value :=
  match c.get r with
  | .ok value => .ok value
  | .error (.failed e) => .error (e.inColumn c.name)
  | .error (.crashed message) =>
    .error (.unreadable c.name c.type (message.getD "accessor panicked"))

/-- The record with a value assigned to the column. -/
def write (c : Column ρ) (r : ρ) (value : Value) : Except Error ρ :=
  match c.set? with
  | some set => set r value
  | none => .error (.readOnly c.name)

/-- The relations among the entries of a holder. Entries that are null stand for relations that
are not loaded. -/
def loaded (c : Column ρ) : List (String × Value) → Except Error (List (String × Snapshot))
  | [] => .ok []
  | (_, .null) :: rest => loaded c rest
  | (name, .nested related) :: rest =>
    match loaded c rest with
    | .error e => .error e
    | .ok rest => .ok ((name, related) :: rest)
  | (name, value) :: _ =>
    .error (.unreadable (c.name ++ "." ++ name) value.kind.name "relation entries must be records")

/-- The relations in the value of a relation column. -/
def relations (c : Column ρ) : Value → Except Error (List (String × Snapshot))
  | .null => .ok []
  | .nested holder => loaded c holder.fields
  | value =>
    .error (.unreadable c.name c.type ("relations must be a record, got " ++ value.kind.name))

/-- Adds the value of a column to a snapshot. -/
def addTo (c : Column ρ) (value : Value) (s : Snapshot) : Except Error Snapshot :=
  match c.role with
  | .field => .ok (s.withField c.name value)
  | .forward => do
    let entries ← c.relations value
    return entries.foldl (fun s entry => s.withForward entry.1 entry.2) s
  | .back => do
    let entries ← c.relations value
    return entries.foldl (fun s entry => s.withBack entry.1 entry.2) s

end Column

/-- The columns of a record type. -/
structure Schema (ρ : Type) where
  name : String
  columns : List (Column ρ)

namespace Schema

variable {ρ : Type}

/-- The table that holds records of the type. -/
def table (schema : Schema ρ) : String :=
  Name.table schema.name

/-- The first column of a name. -/
def column? (schema : Schema ρ) (name : String) : Option (Column ρ) :=
  schema.columns.find? fun c => c.name == name

/-- Adds the columns of a record to a snapshot, up to the first that cannot be read. -/
def addColumns (r : ρ) : List (Column ρ) → Snapshot → Except Error Snapshot
  | [], s => .ok s
  | c :: rest, s => do
    let value ← c.read r
    addColumns r rest (← c.addTo value s)

/-- The snapshot of a record. -/
def reflect (schema : Schema ρ) (r : ρ) : Except Error Snapshot :=
  addColumns r schema.columns .empty

/-- The record with one value assigned. A name that is no column changes nothing. -/
def assign (schema : Schema ρ) (r : ρ) (name : String) (value : Value) : Except Error ρ :=
  match schema.column? name with
  | some c => c.write r value
  | none => .ok r

/-- Assigns values in order, up to the first that fails. The record keeps what was assigned
before. -/
def merge (schema : Schema ρ) (r : ρ) : List (String × Value) → ρ × Except Error Unit
  | [] => (r, .ok ())
  | (name, value) :: rest =>
    match schema.assign r name value with
    | .error e => (r, .error e)
    | .ok r => schema.merge r rest

end Schema

end RecordQuery
