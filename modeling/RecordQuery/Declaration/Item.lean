import RecordQuery.Declaration.ColumnOptions
import RecordQuery.Record.Schema

/-!
Declarations of record types. A struct with named fields declares a column for every field that
is not skipped.
-/

namespace RecordQuery.Declaration

/-- A named field of a struct. -/
structure Field where
  attributes : List Attribute
  name : Word
  type : List Token
  deriving Repr

/-- What an item is made of. -/
inductive Shape where
  | named (fields : List Field)
  /-- A struct whose fields have no names, or that has none. -/
  | unnamed
  /-- Not a struct. -/
  | other
  deriving Repr

/-- An item that may declare a record type. -/
structure Item where
  name : Word
  hasParameters : Bool
  shape : Shape
  deriving Repr

/-- A column as it is declared. Only the columns of plain fields can be assigned. -/
structure DeclaredColumn where
  name : String
  /-- The text of the field's type, without any space. -/
  type : String
  role : Role
  /-- The field that the column reads and assigns. -/
  field : String
  deriving DecidableEq, Repr

def DeclaredColumn.isWritable (c : DeclaredColumn) : Bool :=
  c.role == .field

/-- The declared schema of a record type. -/
structure DeclaredSchema where
  name : String
  columns : List DeclaredColumn
  deriving DecidableEq, Repr

/-- How the fields of a record are read and assigned, by their names. -/
structure Accessors (ρ : Type) where
  get : String → ρ → Except Fault Value
  set : String → ρ → Value → Except Error ρ

/-- The schema of records with the given accessors. -/
def DeclaredSchema.schema {ρ : Type} (declared : DeclaredSchema) (accessors : Accessors ρ) :
    Schema ρ where
  name := declared.name
  columns := declared.columns.map fun c =>
    { name := c.name
      type := c.type
      role := c.role
      get := accessors.get c.field
      set? := if c.isWritable then some (accessors.set c.field) else none }

namespace ColumnOptions

/-- The role of a column with the given options. -/
def role (options : ColumnOptions) : Role :=
  if options.relations then .forward
  else if options.backRelations then .back
  else .field

/-- The column of a field with the given options. Unless it is renamed it has the name of the
field. -/
def column (options : ColumnOptions) (f : Field) : DeclaredColumn where
  name := options.name?.getD f.name.name
  type := Token.compactText f.type
  role := options.role
  field := f.name.name

end ColumnOptions

/-- The columns of fields, where columns of the names `taken` stand before. -/
def columnsAfter (taken : List String) : List Field → Except Problem (List DeclaredColumn)
  | [] => .ok []
  | f :: rest => do
    let options ← ColumnOptions.ofAttributes f.attributes
    if options.skips then columnsAfter taken rest
    else
      let c := options.column f
      if taken.contains c.name then throw (.duplicateColumn c.name)
      else return c :: (← columnsAfter (c.name :: taken) rest)

namespace Item

/-- The schema that an item declares. -/
def schema (item : Item) : Except Problem DeclaredSchema :=
  match item.shape with
  | .other => .error .notStruct
  | .unnamed => .error .fieldsNotNamed
  | .named fields =>
    if item.hasParameters then .error .generic
    else (columnsAfter [] fields).map fun columns => ⟨item.name.name, columns⟩

end Item

end RecordQuery.Declaration
