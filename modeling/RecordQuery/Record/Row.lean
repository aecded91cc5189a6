import RecordQuery.Record.FieldType
import RecordQuery.Record.Schema

/-!
Rows: records whose schema follows from a list of typed columns. Every column can be read. A plain
column can be assigned if it has a setter; columns of relations have none.
-/

namespace RecordQuery

/-- The declaration of one column of a row. -/
structure ColumnSpec where
  name : String
  /-- The type as it is declared. -/
  type : String
  fieldType : FieldType
  role : Role := .field
  /-- Whether a setter goes with the column, if it is a plain one. -/
  hasSetter : Bool := true
  deriving DecidableEq, Repr

/-- The column can be assigned. -/
def ColumnSpec.isWritable (spec : ColumnSpec) : Bool :=
  spec.role == .field && spec.hasSetter

/-- One cell for every declared column. -/
abbrev Row : List ColumnSpec → Type
  | [] => Unit
  | spec :: rest => spec.fieldType.Carrier × Row rest

namespace Row

/-- Every cell as its type leaves it at first. -/
def blank : (specs : List ColumnSpec) → Row specs
  | [] => ()
  | spec :: rest => (spec.fieldType.blank, blank rest)

/-- The cell of a nested record that reads as given, if there is one, within the options and
boxes of the type; every other cell as its type leaves it at first. -/
def nestedCell (reading : Option (Except Error Snapshot)) : (t : FieldType) → t.Carrier
  | .option t => reading.map fun reading => nestedCell (some reading) t
  | .boxed t => nestedCell reading t
  | .record type => reading.getD (FieldType.record type).blank
  | t => t.blank

/-- A row that holds the given nested records, by column name, and is blank otherwise. -/
def holding (nested : List (String × Except Error Snapshot)) :
    (specs : List ColumnSpec) → Row specs
  | [] => ()
  | spec :: rest => (nestedCell (nested.lookup spec.name) spec.fieldType, holding nested rest)

/-- The column of a row's first cell. -/
def headColumn (spec : ColumnSpec) (rest : List ColumnSpec) : Column (Row (spec :: rest)) where
  name := spec.name
  type := spec.type
  role := spec.role
  get row := (spec.fieldType.toValue row.1).mapError .failed
  set? :=
    if spec.isWritable then
      some fun row value => (spec.fieldType.ofValue value).map fun cell => (cell, row.2)
    else none

/-- A column of the cells after the first. -/
def tailColumn {spec : ColumnSpec} {rest : List ColumnSpec} (c : Column (Row rest)) :
    Column (Row (spec :: rest)) where
  name := c.name
  type := c.type
  role := c.role
  get row := c.get row.2
  set? := c.set?.map fun set row value => (set row.2 value).map fun cells => (row.1, cells)

/-- The columns of rows in the order of their declaration. -/
def columns : (specs : List ColumnSpec) → List (Column (Row specs))
  | [] => []
  | spec :: rest => headColumn spec rest :: (columns rest).map tailColumn

/-- The schema of rows. -/
def schema (name : String) (specs : List ColumnSpec) : Schema (Row specs) :=
  ⟨name, columns specs⟩

end Row

end RecordQuery
