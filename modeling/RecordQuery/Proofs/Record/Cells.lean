import RecordQuery.Proofs.Record.Reflection
import RecordQuery.Record.Row

/-!
Rows cell by cell. The column of a cell reads that cell only, and assigns to that cell only.
-/

namespace RecordQuery.Row

variable {spec other : ColumnSpec} {specs : List ColumnSpec}

/-- The place of a declared column among those of a row. -/
inductive Place (spec : ColumnSpec) : List ColumnSpec → Type where
  | here {rest : List ColumnSpec} : Place spec (spec :: rest)
  | there {other : ColumnSpec} {rest : List ColumnSpec} : Place spec rest →
    Place spec (other :: rest)

namespace Place

/-- The cell of a row at the place. -/
def cell : {specs : List ColumnSpec} → Place spec specs → Row specs → spec.fieldType.Carrier
  | _, .here, row => row.1
  | _, .there p, row => p.cell row.2

/-- The row with another cell at the place. -/
def put : {specs : List ColumnSpec} → Place spec specs → spec.fieldType.Carrier → Row specs →
    Row specs
  | _, .here, x, row => (x, row.2)
  | _, .there p, x, row => (row.1, p.put x row.2)

/-- The column of the cell at the place. -/
def column : {specs : List ColumnSpec} → Place spec specs → Column (Row specs)
  | _, .here => headColumn spec _
  | _, .there p => tailColumn p.column

@[simp]
theorem cell_put (p : Place spec specs) (x : spec.fieldType.Carrier) (row : Row specs) :
    p.cell (p.put x row) = x := by
  induction p with
  | here => rfl
  | there p ih => exact ih row.2

theorem cell_put_of_ne (q : Place other specs) (p : Place spec specs)
    (differ : other.name ≠ spec.name) (x : spec.fieldType.Carrier) (row : Row specs) :
    q.cell (p.put x row) = q.cell row := by
  induction p with
  | here =>
    cases q with
    | here => exact absurd rfl differ
    | there q => rfl
  | there p ih =>
    cases q with
    | here => rfl
    | there q => exact ih q row.2

@[simp]
theorem column_name (p : Place spec specs) : p.column.name = spec.name := by
  induction p with
  | here => rfl
  | there p ih => exact ih

@[simp]
theorem column_role (p : Place spec specs) : p.column.role = spec.role := by
  induction p with
  | here => rfl
  | there p ih => exact ih

theorem get_column (p : Place spec specs) (row : Row specs) :
    p.column.get row = (spec.fieldType.toValue (p.cell row)).mapError .failed := by
  induction p with
  | here => rfl
  | there p ih => exact ih row.2

/-- A column that can be read has the widened cell as its value. -/
theorem read_column {p : Place spec specs} {row : Row specs} {value : Value}
    (widens : spec.fieldType.toValue (p.cell row) = .ok value) :
    p.column.read row = .ok value := by
  rw [Column.read, get_column, widens]
  rfl

theorem set?_column (p : Place spec specs) : p.column.set? =
    if spec.isWritable then
      some fun row value => (spec.fieldType.ofValue value).map fun x => p.put x row
    else none := by
  induction p with
  | here => rfl
  | there p ih =>
    simp only [column, tailColumn, ih]
    split
    · refine congrArg some (funext fun row => funext fun value => ?_)
      dsimp only
      cases spec.fieldType.ofValue value <;> rfl
    · rfl

/-- A writable column stores what the value narrows into. The others store nothing. -/
theorem write_column (p : Place spec specs) (row : Row specs) (value : Value) :
    p.column.write row value =
      if spec.isWritable then (spec.fieldType.ofValue value).map fun x => p.put x row
      else .error (.readOnly spec.name) := by
  rw [Column.write, set?_column, column_name]
  by_cases writable : spec.isWritable
  · rw [if_pos writable, if_pos writable]
  · rw [if_neg writable, if_neg writable]

end Place

/-- A row is all its cells. -/
theorem ext {row row' : Row specs}
    (cells : ∀ {spec : ColumnSpec} (p : Place spec specs), p.cell row = p.cell row') :
    row = row' := by
  induction specs with
  | nil => rfl
  | cons spec rest ih => exact Prod.ext (cells .here) (ih fun p => cells p.there)

theorem exists_place {c : Column (Row specs)} :
    c ∈ columns specs ↔ ∃ (spec : ColumnSpec) (p : Place spec specs), c = p.column := by
  induction specs with
  | nil => exact iff_of_false List.not_mem_nil nofun
  | cons other rest ih =>
    rw [columns, List.mem_cons, List.mem_map]
    constructor
    · rintro (rfl | ⟨c, mem, rfl⟩)
      · exact ⟨other, .here, rfl⟩
      · obtain ⟨spec, p, rfl⟩ := ih.mp mem
        exact ⟨spec, p.there, rfl⟩
    · rintro ⟨spec, p, rfl⟩
      cases p with
      | here => exact Or.inl rfl
      | there p => exact Or.inr ⟨p.column, ih.mpr ⟨spec, p, rfl⟩, rfl⟩

theorem Place.mem (p : Place spec specs) : spec ∈ specs := by
  induction p with
  | here => exact List.mem_cons_self
  | there p ih => exact List.mem_cons_of_mem _ ih

theorem exists_place_of_mem (mem : spec ∈ specs) : Nonempty (Place spec specs) := by
  induction specs with
  | nil => cases mem
  | cons other rest ih =>
    rcases List.mem_cons.mp mem with rfl | later
    · exact ⟨.here⟩
    · obtain ⟨p⟩ := ih later
      exact ⟨.there p⟩

theorem map_name_columns (specs : List ColumnSpec) :
    (columns specs).map (·.name) = specs.map (·.name) := by
  induction specs with
  | nil => rfl
  | cons spec rest ih =>
    rw [columns, List.map_cons, List.map_cons, List.map_map, ← ih]
    rfl

/-- If names are not repeated, every column has one place. -/
theorem Place.unique (distinct : (specs.map (·.name)).Nodup) (p q : Place spec specs) : p = q := by
  induction p with
  | here =>
    cases q with
    | here => rfl
    | there q => exact absurd (List.mem_map_of_mem q.mem) (List.nodup_cons.mp distinct).1
  | there p ih =>
    obtain ⟨fresh, distinct⟩ := List.nodup_cons.mp distinct
    cases q with
    | here => exact absurd (List.mem_map_of_mem p.mem) fresh
    | there q => rw [ih distinct q]

variable {type : String}

/-- A name finds the column that has it, if names are not repeated. -/
theorem column?_of_place (distinct : (specs.map (·.name)).Nodup) (p : Place spec specs) :
    (schema type specs).column? spec.name = some p.column := by
  have names : ((schema type specs).columns.map (·.name)).Nodup := by
    rw [← map_name_columns] at distinct
    exact distinct
  exact (Schema.column?_eq_some names).mpr ⟨exists_place.mpr ⟨spec, p, rfl⟩, p.column_name⟩

/-- A name that no column has finds none. -/
theorem column?_of_unknown {name : String} (unknown : name ∉ specs.map (·.name)) :
    (schema type specs).column? name = none := by
  rw [← map_name_columns, List.mem_map] at unknown
  rw [Schema.column?, List.find?_eq_none]
  intro c mem same
  exact unknown ⟨c, mem, beq_iff_eq.mp same⟩

end RecordQuery.Row
