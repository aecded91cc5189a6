import RecordQuery.Declaration.Item
import RecordQuery.Proofs.Record.Reflection

/-!
Declared columns. A struct declares a schema if its fields are named, it has no parameters, the
options of every field can be read, and no two columns would have one name. The schema then has a
column for every field that is not skipped, in the order of the fields. While the fields are gone
through, the names that are taken are exactly those of the columns before, so a name can clash with
any of them, whether it was given or is that of the field.
-/

namespace RecordQuery

namespace Declaration

namespace ColumnOptions

/-- The options that the attributes of a field state. They are those in the first `column`
attribute, and there are none without one. -/
inductive StatedBy : List Attribute → ColumnOptions → Prop
  | none {attributes : List Attribute} (absent : ∀ a ∈ attributes, a.path.isWord "column" = false) :
      StatedBy attributes {}
  | first {before : List Attribute} {a : Attribute} (after : List Attribute) {body : List Token}
      {options : ColumnOptions} (absent : ∀ b ∈ before, b.path.isWord "column" = false)
      (column : a.path.isWord "column" = true) (listed : a.argument = .list body)
      (read : ColumnOptions.read body = .ok options) : StatedBy (before ++ a :: after) options

/-- The first `column` attribute is read, whatever stands around it. -/
theorem ofAttributes_first {before : List Attribute} {a : Attribute} (after : List Attribute)
    {body : List Token} (absent : ∀ b ∈ before, b.path.isWord "column" = false)
    (column : a.path.isWord "column" = true) (listed : a.argument = .list body) :
    ofAttributes (before ++ a :: after) = ColumnOptions.read body := by
  have found : (before ++ a :: after).find? (fun a => a.path.isWord "column") = some a :=
    List.find?_eq_some_iff_append.mpr ⟨column, before, after, rfl, by simpa using absent⟩
  simp only [ofAttributes, found, listed]

theorem ofAttributes_eq_ok {attributes : List Attribute} {options : ColumnOptions} :
    ofAttributes attributes = .ok options ↔ StatedBy attributes options := by
  unfold ofAttributes
  constructor
  · intro accepted
    split at accepted
    next found =>
      cases accepted
      refine .none fun a mem => ?_
      simpa using List.find?_eq_none.mp found a mem
    next a found =>
      obtain ⟨column, before, after, rfl, absent⟩ := List.find?_eq_some_iff_append.mp found
      split at accepted
      next body listed => exact .first after (by simpa using absent) column listed accepted
      next => cases accepted
      next => cases accepted
  · intro stated
    cases stated with
    | none absent =>
      rw [List.find?_eq_none.mpr (by simpa using absent)]
    | first after absent column listed read =>
      exact (ofAttributes_first after absent column listed).trans read

theorem check_eq_ok {options result : ColumnOptions} : options.check = .ok result ↔
    result = options ∧ ¬ (options.relations = true ∧ options.backRelations = true) ∧
      (options.skips = true → options.relations = false ∧ options.backRelations = false ∧
        options.name? = none) := by
  obtain ⟨skips, name?, relations, backRelations⟩ := options
  cases skips <;> cases relations <;> cases backRelations <;> cases name? <;>
    simp [check, eq_comm]

/-- Options that are read never name both directions of relations. -/
theorem oneDirection_of_addParts {options result : ColumnOptions} {parts : List (List Token)}
    (accepted : options.addParts parts = .ok result) :
    ¬ (result.relations = true ∧ result.backRelations = true) := by
  have checked {options : ColumnOptions} (accepted : options.check = .ok result) :
      ¬ (result.relations = true ∧ result.backRelations = true) := by
    obtain ⟨rfl, oneDirection, -⟩ := check_eq_ok.mp accepted
    exact oneDirection
  induction options, parts using addParts.induct with
  | case1 options => exact checked accepted
  | case2 options => exact checked accepted
  | case3 options part notEmpty =>
    rw [addParts.eq_3 options part notEmpty] at accepted
    simp only [bind_eq_ok] at accepted
    obtain ⟨⟨option, rest⟩, -, added, -, accepted⟩ := accepted
    split at accepted
    · exact checked accepted
    · cases accepted
  | case4 options part parts notLast notEmpty ih =>
    rw [addParts.eq_4 options part parts notLast notEmpty] at accepted
    simp only [bind_eq_ok] at accepted
    obtain ⟨⟨option, rest⟩, -, added, -, accepted⟩ := accepted
    split at accepted
    · exact ih added accepted
    · cases accepted

/-- The options of a field never name both directions of relations. -/
theorem StatedBy.oneDirection {attributes : List Attribute} {options : ColumnOptions}
    (stated : StatedBy attributes options) :
    ¬ (options.relations = true ∧ options.backRelations = true) := by
  cases stated with
  | none => exact fun both => Bool.false_ne_true both.1
  | first after absent column listed read => exact oneDirection_of_addParts read

theorem role_spec {options : ColumnOptions}
    (oneDirection : ¬ (options.relations = true ∧ options.backRelations = true)) :
    (options.role = .forward ↔ options.relations = true) ∧
    (options.role = .back ↔ options.backRelations = true) ∧
    (options.role = .field ↔ options.relations = false ∧ options.backRelations = false) := by
  obtain ⟨skips, name?, relations, backRelations⟩ := options
  cases relations <;> cases backRelations <;> simp_all [role]

end ColumnOptions

open ColumnOptions (StatedBy)

/-- The options of every field can be read. -/
def AllStated (fields : List Field) (options : List ColumnOptions) : Prop :=
  List.Forall₂ (fun f given => StatedBy f.attributes given) fields options

/-- The fields that are not skipped, in their order, each with its options. -/
def kept (fields : List Field) (options : List ColumnOptions) : List (Field × ColumnOptions) :=
  (fields.zip options).filter fun p => !p.2.skips

/-- The name of the column of a field: the one that is given, or else the name of the field. -/
def columnName (p : Field × ColumnOptions) : String :=
  p.2.name?.getD p.1.name.name

theorem kept_cons_of_skips {f : Field} {given : ColumnOptions} (skips : given.skips = true)
    (fields : List Field) (options : List ColumnOptions) :
    kept (f :: fields) (given :: options) = kept fields options := by
  rw [kept, List.zip_cons_cons, List.filter_cons_of_neg (by simp [skips])]
  rfl

theorem kept_cons_of_keeps {f : Field} {given : ColumnOptions} (keeps : given.skips = false)
    (fields : List Field) (options : List ColumnOptions) :
    kept (f :: fields) (given :: options) = (f, given) :: kept fields options := by
  rw [kept, List.zip_cons_cons, List.filter_cons_of_pos (by simp [keeps])]
  rfl

/-- A field is skipped, or its column comes before the others under a name that is not taken. -/
theorem columnsAfter_cons {taken : List String} {f : Field} {rest : List Field}
    {columns : List DeclaredColumn} : columnsAfter taken (f :: rest) = .ok columns ↔
      ∃ given, StatedBy f.attributes given ∧
        (given.skips = true ∧ columnsAfter taken rest = .ok columns ∨
          given.skips = false ∧ columnName (f, given) ∉ taken ∧
            ∃ others, columnsAfter (columnName (f, given) :: taken) rest = .ok others ∧
              columns = given.column f :: others) := by
  rw [columnsAfter, bind_eq_ok]
  refine exists_congr fun given => and_congr ColumnOptions.ofAttributes_eq_ok ?_
  have name : (given.column f).name = columnName (f, given) := rfl
  cases skips : given.skips with
  | true => simp
  | false =>
    by_cases clash : columnName (f, given) ∈ taken
    · simp [name, clash, throw, throwThe, MonadExceptOf.throw]
    · simp only [name, clash, List.contains_eq_mem, decide_false, Bool.false_eq_true, if_false,
        false_and, not_false_eq_true, true_and, false_or, bind_eq_ok]
      refine exists_congr fun others => and_congr_right fun _ => ?_
      exact ⟨fun done => (Except.ok.inj done).symm, fun same => congrArg Except.ok same.symm⟩

/-- The columns that are declared behind others are those of the kept fields, if none of their names
is taken or repeated. -/
theorem columnsAfter_eq_ok {taken : List String} {fields : List Field}
    {columns : List DeclaredColumn} : columnsAfter taken fields = .ok columns ↔
      ∃ options, AllStated fields options ∧ ((kept fields options).map columnName).Nodup ∧
        ((kept fields options).map columnName).Disjoint taken ∧
        columns = (kept fields options).map fun p => p.2.column p.1 := by
  induction fields generalizing taken columns with
  | nil => simp [columnsAfter, AllStated, kept, eq_comm]
  | cons f rest ih =>
    rw [columnsAfter_cons]
    constructor
    · rintro ⟨given, stated, ⟨skips, accepted⟩ | ⟨keeps, fresh, others, accepted, rfl⟩⟩
      · obtain ⟨options, all, distinct, free, rfl⟩ := ih.mp accepted
        refine ⟨given :: options, .cons stated all, ?_⟩
        rw [kept_cons_of_skips skips]
        exact ⟨distinct, free, rfl⟩
      · obtain ⟨options, all, distinct, free, rfl⟩ := ih.mp accepted
        rw [List.disjoint_cons_right] at free
        refine ⟨given :: options, .cons stated all, ?_⟩
        rw [kept_cons_of_keeps keeps, List.map_cons, List.nodup_cons, List.disjoint_cons_left]
        exact ⟨⟨free.1, distinct⟩, ⟨fresh, free.2⟩, rfl⟩
    · rintro ⟨_, whole, distinct, free, rfl⟩
      obtain ⟨given, options, stated, all, rfl⟩ := List.forall₂_cons_left_iff.mp whole
      refine ⟨given, stated, ?_⟩
      cases skips : given.skips with
      | true =>
        rw [kept_cons_of_skips skips] at distinct free ⊢
        exact Or.inl ⟨rfl, ih.mpr ⟨options, all, distinct, free, rfl⟩⟩
      | false =>
        rw [kept_cons_of_keeps skips] at distinct free ⊢
        rw [List.map_cons, List.nodup_cons] at distinct
        rw [List.map_cons, List.disjoint_cons_left] at free
        have behind : ((kept rest options).map columnName).Disjoint
            (columnName (f, given) :: taken) :=
          List.disjoint_cons_right.mpr ⟨distinct.1, free.2⟩
        exact Or.inr ⟨rfl, free.1, _, ih.mpr ⟨options, all, distinct.2, behind, rfl⟩, rfl⟩

/-- The column of a schema is that of a field with its options. -/
structure ColumnOf {ρ : Type} (accessors : Accessors ρ) (p : Field × ColumnOptions) (c : Column ρ) :
    Prop where
  name : c.name = columnName p
  type : c.type = Token.compactText p.1.type
  get : c.get = accessors.get p.1.name.name
  forward : c.role = .forward ↔ p.2.relations = true
  back : c.role = .back ↔ p.2.backRelations = true
  plain : c.role = .field ↔ p.2.relations = false ∧ p.2.backRelations = false
  writable : c.isWritable = true ↔ c.role = .field
  set : ∀ set, c.set? = some set → set = accessors.set p.1.name.name

/-- The item declares columns for these fields: their options can be read, and the columns of those
that are not skipped have different names. -/
structure Item.Declares (item : Item) (fields : List Field) (options : List ColumnOptions) :
    Prop where
  named : item.shape = .named fields
  unparametrized : item.hasParameters = false
  stated : AllStated fields options
  distinct : ((kept fields options).map columnName).Nodup

theorem Item.schema_eq_ok {item : Item} {declared : DeclaredSchema} :
    item.schema = .ok declared ↔ ∃ fields options, item.Declares fields options ∧
      declared = ⟨item.name.name, (kept fields options).map fun p => p.2.column p.1⟩ := by
  have anywhere (names : List String) : names.Disjoint [] := List.disjoint_nil_right names
  rw [Item.schema]
  constructor
  · intro accepted
    split at accepted
    next => cases accepted
    next => cases accepted
    next fields named =>
      split at accepted
      · cases accepted
      · rename_i parameters
        obtain ⟨columns, declares, rfl⟩ := map_eq_ok.mp accepted
        obtain ⟨options, stated, distinct, -, rfl⟩ := columnsAfter_eq_ok.mp declares
        exact ⟨fields, options, ⟨named, by simpa using parameters, stated, distinct⟩, rfl⟩
  · rintro ⟨fields, options, ⟨named, unparametrized, stated, distinct⟩, rfl⟩
    simp only [named, unparametrized, Bool.false_eq_true, if_false]
    exact map_eq_ok.mpr
      ⟨_, columnsAfter_eq_ok.mpr ⟨options, stated, distinct, anywhere _, rfl⟩, rfl⟩

theorem stated_of_mem_kept {fields : List Field} {options : List ColumnOptions}
    (stated : AllStated fields options) {p : Field × ColumnOptions} (mem : p ∈ kept fields options) :
    StatedBy p.1.attributes p.2 :=
  List.forall₂_zip stated (List.mem_of_mem_filter mem)

theorem columnOf_column {ρ : Type} (accessors : Accessors ρ) {p : Field × ColumnOptions}
    (oneDirection : ¬ (p.2.relations = true ∧ p.2.backRelations = true)) :
    ColumnOf accessors p
      { name := (p.2.column p.1).name
        type := (p.2.column p.1).type
        role := (p.2.column p.1).role
        get := accessors.get (p.2.column p.1).field
        set? := if (p.2.column p.1).isWritable then some (accessors.set (p.2.column p.1).field)
          else none } := by
  obtain ⟨forward, back, plain⟩ := ColumnOptions.role_spec oneDirection
  have role : (p.2.column p.1).role = p.2.role := rfl
  refine ⟨rfl, rfl, rfl, forward, back, plain, ?_, ?_⟩
  · by_cases isField : p.2.role = .field <;>
      simp [Column.isWritable, DeclaredColumn.isWritable, role, isField]
  · intro set setter
    split at setter
    · exact (Option.some.inj setter).symm
    · cases setter

/-- An item declares a schema exactly if its fields are named, it has no parameters, the options
in the first `column` attribute of every field can be read, and the names of the columns differ. The
schema then lists the columns of the fields that are not skipped, in the order of the fields, and
finds each of them under its name. -/
theorem Item.schema_wellFormed (item : Item) :
    ((∃ declared, item.schema = .ok declared) ↔ ∃ fields options, item.Declares fields options) ∧
    ∀ declared, item.schema = .ok declared → ∃ fields options, item.Declares fields options ∧
      ∀ {ρ : Type} (accessors : Accessors ρ),
        (declared.schema accessors).name = item.name.name ∧
        List.Forall₂ (ColumnOf accessors) (kept fields options)
          (declared.schema accessors).columns ∧
        ∀ name c, (declared.schema accessors).column? name = some c ↔
          c ∈ (declared.schema accessors).columns ∧ c.name = name := by
  constructor
  · constructor
    · rintro ⟨declared, accepted⟩
      obtain ⟨fields, options, declares, -⟩ := schema_eq_ok.mp accepted
      exact ⟨fields, options, declares⟩
    · rintro ⟨fields, options, declares⟩
      exact ⟨_, schema_eq_ok.mpr ⟨fields, options, declares, rfl⟩⟩
  · intro declared accepted
    obtain ⟨fields, options, declares, rfl⟩ := schema_eq_ok.mp accepted
    refine ⟨fields, options, declares, fun accessors => ⟨rfl, ?_, ?_⟩⟩
    · simp only [DeclaredSchema.schema, List.map_map]
      rw [List.forall₂_map_right_iff, List.forall₂_same]
      intro p mem
      exact columnOf_column accessors (stated_of_mem_kept declares.stated mem).oneDirection
    · intro name c
      refine Schema.column?_eq_some ?_
      simp only [DeclaredSchema.schema, List.map_map]
      exact declares.distinct

/-- A field whose `column` attribute lists the tokens. -/
def sampleField (body : List Token) (name : Word) (type : String) : Field :=
  ⟨[⟨⟨false, [⟨"column", false⟩]⟩, .list body⟩], name, [.word ⟨type, false⟩]⟩

/-- A column that has the name of a skipped field, and one whose field has a raw name. -/
def sampleItem : Item where
  name := ⟨"Task", false⟩
  hasParameters := false
  shape := .named
    [sampleField [.literal "\"ID\"" (some "ID")] ⟨"id", false⟩ "u32",
      ⟨[], ⟨"type", true⟩, [.word ⟨"String", false⟩]⟩,
      sampleField [.word ⟨"skip", false⟩] ⟨"cache", false⟩ "Cache",
      sampleField [.word ⟨"relations", false⟩, .mark ',' false, .literal "\"cache\"" (some "cache")]
        ⟨"related", false⟩ "TaskRelations"]

def sampleSchema : DeclaredSchema where
  name := "Task"
  columns := [⟨"ID", "u32", .field, "id"⟩, ⟨"type", "String", .field, "type"⟩,
    ⟨"cache", "TaskRelations", .forward, "related"⟩]

def sampleAccessors : Accessors Unit :=
  ⟨fun _ _ => .ok .null, fun _ r _ => .ok r⟩

/-- The column named like the skipped field is found under its name, and it cannot be assigned. -/
theorem Item.schema_wellFormed_sample :
    sampleItem.schema = .ok sampleSchema ∧
      ∃ fields options, sampleItem.Declares fields options ∧
        List.Forall₂ (ColumnOf sampleAccessors) (kept fields options)
          (sampleSchema.schema sampleAccessors).columns ∧
        ∃ c, (sampleSchema.schema sampleAccessors).column? "cache" = some c ∧
          c.role = .forward ∧ c.isWritable = false := by
  have accepted : sampleItem.schema = .ok sampleSchema := rfl
  obtain ⟨-, lists⟩ := Item.schema_wellFormed sampleItem
  obtain ⟨fields, options, declares, columns⟩ := lists sampleSchema accepted
  obtain ⟨-, listed, found⟩ := columns sampleAccessors
  have last : _ ∈ (sampleSchema.schema sampleAccessors).columns :=
    List.mem_cons_of_mem _ (List.mem_cons_of_mem _ List.mem_cons_self)
  exact ⟨accepted, fields, options, declares, listed, _, (found "cache" _).mpr ⟨last, rfl⟩, rfl, rfl⟩

end Declaration

end RecordQuery
