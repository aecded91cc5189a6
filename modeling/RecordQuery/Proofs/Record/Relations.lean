import RecordQuery.Matching
import RecordQuery.Proofs.Record.Reflection

/-!
Relations in snapshots. A snapshot has the values of the plain columns by name and the loaded
relations by canonical name. Of several relations with one canonical name the one of the last
column stays, and in one column that of the greatest name. A relation that no other one hides is
addressed by its name: conditions on its columns come out as they do on its own snapshot.
-/

namespace RecordQuery

variable {ρ : Type}

/-- The relations of a snapshot in one direction, by canonical name. -/
def Snapshot.related (s : Snapshot) : Role → Assoc String Snapshot
  | .field => []
  | .forward => s.forward
  | .back => s.back

/-- A forward relation hides a back relation of the same canonical name. -/
theorem Snapshot.relation?_eq_related (s : Snapshot) (name : String) :
    s.relation? name = ((s.related .forward).find? (Name.canonical name)).or
      ((s.related .back).find? (Name.canonical name)) :=
  rfl

namespace Column

/-- Of the relations that the column loads under a canonical name, the one whose entry has the
greatest name. Names compare by code points, which is the order of their UTF-8 bytes. -/
def LoadsLast (c : Column ρ) (r : ρ) (key : String) (related : Snapshot) : Prop :=
  ∃ name, c.Loads r name related ∧ Name.canonical name = key ∧
    ∀ other related', c.Loads r other related' → Name.canonical other = key →
      compare name other ≠ .lt

end Column

namespace Schema

/-- A column of the role loads the relation under the name of an entry. -/
def Loads (schema : Schema ρ) (r : ρ) (role : Role) (name : String) (related : Snapshot) : Prop :=
  ∃ c ∈ schema.columns, c.role = role ∧ c.Loads r name related

/-- The relation that stays under a canonical name: no later column of the role loads one under
it, and its column loads it last. -/
def LoadsLast (schema : Schema ρ) (r : ρ) (role : Role) (key : String) (related : Snapshot) :
    Prop :=
  ∃ before c after, schema.columns = before ++ c :: after ∧ c.role = role ∧
    c.LoadsLast r key related ∧
    ∀ later ∈ after, later.role = role → ∀ name related', later.Loads r name related' →
      Name.canonical name ≠ key

/-- The records that hold relations list their entries by name, as all snapshots do. -/
def HoldsMaps (schema : Schema ρ) (r : ρ) : Prop :=
  ∀ c ∈ schema.columns, ∀ holder, c.read r = .ok (.nested holder) →
    Assoc.Ascending holder.fields

/-- What the snapshot of a record is. -/
structure Reflection (schema : Schema ρ) (r : ρ) (s : Snapshot) : Prop where
  ascending : Assoc.Ascending s.fields ∧ Assoc.Ascending s.forward ∧ Assoc.Ascending s.back
  field_iff : ∀ name value, (name, value) ∈ s.fields ↔
    ∃ c ∈ schema.columns, c.role = .field ∧ c.name = name ∧ c.read r = .ok value
  present_iff : ∀ role, role ≠ .field → ∀ key, key ∈ (s.related role).map (·.1) ↔
    ∃ name related, schema.Loads r role name related ∧ Name.canonical name = key
  related_iff : ∀ role, role ≠ .field → ∀ key related, (key, related) ∈ s.related role ↔
    schema.LoadsLast r role key related

end Schema

/-! What stays of the values and relations that are added one after another. -/

theorem findSome?_reverse_eq_some {α β : Type} {f : α → Option β} {xs : List α} {y : β} :
    xs.reverse.findSome? f = some y ↔
      ∃ before x after, xs = before ++ x :: after ∧ f x = some y ∧ ∀ z ∈ after, f z = none := by
  rw [List.findSome?_eq_some_iff]
  constructor
  · rintro ⟨after, x, before, split, found, none_after⟩
    refine ⟨before.reverse, x, after.reverse, ?_, found, fun z mem => ?_⟩
    · rw [← List.reverse_reverse xs, split]
      simp
    · exact none_after z (List.mem_reverse.mp mem)
  · rintro ⟨before, x, after, rfl, found, none_after⟩
    refine ⟨after.reverse, x, before.reverse, by simp, found, fun z mem => ?_⟩
    exact none_after z (List.mem_reverse.mp mem)

theorem lookup_reverse_flatMap {α β : Type} {f : α → List (String × β)} {key : String}
    (xs : List α) : (xs.flatMap f).reverse.lookup key =
      xs.reverse.findSome? fun x => (f x).reverse.lookup key := by
  induction xs with
  | nil => rfl
  | cons x rest ih =>
    rw [List.flatMap_cons, List.reverse_append, List.lookup_append, ih, List.reverse_cons,
      List.findSome?_append, List.findSome?_singleton]

namespace Column

variable {c : Column ρ} {r : ρ} {role : Role} {key : String}

theorem lookup_linked (same : c.role = role) : (c.linked r role).reverse.lookup key =
    (c.loads r).reverse.findSome? fun entry =>
      if Name.canonical entry.1 = key then some entry.2 else none := by
  rw [linked, if_pos same, ← List.map_reverse, List.lookup_eq_findSome?, List.findSome?_map]
  refine congrArg (List.findSome? · _) (funext fun entry => ?_)
  simp only [Function.comp, beq_iff_eq, eq_comm (a := key)]

theorem loads_ascending (maps : ∀ holder, c.read r = .ok (.nested holder) →
    Assoc.Ascending holder.fields) : Assoc.Ascending (c.loads r) := by
  rw [loads]
  split
  next holder reads =>
    refine (maps holder reads).filterMap _ fun a b less x first y second => ?_
    rwa [asRelation?_eq_some.mp first, asRelation?_eq_some.mp second] at less
  next => exact .nil

theorem lookup_linked_eq_some (ascending : Assoc.Ascending (c.loads r)) {related : Snapshot} :
    (c.linked r role).reverse.lookup key = some related ↔
      c.role = role ∧ c.LoadsLast r key related := by
  by_cases same : c.role = role
  · rw [lookup_linked same, findSome?_reverse_eq_some]
    simp only [same, true_and, Option.ite_none_right_eq_some, Option.some.injEq,
      ite_eq_right_iff, reduceCtorEq, imp_false, LoadsLast, ← mem_loads]
    constructor
    · rintro ⟨before, ⟨name, related⟩, after, split, ⟨here, rfl⟩, none_after⟩
      obtain ⟨mem, greatest⟩ := (ascending.last_iff (Name.canonical · = key)).mp
        ⟨before, after, split, none_after⟩
      exact ⟨name, mem, here, fun other related' mem' => greatest (other, related') mem'⟩
    · rintro ⟨name, mem, here, greatest⟩
      obtain ⟨before, after, split, none_after⟩ := (ascending.last_iff (Name.canonical · = key)).mpr
        ⟨mem, fun other mem' => greatest other.1 other.2 mem'⟩
      exact ⟨before, (name, related), after, split, ⟨here, rfl⟩, none_after⟩
  · simp [linked, same]

theorem lookup_linked_eq_none : (c.linked r role).reverse.lookup key = none ↔
    (c.role = role → ∀ name related, c.Loads r name related → Name.canonical name ≠ key) := by
  by_cases same : c.role = role
  · simp [lookup_linked same, same, ← mem_loads]
  · simp [linked, same]

theorem lookup_assigned {name : String} {value : Value} :
    (c.assigned r).reverse.lookup name = some value ↔
      c.role = .field ∧ c.name = name ∧ c.read r = .ok value := by
  cases role : c.role with
  | field =>
    cases reads : c.read r with
    | error e => simp [assigned, role, reads]
    | ok value' =>
      simp [assigned, role, reads, List.lookup_eq_findSome?, eq_comm (a := name)]
  | forward | back => simp [assigned, role]

end Column

namespace Schema

section Finding

variable {schema : Schema ρ} {r : ρ} {s : Snapshot} {role : Role} {key : String}

theorem find?_fields (success : schema.reflect r = .ok s) (name : String) :
    s.fields.find? name =
      schema.columns.reverse.findSome? fun c => (c.assigned r).reverse.lookup name := by
  rw [eq_of_reflect success, Snapshot.fields, Assoc.find?_insertAll, lookup_reverse_flatMap]
  exact Option.or_none

theorem find?_fields_eq_some (distinct : (schema.columns.map (·.name)).Nodup)
    (success : schema.reflect r = .ok s) {name : String} {value : Value} :
    s.fields.find? name = some value ↔
      ∃ c ∈ schema.columns, c.role = .field ∧ c.name = name ∧ c.read r = .ok value := by
  rw [find?_fields success, findSome?_reverse_eq_some]
  simp only [Column.lookup_assigned]
  constructor
  · rintro ⟨before, c, after, split, found, -⟩
    refine ⟨c, ?_, found⟩
    rw [split]
    exact List.mem_append_right _ List.mem_cons_self
  · rintro ⟨c, mem, role, rfl, reads⟩
    obtain ⟨before, after, split⟩ := List.append_of_mem mem
    refine ⟨before, c, after, split, ⟨role, rfl, reads⟩, fun later inAfter => ?_⟩
    rw [split, List.map_append, List.map_cons] at distinct
    have fresh := (List.nodup_cons.mp (List.nodup_append.mp distinct).2.1).1
    rw [Option.eq_none_iff_forall_ne_some]
    intro other found
    have same := (Column.lookup_assigned.mp found).2.1
    exact fresh (same ▸ List.mem_map_of_mem inAfter)

theorem ascending_fields (success : schema.reflect r = .ok s) : Assoc.Ascending s.fields := by
  rw [eq_of_reflect success]
  exact Assoc.Ascending.insertAll .nil _

/-- The fields of a snapshot are the values of the plain columns. -/
theorem mem_fields (distinct : (schema.columns.map (·.name)).Nodup)
    (success : schema.reflect r = .ok s) {name : String} {value : Value} :
    (name, value) ∈ s.fields ↔
      ∃ c ∈ schema.columns, c.role = .field ∧ c.name = name ∧ c.read r = .ok value := by
  rw [← (ascending_fields success).find?_eq_some, find?_fields_eq_some distinct success]

theorem related_eq (success : schema.reflect r = .ok s) (relates : role ≠ .field) :
    s.related role = Assoc.insertAll (schema.columns.flatMap (·.linked r role)) [] := by
  rw [eq_of_reflect success]
  cases role with
  | field => exact absurd rfl relates
  | forward | back => rfl

theorem find?_related (success : schema.reflect r = .ok s) (relates : role ≠ .field) :
    (s.related role).find? key =
      schema.columns.reverse.findSome? fun c => (c.linked r role).reverse.lookup key := by
  rw [related_eq success relates, Assoc.find?_insertAll, lookup_reverse_flatMap]
  exact Option.or_none

theorem find?_related_eq_some (maps : schema.HoldsMaps r) (success : schema.reflect r = .ok s)
    (relates : role ≠ .field) {related : Snapshot} :
    (s.related role).find? key = some related ↔ schema.LoadsLast r role key related := by
  rw [find?_related success relates, findSome?_reverse_eq_some]
  simp only [Column.lookup_linked_eq_none, LoadsLast]
  refine exists_congr fun before => exists_congr fun c => exists_congr fun after => ?_
  refine and_congr_right fun split => ?_
  have mem : c ∈ schema.columns := by
    rw [split]
    exact List.mem_append_right _ List.mem_cons_self
  rw [Column.lookup_linked_eq_some (Column.loads_ascending (maps c mem)), and_assoc]

theorem find?_related_eq_none (success : schema.reflect r = .ok s) (relates : role ≠ .field) :
    (s.related role).find? key = none ↔
      ∀ name related, schema.Loads r role name related → Name.canonical name ≠ key := by
  rw [find?_related success relates, List.findSome?_eq_none_iff]
  simp only [List.mem_reverse, Column.lookup_linked_eq_none, Loads]
  constructor
  · rintro unloaded name related ⟨c, mem, same, loaded⟩
    exact unloaded c mem same name related loaded
  · intro unloaded c mem same name related loaded
    exact unloaded name related ⟨c, mem, same, loaded⟩

/-- What stays under a canonical name is loaded. -/
theorem LoadsLast.loads {related : Snapshot} (last : schema.LoadsLast r role key related) :
    ∃ name, schema.Loads r role name related ∧ Name.canonical name = key := by
  obtain ⟨before, c, after, split, same, ⟨name, loaded, here, -⟩, -⟩ := last
  refine ⟨name, ⟨c, ?_, same, loaded⟩, here⟩
  rw [split]
  exact List.mem_append_right _ List.mem_cons_self

/-- A relation is found under a canonical name exactly if one is loaded under it. -/
theorem exists_find?_related (maps : schema.HoldsMaps r) (success : schema.reflect r = .ok s)
    (relates : role ≠ .field) : (∃ related, (s.related role).find? key = some related) ↔
      ∃ name related, schema.Loads r role name related ∧ Name.canonical name = key := by
  constructor
  · rintro ⟨related, found⟩
    obtain ⟨name, loaded, here⟩ := ((find?_related_eq_some maps success relates).mp found).loads
    exact ⟨name, related, loaded, here⟩
  · rintro ⟨name, related, loaded, here⟩
    rw [← Option.ne_none_iff_exists']
    intro missing
    exact (find?_related_eq_none success relates).mp missing name related loaded here

theorem reflection_of_reflect (distinct : (schema.columns.map (·.name)).Nodup)
    (maps : schema.HoldsMaps r) (success : schema.reflect r = .ok s) :
    schema.Reflection r s := by
  have related (role : Role) (relates : role ≠ .field) : Assoc.Ascending (s.related role) := by
    rw [related_eq success relates]
    exact Assoc.Ascending.insertAll .nil _
  -- In an ascending list the entries are those that are found under their keys.
  refine ⟨⟨ascending_fields success, related .forward (by decide), related .back (by decide)⟩,
    fun name value => mem_fields distinct success, ?_, ?_⟩
  · intro role relates key
    rw [← (related role relates).contains_iff, Assoc.contains, Option.isSome_iff_exists,
      exists_find?_related maps success relates]
  · intro role relates key value
    rw [← (related role relates).find?_eq_some, find?_related_eq_some maps success relates]

/-- No other relation goes by the canonical name of the relation: none of its role, and if it is a
back relation no forward relation either. -/
structure Alone (schema : Schema ρ) (r : ρ) (role : Role) (name : String) (related : Snapshot) :
    Prop where
  among_role : ∀ other related', schema.Loads r role other related' →
    Name.canonical other = Name.canonical name → related' = related
  unhidden : role = .back → ∀ other related', schema.Loads r .forward other related' →
    Name.canonical other ≠ Name.canonical name

theorem relation?_of_alone (maps : schema.HoldsMaps r) (success : schema.reflect r = .ok s)
    (relates : role ≠ .field) {name : String} {related : Snapshot}
    (loaded : schema.Loads r role name related) (alone : schema.Alone r role name related) :
    s.relation? name = some related := by
  have found : (s.related role).find? (Name.canonical name) = some related := by
    obtain ⟨related', found⟩ :=
      (exists_find?_related maps success relates).mpr ⟨name, related, loaded, rfl⟩
    obtain ⟨other, loaded', here⟩ := ((find?_related_eq_some maps success relates).mp found).loads
    rw [found, alone.among_role other related' loaded' here]
  rw [Snapshot.relation?_eq_related]
  cases role with
  | field => exact absurd rfl relates
  | forward => rw [found, Option.some_or]
  | back =>
    have hidden : (s.related .forward).find? (Name.canonical name) = none :=
      (find?_related_eq_none success (by decide)).mpr (alone.unhidden rfl)
    rw [hidden, found, Option.none_or]

end Finding

end Schema

namespace Matching

/-- The outcomes of a condition on a column of a table and of the same condition without the table
on the record that the table names. They are the same, except that a missing column is reported
with the table. -/
inductive Qualified (table column : String) : Except Error Bool → Except Error Bool → Prop
  | same (outcome : Except Error Bool) : Qualified table column outcome outcome
  | missing : Qualified table column (.error (.unknownColumn ⟨some table, column⟩))
      (.error (.unknownColumn ⟨none, column⟩))

theorem qualified_of_relation? {s related : Snapshot} {name : String}
    (other : Snapshot.isOwnTable name = false) (found : s.relation? name = some related)
    (semantics : NullSemantics) (column : String) (op : Operator) (operand : Option Operand) :
    Qualified name column (accepts semantics ⟨⟨some name, column⟩, op, operand⟩ s)
      (accepts semantics ⟨⟨none, column⟩, op, operand⟩ related) := by
  have through : s.get? (some name) column = related.get? none column := by
    simp [Snapshot.get?, Snapshot.holder?, other, found]
  simp only [accepts, Snapshot.lookup, through]
  cases related.get? none column with
  | none => exact .missing
  | some value => exact .same _

end Matching

theorem Snapshot.isOwnTable_eq_false {name : String}
    (names : ∃ ch ∈ name.toList, ch.isAlphanum = true) : isOwnTable name = false := by
  by_contra own
  simp only [Bool.not_eq_false, isOwnTable, Bool.or_eq_true, beq_iff_eq] at own
  obtain ⟨ch, mem, letter⟩ := names
  rcases own with (rfl | rfl) | rfl
  · simp at mem
  · rw [List.mem_singleton.mp mem] at letter
    exact absurd letter (by decide)
  · rw [List.mem_singleton.mp mem] at letter
    exact absurd letter (by decide)

namespace Schema

/-- A record cannot be reflected exactly if one of its columns fails, and the first one says why.
Otherwise its snapshot has the values of the plain columns and, by canonical name, the relations
that its columns load last. By the name of a relation that no other one hides, conditions ask the
relation itself. -/
theorem reflect_exact (schema : Schema ρ) (distinct : (schema.columns.map (·.name)).Nodup) (r : ρ)
    (maps : schema.HoldsMaps r) :
    (∀ e, schema.reflect r = .error e ↔ schema.FailsFirst r e) ∧
    ∀ s, schema.reflect r = .ok s → schema.Reflection r s ∧
      ∀ role name related, role ≠ .field → schema.Loads r role name related →
        (∃ ch ∈ name.toList, ch.isAlphanum = true) → schema.Alone r role name related →
        ∀ semantics column op operand, Matching.Qualified name column
          (Matching.accepts semantics ⟨⟨some name, column⟩, op, operand⟩ s)
          (Matching.accepts semantics ⟨⟨none, column⟩, op, operand⟩ related) := by
  refine ⟨fun e => reflect_eq_error, fun s success => ⟨?_, ?_⟩⟩
  · exact reflection_of_reflect distinct maps success
  · intro role name related relates loaded names alone
    exact Matching.qualified_of_relation? (Snapshot.isOwnTable_eq_false names)
      (relation?_of_alone maps success relates loaded alone)

/-- Tasks, as the pairs of what holds their relations in both directions. -/
def taskSchema : Schema (Value × Value) where
  name := "Task"
  columns := [⟨"id", "i64", .field, fun _ => .ok (.scalar (.int 7)), none⟩,
    ⟨"relations", "TaskRelations", .forward, fun task => .ok task.1, none⟩,
    ⟨"back_relations", "TaskBackRelations", .back, fun task => .ok task.2, none⟩]

def namedSnapshot (name : String) : Snapshot :=
  ⟨[("name", .scalar (.string name))], [], []⟩

/-- A task of one subject and no project. Two of its owners have names for one relation. -/
def sampleTask : Value × Value :=
  (.nested ⟨[("Project", .null), ("Subject", .nested (namedSnapshot "algebra"))], [], []⟩,
    .nested ⟨[("Owner", .nested (namedSnapshot "Ann")),
      ("owners", .nested (namedSnapshot "Bob"))], [], []⟩)

def sampleTaskSnapshot : Snapshot :=
  ⟨[("id", .scalar (.int 7))], [("subject", namedSnapshot "algebra")],
    [("owner", namedSnapshot "Bob")]⟩

theorem sampleTask_reflect : taskSchema.reflect sampleTask = .ok sampleTaskSnapshot := by
  rfl

theorem sampleTask_maps : taskSchema.HoldsMaps sampleTask := by
  simp only [HoldsMaps, taskSchema, List.forall_mem_cons]
  refine ⟨nofun, ?_, ?_, nofun⟩
  · rintro holder ⟨⟩
    exact List.pairwise_pair.mpr (by decide)
  · rintro holder ⟨⟩
    exact List.pairwise_pair.mpr (by decide)

/-- The subject is the only forward relation that the task loads. -/
theorem sampleTask_loads {name : String} {related : Snapshot}
    (loaded : taskSchema.Loads sampleTask .forward name related) :
    name = "Subject" ∧ related = namedSnapshot "algebra" := by
  obtain ⟨c, mem, role, loaded⟩ := loaded
  simp only [taskSchema, List.mem_cons, List.not_mem_nil, or_false] at mem
  rcases mem with rfl | rfl | rfl
  · cases role
  · have only : (name, related) ∈ [("Subject", namedSnapshot "algebra")] :=
      Column.mem_loads.mpr loaded
    simpa using only
  · cases role

/-- Of the two owners the one stays whose entry comes last. The subject answers for itself. -/
theorem reflect_exact_task :
    (taskSchema.columns.map (·.name)).Nodup ∧ taskSchema.HoldsMaps sampleTask ∧
    taskSchema.Reflection sampleTask sampleTaskSnapshot ∧
    taskSchema.LoadsLast sampleTask .back "owner" (namedSnapshot "Bob") ∧
    ∀ column, Matching.Qualified "Subject" column
      (Matching.accepts .strict ⟨⟨some "Subject", column⟩, .isNotNull, none⟩ sampleTaskSnapshot)
      (Matching.accepts .strict ⟨⟨none, column⟩, .isNotNull, none⟩ (namedSnapshot "algebra")) := by
  have distinct : (taskSchema.columns.map (·.name)).Nodup := by decide
  obtain ⟨-, reflects⟩ := reflect_exact taskSchema distinct sampleTask sampleTask_maps
  obtain ⟨reflection, asks⟩ := reflects _ sampleTask_reflect
  refine ⟨distinct, sampleTask_maps, reflection, ?_, fun column => ?_⟩
  · exact (reflection.related_iff .back (by decide) _ _).mp (.head _)
  · have loaded : taskSchema.Loads sampleTask .forward "Subject" (namedSnapshot "algebra") :=
      ⟨_, .tail _ (.head _), rfl, _, rfl, .tail _ (.head _)⟩
    refine asks .forward "Subject" _ (by decide) loaded ⟨'S', by simp, by decide⟩ ⟨?_, nofun⟩ ..
    exact fun other related loaded' _ => (sampleTask_loads loaded').2

end Schema

end RecordQuery
