import RecordQuery.Proofs.Assoc
import RecordQuery.Proofs.Attempt
import RecordQuery.Record.Schema

/-!
Reflection of records, column by column. A column fails if it cannot be read, or if it should hold
relations and holds something else. The first column that fails keeps the record from being
reflected. Otherwise each column adds to the snapshot: a plain column its value, and a column of
relations those entries of its holder that are not null, under their canonical names.
-/

namespace RecordQuery

variable {ρ : Type}

/-- A value that a relation may have: null if the relation is not loaded. -/
def Value.Loadable (value : Value) : Prop :=
  value = .null ∨ ∃ related, value = .nested related

namespace Column

/-- The relation that an entry of a holder stands for, unless it is null. -/
def asRelation? : String × Value → Option (String × Snapshot)
  | (name, .nested related) => some (name, related)
  | _ => none

/-- The column loads the relation for the record: it holds it in an entry of the name. -/
def Loads (c : Column ρ) (r : ρ) (name : String) (related : Snapshot) : Prop :=
  ∃ holder, c.read r = .ok (.nested holder) ∧ (name, .nested related) ∈ holder.fields

/-- The relations that the column loads, in the order of their entries. -/
def loads (c : Column ρ) (r : ρ) : List (String × Snapshot) :=
  match c.read r with
  | .ok (.nested holder) => holder.fields.filterMap asRelation?
  | _ => []

/-- The column keeps the record from being reflected. -/
inductive Fails (c : Column ρ) (r : ρ) : Error → Prop
  | unread {e : Error} : c.read r = .error e → Fails c r e
  | holder {value : Value} : c.role ≠ .field → c.read r = .ok value → ¬ value.Loadable →
      Fails c r (.unreadable c.name c.type
        ("relations must be a record, got " ++ value.kind.name))
  | entry {holder : Snapshot} {before after : List (String × Value)} {name : String}
      {value : Value} : c.role ≠ .field → c.read r = .ok (.nested holder) →
      holder.fields = before ++ (name, value) :: after →
      (∀ entry ∈ before, entry.2.Loadable) → ¬ value.Loadable →
      Fails c r (.unreadable (c.name ++ "." ++ name) value.kind.name
        "relation entries must be records")

/-- What the column adds to the fields of a snapshot. -/
def assigned (c : Column ρ) (r : ρ) : List (String × Value) :=
  match c.role, c.read r with
  | .field, .ok value => [(c.name, value)]
  | _, _ => []

/-- What the column adds to the relations of a snapshot in one direction. -/
def linked (c : Column ρ) (r : ρ) (role : Role) : List (String × Snapshot) :=
  if c.role = role then (c.loads r).map fun entry => (Name.canonical entry.1, entry.2) else []

/-- A snapshot with the column of the record added. -/
def addedTo (c : Column ρ) (r : ρ) (s : Snapshot) : Snapshot :=
  ⟨Assoc.insertAll (c.assigned r) s.fields, Assoc.insertAll (c.linked r .forward) s.forward,
    Assoc.insertAll (c.linked r .back) s.back⟩

section Loading

variable {c : Column ρ} {r : ρ} {entries : List (String × Value)}

theorem asRelation?_eq_some {entry : String × Value} {loaded : String × Snapshot} :
    asRelation? entry = some loaded ↔ entry = (loaded.1, .nested loaded.2) := by
  obtain ⟨name, value⟩ := entry
  cases value <;> simp [asRelation?, Prod.ext_iff]

theorem mem_loads {name : String} {related : Snapshot} :
    (name, related) ∈ c.loads r ↔ c.Loads r name related := by
  rw [loads, Loads]
  split
  next holder reads => simp [reads, List.mem_filterMap, asRelation?_eq_some]
  next other =>
    refine iff_of_false List.not_mem_nil ?_
    rintro ⟨holder, reads, -⟩
    exact other holder reads

theorem loaded_of_loadable (loadable : ∀ entry ∈ entries, entry.2.Loadable) :
    c.loaded entries = .ok (entries.filterMap asRelation?) := by
  induction entries with
  | nil => rfl
  | cons entry rest ih =>
    obtain ⟨name, value⟩ := entry
    obtain ⟨here, later⟩ := List.forall_mem_cons.mp loadable
    rcases here with rfl | ⟨related, rfl⟩
    · exact ih later
    · rw [Column.loaded, ih later]
      rfl

theorem loaded_of_split {before after : List (String × Value)} {name : String} {value : Value}
    (loadable : ∀ entry ∈ before, entry.2.Loadable) (bad : ¬ value.Loadable) :
    c.loaded (before ++ (name, value) :: after) = .error (.unreadable (c.name ++ "." ++ name)
      value.kind.name "relation entries must be records") := by
  induction before with
  | nil =>
    cases value with
    | null => exact absurd (Or.inl rfl) bad
    | nested related => exact absurd (Or.inr ⟨related, rfl⟩) bad
    | scalar _ | list _ => rfl
  | cons entry rest ih =>
    obtain ⟨name', value'⟩ := entry
    obtain ⟨here, later⟩ := List.forall_mem_cons.mp loadable
    rcases here with rfl | ⟨related, rfl⟩
    · exact ih later
    · rw [List.cons_append, Column.loaded, ih later]

end Loading

end Column

theorem Snapshot.foldl_withForward (entries : List (String × Snapshot)) (s : Snapshot) :
    entries.foldl (fun s entry => s.withForward entry.1 entry.2) s = ⟨s.fields,
      Assoc.insertAll (entries.map fun entry => (Name.canonical entry.1, entry.2)) s.forward,
      s.back⟩ := by
  induction entries generalizing s with
  | nil => cases s; rfl
  | cons entry rest ih => exact ih (s.withForward entry.1 entry.2)

theorem Snapshot.foldl_withBack (entries : List (String × Snapshot)) (s : Snapshot) :
    entries.foldl (fun s entry => s.withBack entry.1 entry.2) s = ⟨s.fields, s.forward,
      Assoc.insertAll (entries.map fun entry => (Name.canonical entry.1, entry.2)) s.back⟩ := by
  induction entries generalizing s with
  | nil => cases s; rfl
  | cons entry rest ih => exact ih (s.withBack entry.1 entry.2)

namespace Column

section Adding

variable {c : Column ρ} {r : ρ}

theorem relations_of_not_fails {value : Value} (relates : c.role ≠ .field)
    (reads : c.read r = .ok value) (succeeds : ∀ e, ¬ c.Fails r e) :
    c.relations value = .ok (c.loads r) := by
  have loadable : value.Loadable := by
    by_contra bad
    exact succeeds _ (.holder relates reads bad)
  rcases loadable with rfl | ⟨holder, rfl⟩
  · simp only [relations, loads, reads]
  · rcases all_or_first (fun entry => entry.2.Loadable) holder.fields with
      all | ⟨before, ⟨name, value⟩, after, split, all, bad⟩
    · simp only [relations, loads, reads, loaded_of_loadable all]
    · exact absurd (.entry relates reads split all bad) (succeeds _)

/-- A column that does not fail adds its value or its relations. -/
theorem add_of_not_fails (succeeds : ∀ e, ¬ c.Fails r e) (s : Snapshot) :
    (do c.addTo (← c.read r) s) = .ok (c.addedTo r s) := by
  cases reads : c.read r with
  | error e => exact absurd (.unread reads) (succeeds e)
  | ok value =>
    change c.addTo value s = _
    cases role : c.role with
    | field => simp [addTo, addedTo, assigned, linked, role, reads, Snapshot.withField,
        Assoc.insertAll]
    | forward =>
      have related := relations_of_not_fails (by simp [role]) reads succeeds
      simp [addTo, role, related, bind, Except.bind, pure, Except.pure, addedTo, assigned, linked,
        Snapshot.foldl_withForward, Assoc.insertAll]
    | back =>
      have related := relations_of_not_fails (by simp [role]) reads succeeds
      simp [addTo, role, related, bind, Except.bind, pure, Except.pure, addedTo, assigned, linked,
        Snapshot.foldl_withBack, Assoc.insertAll]

theorem addTo_of_error {value : Value} {e : Error} (relates : c.role ≠ .field)
    (fails : c.relations value = .error e) (s : Snapshot) : c.addTo value s = .error e := by
  cases role : c.role with
  | field => exact absurd role relates
  | forward | back =>
    simp only [addTo, role, fails]
    rfl

theorem add_of_fails {e : Error} (fails : c.Fails r e) (s : Snapshot) :
    (do c.addTo (← c.read r) s) = .error e := by
  cases fails with
  | unread reads =>
    rw [reads]
    rfl
  | @holder value relates reads bad =>
    rw [reads]
    refine addTo_of_error relates ?_ s
    cases value with
    | null => exact absurd (Or.inl rfl) bad
    | nested related => exact absurd (Or.inr ⟨related, rfl⟩) bad
    | scalar _ | list _ => rfl
  | entry relates reads split loadable bad =>
    rw [reads]
    refine addTo_of_error relates ?_ s
    rw [relations, split, loaded_of_split loadable bad]

end Adding

end Column

namespace Schema

/-- If no name is repeated, a name finds exactly the column that has it. -/
theorem column?_eq_some {schema : Schema ρ} (distinct : (schema.columns.map (·.name)).Nodup)
    {name : String} {c : Column ρ} :
    schema.column? name = some c ↔ c ∈ schema.columns ∧ c.name = name := by
  rw [column?]
  constructor
  · intro found
    obtain ⟨same, -⟩ := List.find?_eq_some_iff_append.mp found
    exact ⟨List.mem_of_find?_eq_some found, beq_iff_eq.mp same⟩
  · rintro ⟨mem, rfl⟩
    obtain ⟨before, after, split⟩ := List.append_of_mem mem
    rw [split, List.map_append, List.nodup_append] at distinct
    refine List.find?_eq_some_iff_append.mpr ⟨beq_self_eq_true c.name, before, after, split, ?_⟩
    intro other earlier
    have differ : other.name ≠ c.name :=
      distinct.2.2 _ (List.mem_map_of_mem earlier) _ List.mem_cons_self
    simpa using differ

/-- The first column in the order of the schema that cannot be reflected, and why. -/
def FailsFirst (schema : Schema ρ) (r : ρ) (e : Error) : Prop :=
  ∃ before c after, schema.columns = before ++ c :: after ∧
    (∀ b ∈ before, ∀ e', ¬ b.Fails r e') ∧ c.Fails r e

section Reflecting

variable {schema : Schema ρ} {r : ρ} {columns : List (Column ρ)}

theorem addColumns_cons (c : Column ρ) (rest : List (Column ρ)) (s : Snapshot) :
    addColumns r (c :: rest) s = (do c.addTo (← c.read r) s) >>= addColumns r rest := by
  rw [addColumns]
  cases c.read r <;> rfl

theorem addColumns_of_not_fails (succeeds : ∀ c ∈ columns, ∀ e, ¬ c.Fails r e) (s : Snapshot) :
    addColumns r columns s = .ok ⟨Assoc.insertAll (columns.flatMap (·.assigned r)) s.fields,
      Assoc.insertAll (columns.flatMap (·.linked r .forward)) s.forward,
      Assoc.insertAll (columns.flatMap (·.linked r .back)) s.back⟩ := by
  induction columns generalizing s with
  | nil => cases s; rfl
  | cons c rest ih =>
    obtain ⟨here, later⟩ := List.forall_mem_cons.mp succeeds
    rw [addColumns_cons, c.add_of_not_fails here]
    refine (ih later (c.addedTo r s)).trans ?_
    simp only [Column.addedTo, Assoc.insertAll, List.flatMap_cons, List.foldl_append]
    rfl

theorem addColumns_of_split {before after : List (Column ρ)} {c : Column ρ} {e : Error}
    (succeeds : ∀ b ∈ before, ∀ e', ¬ b.Fails r e') (fails : c.Fails r e) (s : Snapshot) :
    addColumns r (before ++ c :: after) s = .error e := by
  induction before generalizing s with
  | nil =>
    rw [List.nil_append, addColumns_cons, c.add_of_fails fails]
    rfl
  | cons b rest ih =>
    obtain ⟨here, later⟩ := List.forall_mem_cons.mp succeeds
    rw [List.cons_append, addColumns_cons, b.add_of_not_fails here]
    exact ih later (b.addedTo r s)

/-- A record is reflected unless one of its columns fails. -/
theorem reflect_of_not_fails (succeeds : ∀ c ∈ schema.columns, ∀ e, ¬ c.Fails r e) :
    schema.reflect r = .ok ⟨Assoc.insertAll (schema.columns.flatMap (·.assigned r)) [],
      Assoc.insertAll (schema.columns.flatMap (·.linked r .forward)) [],
      Assoc.insertAll (schema.columns.flatMap (·.linked r .back)) []⟩ :=
  addColumns_of_not_fails succeeds .empty

theorem reflect_of_failsFirst {e : Error} (fails : schema.FailsFirst r e) :
    schema.reflect r = .error e := by
  obtain ⟨before, c, after, split, all, fails⟩ := fails
  rw [reflect, split]
  exact addColumns_of_split all fails .empty

variable (schema r) in
theorem not_fails_or_failsFirst : (∀ c ∈ schema.columns, ∀ e, ¬ c.Fails r e) ∨
    ∃ e, schema.FailsFirst r e := by
  refine (all_or_first (fun c => ∀ e, ¬ c.Fails r e) schema.columns).imp_right ?_
  rintro ⟨before, c, after, split, all, fails⟩
  push Not at fails
  obtain ⟨e, fails⟩ := fails
  exact ⟨e, before, c, after, split, all, fails⟩

theorem reflect_eq_error {e : Error} : schema.reflect r = .error e ↔ schema.FailsFirst r e := by
  refine ⟨fun failed => ?_, reflect_of_failsFirst⟩
  rcases not_fails_or_failsFirst schema r with none_fails | ⟨e', fails⟩
  · cases failed.symm.trans (reflect_of_not_fails none_fails)
  · cases failed.symm.trans (reflect_of_failsFirst fails)
    exact fails

theorem not_fails_of_reflect {s : Snapshot} (success : schema.reflect r = .ok s) :
    ∀ c ∈ schema.columns, ∀ e, ¬ c.Fails r e := by
  rcases not_fails_or_failsFirst schema r with none_fails | ⟨e, fails⟩
  · exact none_fails
  · cases success.symm.trans (reflect_of_failsFirst fails)

theorem eq_of_reflect {s : Snapshot} (success : schema.reflect r = .ok s) :
    s = ⟨Assoc.insertAll (schema.columns.flatMap (·.assigned r)) [],
      Assoc.insertAll (schema.columns.flatMap (·.linked r .forward)) [],
      Assoc.insertAll (schema.columns.flatMap (·.linked r .back)) []⟩ := by
  have none_fails := not_fails_of_reflect success
  exact Except.ok.inj (success.symm.trans (reflect_of_not_fails none_fails))

end Reflecting

end Schema

end RecordQuery
