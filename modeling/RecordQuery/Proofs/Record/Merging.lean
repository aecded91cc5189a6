import RecordQuery.Proofs.Record.Narrowing

/-!
Merging of named values into rows. The values are assigned in order, up to the first that the row
refuses: one for a column without a setter, such as those of relations, or one that its column
cannot hold. Every column that is named ends with the last of its values, and the others keep what
they had.
-/

namespace RecordQuery

namespace Schema

variable {ρ : Type} {schema : Schema ρ} {r r' : ρ} {values : List (String × Value)}

/-- Merging fails at the first value that cannot be assigned, and keeps what was assigned before. -/
theorem merge_eq_error {e : Error} : schema.merge r values = (r', .error e) ↔
    ∃ before name value after, values = before ++ (name, value) :: after ∧
      schema.merge r before = (r', .ok ()) ∧ schema.assign r' name value = .error e := by
  induction values generalizing r with
  | nil =>
    refine iff_of_false nofun ?_
    rintro ⟨before, name, value, after, split, -⟩
    simp at split
  | cons pair rest ih =>
    obtain ⟨name, value⟩ := pair
    rw [merge]
    cases assigned : schema.assign r name value with
    | error e' =>
      constructor
      · rintro ⟨⟩
        exact ⟨[], name, value, rest, rfl, rfl, assigned⟩
      · rintro ⟨before, name', value', after, split, merged, failed⟩
        cases before with
        | nil =>
          cases split
          cases merged
          cases assigned.symm.trans failed
          rfl
        | cons first before =>
          cases split
          rw [merge, assigned] at merged
          cases merged
    | ok mid =>
      -- the value that fails is among the rest
      rw [ih]
      constructor
      · rintro ⟨before, name', value', after, rfl, merged, failed⟩
        refine ⟨(name, value) :: before, name', value', after, rfl, ?_, failed⟩
        rw [merge, assigned]
        exact merged
      · rintro ⟨before, name', value', after, split, merged, failed⟩
        cases before with
        | nil =>
          cases split
          cases merged
          cases assigned.symm.trans failed
        | cons first before =>
          cases split
          rw [merge, assigned] at merged
          exact ⟨before, name', value', after, rfl, merged, failed⟩

/-- Values for names that are no columns can be left out. -/
theorem merge_filter {known : String → Bool}
    (unknown : ∀ name, known name = false → schema.column? name = none) :
    schema.merge r (values.filter fun pair => known pair.1) = schema.merge r values := by
  induction values generalizing r with
  | nil => rfl
  | cons pair rest ih =>
    obtain ⟨name, value⟩ := pair
    by_cases isKnown : known name = true
    · rw [List.filter_cons, if_pos isKnown, merge, merge]
      cases schema.assign r name value with
      | error e => rfl
      | ok mid => exact ih
    · have missing := unknown name (Bool.eq_false_of_not_eq_true isKnown)
      rw [List.filter_cons, if_neg isKnown, ih, merge, assign, missing]

end Schema

/-- Columns of relations cannot be assigned. -/
theorem ColumnSpec.isWritable_of_relates {spec : ColumnSpec} (relates : spec.role ≠ .field) :
    spec.isWritable = false := by
  rw [isWritable, beq_false_of_ne relates, Bool.false_and]

namespace Row

variable {specs : List ColumnSpec} {type name : String} {value : Value} {row row' : Row specs}
  {values : List (String × Value)}

/-- Rows of the columns do not take the value under the name, and why. -/
inductive Refuses (specs : List ColumnSpec) (name : String) (value : Value) : Error → Prop
  | readOnly {spec : ColumnSpec} : spec ∈ specs → spec.name = name → spec.isWritable = false →
      Refuses specs name value (.readOnly name)
  | mismatch {spec : ColumnSpec} {actual : Kind} {type : String} : spec ∈ specs →
      spec.name = name → spec.isWritable = true →
      spec.fieldType.ofValue value = .error (.mismatch .assign actual type) →
      Refuses specs name value (.mismatch .assign actual type)

/-- The second row is the first one after the values are assigned. -/
structure Merged (values : List (String × Value)) (row row' : Row specs) : Prop where
  /-- A column that is named holds what the last of its values narrows into. -/
  last : ∀ {spec : ColumnSpec} (p : Place spec specs) (value : Value),
    values.reverse.lookup spec.name = some value → spec.fieldType.ofValue value = .ok (p.cell row')
  kept : ∀ {spec : ColumnSpec} (p : Place spec specs),
    spec.isWritable = false ∨ spec.name ∉ values.map (·.1) → p.cell row' = p.cell row

/-! The last value of a name. -/

theorem lookup_reverse_cons (pair : String × Value) (rest : List (String × Value)) (name : String) :
    (pair :: rest).reverse.lookup name =
      (rest.reverse.lookup name).or (List.lookup name [pair]) := by
  rw [List.reverse_cons, List.lookup_append]

theorem lookup_singleton_eq_some {name' : String} {found : Value} :
    List.lookup name [(name', value)] = some found ↔ name = name' ∧ value = found := by
  by_cases same : name = name'
  · simp [same]
  · rw [List.lookup_cons, beq_false_of_ne same]
    exact iff_of_false nofun fun both => same both.1

theorem lookup_reverse_eq_none :
    values.reverse.lookup name = none ↔ name ∉ values.map (·.1) := by
  simp only [List.lookup_eq_none_iff, List.mem_reverse, bne_iff_ne, List.mem_map, not_exists,
    not_and]
  exact forall₂_congr fun pair mem => ne_comm

theorem exists_lookup_reverse (mem : (name, value) ∈ values) :
    ∃ last, values.reverse.lookup name = some last ∧ (name, last) ∈ values := by
  cases found : values.reverse.lookup name with
  | none => exact absurd (List.mem_map_of_mem mem) (lookup_reverse_eq_none.mp found)
  | some last =>
    obtain ⟨before, after, split, -⟩ := List.lookup_eq_some_iff.mp found
    refine ⟨last, rfl, List.mem_reverse.mp ?_⟩
    rw [split]
    exact List.mem_append_right _ List.mem_cons_self

theorem lookup_pair_comm {first second : String × Value} (differ : first.1 ≠ second.1) :
    List.lookup name [second, first] = List.lookup name [first, second] := by
  rw [List.lookup_cons, List.lookup_cons, List.lookup_cons, List.lookup_cons]
  by_cases same : name = first.1
  · rw [same, beq_self_eq_true, beq_false_of_ne differ]
  · rw [beq_false_of_ne same]

theorem lookup_reverse_neighbours (first second : String × Value)
    (before after : List (String × Value)) :
    (before ++ first :: second :: after).reverse.lookup name =
      (after.reverse.lookup name).or
        ((List.lookup name [second, first]).or (before.reverse.lookup name)) := by
  rw [← List.lookup_append, ← List.lookup_append]
  simp

/-- Neighbours of different names can change places. -/
theorem lookup_reverse_swap {first second : String × Value} (differ : first.1 ≠ second.1)
    (before after : List (String × Value)) :
    (before ++ second :: first :: after).reverse.lookup name =
      (before ++ first :: second :: after).reverse.lookup name := by
  rw [lookup_reverse_neighbours, lookup_reverse_neighbours, lookup_pair_comm differ]

/-! One value. -/

section Assigning

variable (distinct : (specs.map (·.name)).Nodup)

include distinct

theorem assign_of_place {spec : ColumnSpec} (p : Place spec specs) (row : Row specs)
    (value : Value) : (schema type specs).assign row spec.name value =
      if spec.isWritable then (spec.fieldType.ofValue value).map fun x => p.put x row
      else .error (.readOnly spec.name) := by
  rw [Schema.assign, column?_of_place distinct p]
  exact p.write_column row value

theorem refuses_iff {spec : ColumnSpec} (mem : spec ∈ specs) {e : Error} :
    Refuses specs spec.name value e ↔
      if spec.isWritable then spec.fieldType.ofValue value = .error e
      else e = .readOnly spec.name := by
  have only {other : ColumnSpec} (among : other ∈ specs) (same : other.name = spec.name) :
      other = spec :=
    List.inj_on_of_nodup_map distinct among mem same
  constructor
  · intro refused
    cases refused with
    | readOnly among same fixed =>
      obtain rfl := only among same
      rw [fixed, if_neg Bool.false_ne_true]
    | mismatch among same writable failed =>
      obtain rfl := only among same
      rwa [if_pos writable]
  · split
    next writable =>
      intro failed
      obtain ⟨actual, type, rfl⟩ := FieldType.ofValue_eq_error failed
      exact .mismatch mem rfl writable failed
    next fixed =>
      rintro rfl
      exact .readOnly mem rfl (Bool.eq_false_of_not_eq_true fixed)

theorem assign_eq_error {e : Error} :
    (schema type specs).assign row name value = .error e ↔ Refuses specs name value e := by
  by_cases known : name ∈ specs.map (·.name)
  · obtain ⟨spec, mem, rfl⟩ := List.mem_map.mp known
    obtain ⟨p⟩ := exists_place_of_mem mem
    rw [assign_of_place distinct p, refuses_iff distinct mem]
    split
    · exact map_eq_error
    · rw [Except.error.injEq, eq_comm]
  · rw [Schema.assign, column?_of_unknown known]
    refine iff_of_false nofun fun refused => ?_
    cases refused with
    | readOnly mem same _ => exact known (same ▸ List.mem_map_of_mem mem)
    | mismatch mem same _ _ => exact known (same ▸ List.mem_map_of_mem mem)

/-- A value that is assigned is put into the cell of its name. -/
theorem merged_of_assign (assigned : (schema type specs).assign row name value = .ok row') :
    Merged [(name, value)] row row' := by
  by_cases known : name ∈ specs.map (·.name)
  · obtain ⟨spec, mem, rfl⟩ := List.mem_map.mp known
    obtain ⟨p⟩ := exists_place_of_mem mem
    rw [assign_of_place distinct p] at assigned
    split at assigned
    next writable =>
      obtain ⟨x, narrows, rfl⟩ := map_eq_ok.mp assigned
      have only {other : ColumnSpec} (q : Place other specs) (same : other.name = spec.name) :
          other = spec :=
        List.inj_on_of_nodup_map distinct q.mem mem same
      refine ⟨fun q found last => ?_, fun q apart => ?_⟩
      · obtain ⟨same, rfl⟩ := lookup_singleton_eq_some.mp last
        obtain rfl := only q same
        rw [q.unique distinct p, Place.cell_put, narrows]
      · refine q.cell_put_of_ne p (fun same => ?_) x row
        obtain rfl := only q same
        rcases apart with fixed | unnamed
        · exact Bool.false_ne_true (fixed.symm.trans writable)
        · exact unnamed (List.mem_singleton_self _)
    next => cases assigned
  · rw [Schema.assign, column?_of_unknown known] at assigned
    cases assigned
    refine ⟨fun q found last => ?_, fun q _ => rfl⟩
    obtain ⟨rfl, -⟩ := lookup_singleton_eq_some.mp last
    exact absurd (List.mem_map_of_mem q.mem) known

end Assigning

/-! Many values. -/

theorem Merged.cons {pair : String × Value} {rest : List (String × Value)} {mid : Row specs}
    (first : Merged [pair] row mid) (later : Merged rest mid row') :
    Merged (pair :: rest) row row' := by
  refine ⟨fun p value found => ?_, fun p apart => ?_⟩
  · -- the last value of the name is among the rest, or else it is the first one
    rw [lookup_reverse_cons] at found
    cases named : rest.reverse.lookup _ with
    | some last =>
      rw [named, Option.some_or] at found
      exact later.last p value (named.trans found)
    | none =>
      rw [named, Option.none_or] at found
      rw [later.kept p (Or.inr (lookup_reverse_eq_none.mp named))]
      exact first.last p value found
  · simp only [List.map_cons, List.mem_cons, not_or] at apart
    rw [later.kept p (apart.imp_right And.right), first.kept p (apart.imp_right fun names => ?_)]
    exact mt List.mem_singleton.mp names.1

/-- The values and the first row leave one row only. -/
theorem Merged.unique {row'' : Row specs} (merged : Merged values row row')
    (merged' : Merged values row row'') : row' = row'' := by
  refine ext fun {spec} p => ?_
  cases named : values.reverse.lookup spec.name with
  | some value =>
    have narrows := merged.last p value named
    exact Except.ok.inj (narrows.symm.trans (merged'.last p value named))
  | none =>
    have unnamed := lookup_reverse_eq_none.mp named
    rw [merged.kept p (Or.inr unnamed), merged'.kept p (Or.inr unnamed)]

/-- Only the last value of each name matters. -/
theorem Merged.congr {values' : List (String × Value)}
    (same : ∀ name, values'.reverse.lookup name = values.reverse.lookup name)
    (merged : Merged values row row') : Merged values' row row' := by
  refine ⟨fun p value found => merged.last p value ((same _).symm.trans found), fun p apart => ?_⟩
  rw [← lookup_reverse_eq_none, same, lookup_reverse_eq_none] at apart
  exact merged.kept p apart

section Merging

variable (distinct : (specs.map (·.name)).Nodup)

include distinct

theorem merged_of_merge (success : (schema type specs).merge row values = (row', .ok ())) :
    (∀ pair ∈ values, ∀ e, ¬ Refuses specs pair.1 pair.2 e) ∧ Merged values row row' := by
  induction values generalizing row with
  | nil =>
    cases success
    exact ⟨nofun, nofun, fun p _ => rfl⟩
  | cons pair rest ih =>
    obtain ⟨name, value⟩ := pair
    rw [Schema.merge] at success
    cases assigned : (schema type specs).assign row name value with
    | error e =>
      rw [assigned] at success
      cases success
    | ok mid =>
      rw [assigned] at success
      obtain ⟨accepted, merged⟩ := ih success
      refine ⟨List.forall_mem_cons.mpr ⟨fun e refused => ?_, accepted⟩,
        (merged_of_assign distinct assigned).cons merged⟩
      cases assigned.symm.trans ((assign_eq_error distinct).mpr refused)

theorem merge_eq_error {e : Error} : (schema type specs).merge row values = (row', .error e) ↔
    ∃ before name value after, values = before ++ (name, value) :: after ∧
      (schema type specs).merge row before = (row', .ok ()) ∧ Refuses specs name value e := by
  simp only [Schema.merge_eq_error, assign_eq_error distinct]

/-- Merging succeeds if no value is refused. -/
theorem exists_merge_eq_ok (accepted : ∀ pair ∈ values, ∀ e, ¬ Refuses specs pair.1 pair.2 e) :
    ∃ row', (schema type specs).merge row values = (row', .ok ()) := by
  cases outcome : (schema type specs).merge row values with
  | mk reached result =>
    cases result with
    | ok _ => exact ⟨reached, rfl⟩
    | error e =>
      obtain ⟨before, name, value, after, rfl, -, refused⟩ := (merge_eq_error distinct).mp outcome
      exact absurd refused (accepted _ (List.mem_append_right _ List.mem_cons_self) e)

theorem merge_eq_ok : (schema type specs).merge row values = (row', .ok ()) ↔
    (∀ pair ∈ values, ∀ e, ¬ Refuses specs pair.1 pair.2 e) ∧ Merged values row row' := by
  refine ⟨merged_of_merge distinct, fun ⟨accepted, merged⟩ => ?_⟩
  obtain ⟨reached, success⟩ : ∃ reached, (schema type specs).merge row values = (reached, .ok ()) :=
    exists_merge_eq_ok distinct accepted
  obtain ⟨-, merged'⟩ := merged_of_merge distinct success
  rw [merged.unique merged', success]

/-- A column that cannot be assigned keeps what it had, also if merging fails. -/
theorem cell_of_merge {spec : ColumnSpec} (p : Place spec specs) {result : Except Error Unit}
    (fixed : spec.isWritable = false)
    (merged : (schema type specs).merge row values = (row', result)) :
    p.cell row' = p.cell row := by
  cases result with
  | ok _ => exact (merged_of_merge distinct merged).2.kept p (Or.inl fixed)
  | error e =>
    obtain ⟨before, -, -, -, -, success, -⟩ := (merge_eq_error distinct).mp merged
    exact (merged_of_merge distinct success).2.kept p (Or.inl fixed)

/-- Neighbours of different names can change places. -/
theorem merge_swap {before after : List (String × Value)} {first second : String × Value}
    (differ : first.1 ≠ second.1)
    (success : (schema type specs).merge row (before ++ first :: second :: after) =
      (row', .ok ())) :
    (schema type specs).merge row (before ++ second :: first :: after) = (row', .ok ()) := by
  obtain ⟨accepted, merged⟩ := (merge_eq_ok distinct).mp success
  refine (merge_eq_ok distinct).mpr ⟨fun pair mem => accepted pair ?_, merged.congr fun name => ?_⟩
  · have perm : (before ++ second :: first :: after).Perm (before ++ first :: second :: after) :=
      .append_left before (.swap first second after)
    exact perm.mem_iff.mp mem
  · exact lookup_reverse_swap differ before after

end Merging

/-- Merging succeeds exactly if the row refuses none of the values: a value is refused for a column
without a setter, such as those of relations, and if it does not narrow into its column. Then every
column that is named holds what the last of its values narrows into, and the other columns and all
relations are as they were. Merging fails exactly at the first value that the row refuses, and
leaves what the values before it have made of the row. Values of unknown names have no effect, and
the order of two neighbours of different names has none on success. -/
theorem merge_last_wins (type : String) (specs : List ColumnSpec)
    (distinct : (specs.map (·.name)).Nodup) (row : Row specs) (values : List (String × Value)) :
    (∀ row', (schema type specs).merge row values = (row', .ok ()) ↔
      (∀ pair ∈ values, ∀ e, ¬ Refuses specs pair.1 pair.2 e) ∧ Merged values row row') ∧
    (∀ row' e, (schema type specs).merge row values = (row', .error e) ↔
      ∃ before name value after, values = before ++ (name, value) :: after ∧
        (schema type specs).merge row before = (row', .ok ()) ∧ Refuses specs name value e) ∧
    (∀ row' result, (schema type specs).merge row values = (row', result) →
      ∀ {spec : ColumnSpec} (p : Place spec specs), spec.role ≠ .field →
        p.cell row' = p.cell row) ∧
    (schema type specs).merge row (values.filter fun pair => pair.1 ∈ specs.map (·.name)) =
      (schema type specs).merge row values ∧
    ∀ before first second after, values = before ++ first :: second :: after →
      first.1 ≠ second.1 → ∀ row',
        (schema type specs).merge row (before ++ second :: first :: after) = (row', .ok ()) ↔
          (schema type specs).merge row values = (row', .ok ()) := by
  refine ⟨fun row' => merge_eq_ok distinct, fun row' e => merge_eq_error distinct,
    fun row' result merged {spec} p relates => ?_, ?_, ?_⟩
  · exact cell_of_merge distinct p (ColumnSpec.isWritable_of_relates relates) merged
  · exact Schema.merge_filter fun name unknown => column?_of_unknown (of_decide_eq_false unknown)
  · rintro before first second after rfl differ row'
    exact ⟨merge_swap distinct (Ne.symm differ), merge_swap distinct differ⟩

/-- Members by a number that is given once and a name, with the relations that are loaded. -/
def memberColumns : List ColumnSpec :=
  [⟨"number", "u16", .int .uint16, .field, false⟩, ⟨"name", "String", .string, .field, true⟩,
    ⟨"level", "Option<i8>", .option (.int .int8), .field, true⟩,
    ⟨"relations", "Option<MemberRelations>", .option (.record "MemberRelations"), .forward, false⟩]

def memberNamed (name : String) (level : Option (Ranged .int8)) : Row memberColumns :=
  (⟨12, by decide⟩, name, level, none, ())

/-- Of two names the last stays, and an unknown column is skipped. Neither the number of a member
nor the relations can be assigned. -/
theorem merge_last_wins_member :
    let ann := memberNamed "Ann" none
    let bea := memberNamed "Bea" (some ⟨3, by decide⟩)
    let values : List (String × Value) := [("name", .scalar (.string "Bob")),
      ("level", .scalar (.int 3)), ("age", .null), ("name", .scalar (.string "Bea"))]
    (memberColumns.map (·.name)).Nodup ∧ Merged values ann bea ∧
    (∀ name ∈ ["number", "relations"], (schema "Member" memberColumns).merge ann
      (values ++ [(name, .scalar (.uint 8))]) = (bea, .error (.readOnly name))) ∧
    (schema "Member" memberColumns).merge ann [("level", .scalar (.int 3)),
      ("name", .scalar (.string "Bob")), ("age", .null), ("name", .scalar (.string "Bea"))] =
        (bea, .ok ()) := by
  intro ann bea values
  have distinct : (memberColumns.map (·.name)).Nodup := by decide
  have success : (schema "Member" memberColumns).merge ann values = (bea, .ok ()) := by rfl
  obtain ⟨succeeds, -, -, -, swaps⟩ := merge_last_wins "Member" memberColumns distinct ann values
  refine ⟨distinct, ((succeeds bea).mp success).2, fun name mem => ?_, ?_⟩
  · obtain ⟨-, fails, -⟩ := merge_last_wins "Member" memberColumns distinct ann
      (values ++ [(name, .scalar (.uint 8))])
    refine (fails bea _).mpr ⟨values, name, .scalar (.uint 8), [], rfl, success, ?_⟩
    rcases List.mem_pair.mp mem with rfl | rfl
    · exact .readOnly (.head _) rfl rfl
    · exact .readOnly (.tail _ (.tail _ (.tail _ (.head _)))) rfl rfl
  · exact (swaps [] _ _ _ rfl (by decide) bea).mpr success

end Row

end RecordQuery
