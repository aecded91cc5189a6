import RecordQuery.Proofs.Store.Answer

/-!
Updates of all selected records by the same values. Either nothing changes, because the selection
or one of the merges fails or a record would move to another key, or every selected record is
replaced by its merged form under the key it had. Since each record is stored under its own key,
the batch that stores the merged records cannot miss one of them.
-/

namespace RecordQuery.Store

variable {κ ρ : Type}

/-- The values cannot be merged into the record, or it would not keep its key. -/
inductive Unmergeable (store : Store κ ρ) (values : List (String × Value)) (r : ρ) : Prop
  | unkeyed {e : Error} : store.keyOf r = .error e → Unmergeable store values r
  | refused {merged : ρ} {e : Error} : store.schema.merge r values = (merged, .error e) →
      Unmergeable store values r
  | unkeyedAfter {merged : ρ} {e : Error} : store.schema.merge r values = (merged, .ok ()) →
      store.keyOf merged = .error e → Unmergeable store values r
  | moved {merged : ρ} {key keyAfter : κ} : store.keyOf r = .ok key →
      store.schema.merge r values = (merged, .ok ()) → store.keyOf merged = .ok keyAfter →
      keyAfter ≠ key → Unmergeable store values r

/-- The record with the values merged into it. -/
def merged (store : Store κ ρ) (values : List (String × Value)) (r : ρ) : ρ :=
  (store.schema.merge r values).1

/-- What an update of all selected records makes of the entries. -/
structure MergedInto (store : Store κ ρ) (values : List (String × Value)) (selected : List ρ)
    (entries changed : Entries κ ρ) : Prop where
  keys : changed.map (·.1) = entries.map (·.1)
  stored : ∀ r ∈ selected, ∃ key, (key, r) ∈ entries
  replaced : ∀ key r, (key, r) ∈ entries → r ∈ selected → (key, store.merged values r) ∈ changed
  others : ∀ key r, (key, r) ∈ entries → r ∉ selected → (key, r) ∈ changed

/-- Only stored records are selected. -/
theorem stored_of_obtainAll {store : Store κ ρ} {entries : Entries κ ρ} {clauses : List Clause}
    {selected : List ρ} (success : store.obtainAll entries clauses = .ok selected) :
    ∀ r ∈ selected, ∃ key, (key, r) ∈ entries := by
  obtain ⟨snapshots, -, selection, -, rfl⟩ := Query.run_eq_ok.mp success
  intro r mem
  obtain ⟨i, -, at_position⟩ := List.mem_filterMap.mp mem
  obtain ⟨⟨key, r⟩, isStored, rfl⟩ := List.mem_map.mp (List.mem_of_getElem? at_position)
  exact ⟨key, isStored⟩

variable [Ord κ]

theorem mergeKeepingKey_eq_ok [Std.LawfulEqOrd κ] {store : Store κ ρ}
    {values : List (String × Value)} {r m : ρ} :
    store.mergeKeepingKey values r = .ok m ↔ m = store.merged values r ∧
      store.schema.merge r values = (m, .ok ()) ∧
      ∃ key, store.keyOf r = .ok key ∧ store.keyOf m = .ok key := by
  simp only [mergeKeepingKey, bind_eq_ok, merged]
  constructor
  · rintro ⟨key, keyed, u, success, keyAfter, keyedAfter, kept⟩
    split at kept
    next same =>
      cases kept
      refine ⟨rfl, Prod.ext rfl success, key, keyed, ?_⟩
      rw [keyedAfter, Std.LawfulEqCmp.compare_beq_iff_eq.mp same]
    next => cases kept
  · rintro ⟨-, success, key, keyed, keyedAfter⟩
    refine ⟨key, keyed, (), by rw [success], key, by rw [success]; exact keyedAfter, ?_⟩
    rw [if_pos (Std.LawfulEqCmp.compare_beq_iff_eq.mpr rfl), success]
    rfl

theorem mergeKeepingKey_eq_error [Std.LawfulEqOrd κ] {store : Store κ ρ}
    {values : List (String × Value)} {r : ρ} :
    (∃ e, store.mergeKeepingKey values r = .error e) ↔ Unmergeable store values r := by
  constructor
  · rintro ⟨e, failure⟩
    by_contra mergeable
    have success : store.schema.merge r values = (store.merged values r, .ok ()) := by
      refine Prod.ext rfl ?_
      cases result : (store.schema.merge r values).2 with
      | ok _ => rfl
      | error e => exact absurd (.refused (Prod.ext rfl result)) mergeable
    cases keyed : store.keyOf r with
    | error e => exact mergeable (.unkeyed keyed)
    | ok key =>
      cases keyedAfter : store.keyOf (store.merged values r) with
      | error e => exact mergeable (.unkeyedAfter success keyedAfter)
      | ok keyAfter =>
        by_cases same : keyAfter = key
        · subst same
          rw [mergeKeepingKey_eq_ok.mpr ⟨rfl, success, keyAfter, keyed, keyedAfter⟩] at failure
          cases failure
        · exact mergeable (.moved keyed success keyedAfter same)
  · intro unmergeable
    cases result : store.mergeKeepingKey values r with
    | error e => exact ⟨e, rfl⟩
    | ok m =>
      obtain ⟨-, success, key, keyed, keyedAfter⟩ := mergeKeepingKey_eq_ok.mp result
      cases unmergeable with
      | unkeyed unkeyed => simp [keyed] at unkeyed
      | refused refused => simp [success] at refused
      | unkeyedAfter success' unkeyed =>
        cases success.symm.trans success'
        simp [keyedAfter] at unkeyed
      | moved keyed' success' keyedAfter' differ =>
        cases success.symm.trans success'
        cases keyed.symm.trans keyed'
        cases keyedAfter.symm.trans keyedAfter'
        exact absurd rfl differ

/-- The update of a record whose key is stored, and that no hook refuses. -/
theorem changeOne_update_of_accept [Std.LawfulEqOrd κ] {store : Store κ ρ} {entries : Entries κ ρ}
    (ascending : Assoc.Ascending entries) {key : κ} {m : ρ} (keyed : store.keyOf m = .ok key)
    (known : key ∈ entries.map (·.1)) (accept : store.HooksAccept .update m) :
    (store.changeOne .update entries m).result = .ok () ∧
      (store.changeOne .update entries m).entries = entries.insert key m := by
  have contained := ascending.contains_iff.mpr known
  simp [changeOne, runHook_of_accept accept, keyed, changeEntry, contained]

variable [Std.TransOrd κ] [Std.LawfulEqOrd κ]

/-- A batch of updates to stored keys that no hook refuses succeeds, and sets exactly the entries
of its records. Records of one key must be the same. -/
theorem update_of_accept {store : Store κ ρ} {entries : Entries κ ρ} {records : List ρ}
    (consistent : Consistent store entries)
    (known : ∀ m ∈ records, ∃ key, store.keyOf m = .ok key ∧ key ∈ entries.map (·.1))
    (alike : ∀ m ∈ records, ∀ m' ∈ records, store.keyOf m = store.keyOf m' → m = m')
    (accept : ∀ m ∈ records, store.HooksAccept .update m) :
    (store.update entries records).result = .ok () ∧
    (store.update entries records).entries.map (·.1) = entries.map (·.1) ∧
    ∀ entry, entry ∈ (store.update entries records).entries ↔
      (entry.2 ∈ records ∧ store.keyOf entry.2 = .ok entry.1) ∨
      (entry ∈ entries ∧ ∀ m ∈ records, store.keyOf m ≠ .ok entry.1) := by
  induction records generalizing entries with
  | nil => simp [update, changeAll]
  | cons m rest ih =>
    rw [List.forall_mem_cons] at known accept
    obtain ⟨⟨key, keyed, stored⟩, known⟩ := known
    obtain ⟨first, after⟩ :=
      changeOne_update_of_accept consistent.ascending keyed stored accept.1
    have keys := consistent.ascending.map_fst_insert stored m
    have alike_rest : ∀ m ∈ rest, ∀ m' ∈ rest, store.keyOf m = store.keyOf m' → m = m' :=
      fun m mem m' mem' => alike m (.tail _ mem) m' (.tail _ mem')
    obtain ⟨result, keys_rest, mem_iff⟩ := @ih (entries.insert key m)
      (Touched.consistent consistent (.stored keyed)) (by rwa [keys]) alike_rest accept.2
    have step : store.update entries (m :: rest) =
        { store.update (entries.insert key m) rest with
          calls := (store.changeOne .update entries m).calls ++
            (store.update (entries.insert key m) rest).calls } := by
      simp only [update, changeAll, first, after]
    rw [step]
    refine ⟨result, keys_rest.trans keys, fun entry => ?_⟩
    rw [mem_iff, consistent.ascending.mem_insert, List.forall_mem_cons, List.mem_cons]
    constructor
    · rintro (⟨mem, keyed⟩ | ⟨rfl | ⟨mem, differ⟩, others⟩)
      · exact Or.inl ⟨Or.inr mem, keyed⟩
      · exact Or.inl ⟨Or.inl rfl, keyed⟩
      · refine Or.inr ⟨mem, fun same => differ ?_, others⟩
        exact Except.ok.inj (same.symm.trans keyed)
    · rintro (⟨rfl | mem, keyed'⟩ | ⟨mem, differ, others⟩)
      · -- A later record of the same key is the same record.
        by_cases again : entry.2 ∈ rest
        · exact Or.inl ⟨again, keyed'⟩
        · refine Or.inr ⟨Or.inl (Prod.ext ?_ rfl), fun m' mem' same => ?_⟩
          · exact Except.ok.inj (keyed'.symm.trans keyed)
          · have := alike m' (.tail _ mem') entry.2 (.head _) (same.trans keyed'.symm)
            exact again (this ▸ mem')
      · exact Or.inl ⟨mem, keyed'⟩
      · refine Or.inr ⟨Or.inr ⟨mem, fun same => differ ?_⟩, others⟩
        rw [keyed, same]

/-- Selected records that merge are stored in their merged form, each under its own key. -/
theorem update_merged {store : Store κ ρ} {entries : Entries κ ρ}
    {values : List (String × Value)} {selected : List ρ} (consistent : Consistent store entries)
    (stored : ∀ r ∈ selected, ∃ key, (key, r) ∈ entries)
    (mergeable : ∀ r ∈ selected, store.mergeKeepingKey values r = .ok (store.merged values r))
    (accept : ∀ r ∈ selected, store.HooksAccept .update (store.merged values r)) :
    (store.update entries (selected.map (store.merged values))).result = .ok () ∧
    MergedInto store values selected entries
      (store.update entries (selected.map (store.merged values))).entries := by
  -- A selected record and its merged form have the key that the record is stored under.
  have keyed {key : κ} {r : ρ} (mem : (key, r) ∈ entries) (isSelected : r ∈ selected) :
      store.keyOf (store.merged values r) = .ok key := by
    obtain ⟨-, -, key', before, after⟩ := mergeKeepingKey_eq_ok.mp (mergeable r isSelected)
    rwa [Except.ok.inj (before.symm.trans (consistent.keyed (key, r) mem))] at after
  have own_key {key : κ} {r r' : ρ} (mem : (key, r) ∈ entries) (isSelected : r' ∈ selected)
      (same : store.keyOf (store.merged values r') = .ok key) : r' = r := by
    obtain ⟨key', mem'⟩ := stored r' isSelected
    have key_eq := Except.ok.inj ((keyed mem' isSelected).symm.trans same)
    subst key_eq
    have found := consistent.ascending.find?_eq_some.mpr mem
    exact Option.some.inj ((consistent.ascending.find?_eq_some.mpr mem').symm.trans found)
  have known : ∀ m ∈ selected.map (store.merged values),
      ∃ key, store.keyOf m = .ok key ∧ key ∈ entries.map (·.1) := by
    rw [List.forall_mem_map]
    intro r isSelected
    obtain ⟨key, mem⟩ := stored r isSelected
    exact ⟨key, keyed mem isSelected, List.mem_map_of_mem mem⟩
  have alike : ∀ m ∈ selected.map (store.merged values), ∀ m' ∈ selected.map (store.merged values),
      store.keyOf m = store.keyOf m' → m = m' := by
    simp only [List.forall_mem_map]
    intro r isSelected r' isSelected' same
    obtain ⟨key', mem'⟩ := stored r' isSelected'
    rw [own_key mem' isSelected (same.trans (keyed mem' isSelected'))]
  obtain ⟨result, keys, mem_iff⟩ :=
    update_of_accept consistent known alike (List.forall_mem_map.mpr accept)
  refine ⟨result, keys, stored, fun key r mem isSelected => ?_, fun key r mem notSelected => ?_⟩
  · exact (mem_iff _).mpr (Or.inl ⟨List.mem_map_of_mem isSelected, keyed mem isSelected⟩)
  · refine (mem_iff _).mpr (Or.inr ⟨mem, ?_⟩)
    rw [List.forall_mem_map]
    intro r' isSelected' same
    exact notSelected (own_key mem isSelected' same ▸ isSelected')

/-- An update of all selected records fails without a trace if the selection fails or one of the
selected records does not merge or keep its key. Otherwise, unless a hook refuses a merged record,
it succeeds and replaces exactly the selected records, each under its own key. -/
theorem updateAll_atomic {store : Store κ ρ} {entries : Entries κ ρ}
    (reached : Reachable store entries) (values : List (String × Value))
    (clauses : List Clause) :
    (∀ e, store.obtainAll entries clauses = .error e →
      store.updateAll entries values clauses = failed entries e) ∧
    ∀ selected, store.obtainAll entries clauses = .ok selected →
      ((∃ r ∈ selected, Unmergeable store values r) →
        ∃ e, store.updateAll entries values clauses = failed entries e) ∧
      ((∀ r ∈ selected, ¬ Unmergeable store values r) →
        (∀ r ∈ selected, store.HooksAccept .update (store.merged values r)) →
        (store.updateAll entries values clauses).result = .ok () ∧
        MergedInto store values selected entries
          (store.updateAll entries values clauses).entries) := by
  refine ⟨fun e failure => by rw [updateAll, failure], fun selected success => ⟨?_, ?_⟩⟩
  · rintro ⟨r, isSelected, unmergeable⟩
    have fails := exists_mapM_eq_error.mpr ⟨r, isSelected, mergeKeepingKey_eq_error.mpr unmergeable⟩
    obtain ⟨e, failure⟩ := fails
    exact ⟨e, by rw [updateAll, success]; simp only [failure]⟩
  · intro mergeable accept
    have each : ∀ r ∈ selected,
        store.mergeKeepingKey values r = .ok (store.merged values r) := by
      intro r isSelected
      cases result : store.mergeKeepingKey values r with
      | error e => exact absurd (mergeKeepingKey_eq_error.mp ⟨e, result⟩) (mergeable r isSelected)
      | ok m => rw [(mergeKeepingKey_eq_ok.mp result).1]
    have all : selected.mapM (store.mergeKeepingKey values) =
        .ok (selected.map (store.merged values)) := by
      rw [mapM_eq_ok, List.forall₂_map_right_iff, List.forall₂_same]
      exact each
    have stores : store.updateAll entries values clauses =
        store.update entries (selected.map (store.merged values)) := by
      rw [updateAll, success]
      simp only [all]
    rw [stores]
    exact update_merged reached.consistent (stored_of_obtainAll success) each accept

/-- The two items named `a`. -/
def sampleNamed : List Clause :=
  [.condition ⟨⟨none, "name"⟩, .eq, some (.single (.string "a"))⟩]

theorem sample_named : sampleStore.obtainAll sampleEntries sampleNamed =
    .ok [sampleItem 3 "a" (some 5), sampleItem 7 "a" none] := by
  have selects : (Query.ofClauses sampleNamed).select {} sampleSnapshots.toArray =
      .ok (sampleSelection [1, 2]) :=
    (Query.select_eq_ok rfl).mpr
      ⟨sampleSelection [1, 2], _, by rfl, Selection.sort_nil _ _, by rfl⟩
  exact Query.run_eq_ok.mpr
    ⟨sampleSnapshots, .cons rfl (.cons rfl (.cons rfl .nil)), _, selects, by rfl⟩

/-- A new price is set in both items. The key 3 is that of the first item only, and would move the
second one, so nothing is stored. -/
theorem updateAll_atomic_sample :
    sampleStore.obtainAll sampleEntries sampleNamed =
      .ok [sampleItem 3 "a" (some 5), sampleItem 7 "a" none] ∧
    (∃ e, sampleStore.updateAll sampleEntries [("id", .scalar (.uint 3))] sampleNamed =
      failed sampleEntries e) ∧
    (sampleStore.updateAll sampleEntries [("price", .scalar (.uint 9))] sampleNamed).result =
      .ok () ∧
    MergedInto sampleStore [("price", .scalar (.uint 9))]
      [sampleItem 3 "a" (some 5), sampleItem 7 "a" none] sampleEntries
      (sampleStore.updateAll sampleEntries [("price", .scalar (.uint 9))] sampleNamed).entries := by
  refine ⟨sample_named, ?_, ?_⟩
  · refine ((updateAll_atomic sampleEntries_reachable _ _).2 _ sample_named).1
      ⟨sampleItem 7 "a" none, by simp, ?_⟩
    have keyAfter : sampleStore.keyOf (sampleItem 3 "a" none) = .ok (sampleNumber 3) := rfl
    have differ : sampleNumber 3 ≠ sampleNumber 7 := by decide
    exact .moved rfl rfl keyAfter differ
  · refine ((updateAll_atomic sampleEntries_reachable _ _).2 _ sample_named).2 ?_ ?_
    · simp only [List.forall_mem_cons]
      refine ⟨?_, ?_, nofun⟩
      · exact mt mergeKeepingKey_eq_error.mpr (by rintro ⟨e, failure⟩; cases failure)
      · exact mt mergeKeepingKey_eq_error.mpr (by rintro ⟨e, failure⟩; cases failure)
    · intro r _ moment hook found
      cases moment <;> cases found

end RecordQuery.Store
