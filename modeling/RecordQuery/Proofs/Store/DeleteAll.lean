import RecordQuery.Proofs.Store.Batch
import RecordQuery.Proofs.Store.UpdateAll

/-!
Deletions of all selected records. A selection has each of its records once, and each of them is
stored under its own key, so the batch that deletes them misses none. What is left was refused by
the conditions before, which they repeat: the same clauses select nothing then, and nothing is
left in the selection that could fail to be sorted.
-/

namespace RecordQuery.Store

variable {κ ρ : Type}

/-- What a deletion of selected records leaves of the entries. -/
structure RemovedFrom (selected : List ρ) (entries changed : Entries κ ρ) : Prop where
  distinct : selected.Nodup
  stored : ∀ r ∈ selected, ∃! key, (key, r) ∈ entries
  remaining : changed.Sublist entries
  mem_iff : ∀ entry, entry ∈ changed ↔ entry ∈ entries ∧ entry.2 ∉ selected

section Records

variable [Ord κ] {store : Store κ ρ} {entries changed : Entries κ ρ} {clauses : List Clause}
  {selected : List ρ}

/-- A record is stored under one key only. -/
theorem Consistent.eq_of_record (consistent : Consistent store entries) {a b : κ × ρ}
    (mem : a ∈ entries) (mem' : b ∈ entries) (same : a.2 = b.2) : a = b := by
  have keyed := consistent.keyed a mem
  rw [same, consistent.keyed b mem'] at keyed
  exact Prod.ext (Except.ok.inj keyed).symm same

theorem Consistent.eq_of_key [Std.LawfulEqOrd κ] (consistent : Consistent store entries)
    {key : κ} {r r' : ρ} (mem : (key, r) ∈ entries) (mem' : (key, r') ∈ entries) : r = r' := by
  have found := consistent.ascending.find?_eq_some.mpr mem
  rw [consistent.ascending.find?_eq_some.mpr mem'] at found
  exact (Option.some.inj found).symm

/-- No record is selected twice, whatever the groups, the order and the page. -/
theorem nodup_of_obtainAll [Std.TransOrd κ] (consistent : Consistent store entries)
    (success : store.obtainAll entries clauses = .ok selected) : selected.Nodup := by
  obtain ⟨snapshots, reflects, selection, selects, rfl⟩ := Query.run_eq_ok.mp success
  have size := Reflects.length_eq reflects
  rw [filterMap_records size]
  refine (Query.select_nodup selects).map fun i j same => ?_
  have mem := (mem_iff_entryAt size).mpr ⟨i, rfl⟩
  have mem' := (mem_iff_entryAt size).mpr ⟨j, rfl⟩
  exact entryAt_injective consistent.ascending size (consistent.eq_of_record mem mem' same)

omit [Ord κ] in
/-- Of records that were not selected, the same clauses select none. -/
theorem obtainAll_of_unselected (ungrouped : ∀ target, .group target ∉ clauses)
    (no_offset : ∀ n, .offset n ∉ clauses) (no_limit : ∀ n, .limit n ∉ clauses)
    (success : store.obtainAll entries clauses = .ok selected)
    (unselected : ∀ entry ∈ changed, entry ∈ entries ∧ entry.2 ∉ selected) :
    store.obtainAll changed clauses = .ok [] := by
  -- What the conditions decide on a record does not depend on the records around it.
  refine Query.run_eq_nil fun r mem => ?_
  obtain ⟨entry, left, rfl⟩ := List.mem_map.mp mem
  obtain ⟨known, notSelected⟩ := unselected entry left
  have isRecord : entry.2 ∈ records entries := List.mem_map_of_mem known
  obtain ⟨decision, decides⟩ := Query.exists_decides success entry.2 isRecord
  cases decision with
  | false => exact decides
  | true =>
    exact absurd (Query.mem_of_decides (Query.groups_eq_nil ungrouped)
      (Query.unpaged_ofClauses no_offset no_limit) success isRecord decides) notSelected

end Records

section Batches

variable [Ord κ] {store : Store κ ρ} {entries : Entries κ ρ} {records : List ρ}

theorem carryOutAll_delete_sublist (store : Store κ ρ) (entries : Entries κ ρ) (records : List ρ) :
    (store.carryOutAll .delete entries records).Sublist entries := by
  induction records generalizing entries with
  | nil => exact List.Sublist.refl _
  | cons r rest ih =>
    refine (ih (store.carryOut .delete entries r)).trans ?_
    cases keyed : store.keyOf r with
    | error e => rw [carryOut_of_error keyed]
    | ok key =>
      rw [carryOut_delete keyed]
      exact Assoc.erase_sublist key entries

variable [Std.TransOrd κ] [Std.LawfulEqOrd κ]

/-- A batch of deletions leaves the entries of other keys. -/
theorem mem_carryOutAll_delete (ascending : Assoc.Ascending entries) {entry : κ × ρ} :
    entry ∈ store.carryOutAll .delete entries records ↔
      entry ∈ entries ∧ ∀ r ∈ records, store.keyOf r ≠ .ok entry.1 := by
  have changed_ascending := carryOutAll_ascending store .delete ascending records
  constructor
  · intro mem
    have known := (mem_keys_carryOutAll_delete ascending).mp (List.mem_map_of_mem mem)
    exact ⟨(carryOutAll_delete_sublist store entries records).subset mem, known.2⟩
  · rintro ⟨mem, differ⟩
    refine changed_ascending.find?_eq_some.mp ?_
    rw [find?_carryOutAll differ]
    exact ascending.find?_eq_some.mpr mem

omit [Std.TransOrd κ] in
/-- Stored records that differ and that no hook refuses can be deleted one after another. -/
theorem allChanged_delete (consistent : Consistent store entries) (distinct : records.Nodup)
    (stored : ∀ r ∈ records, ∃ key, (key, r) ∈ entries)
    (accept : ∀ r ∈ records, store.HooksAccept .delete r) :
    AllChanged store .delete entries records := by
  intro earlier r later split
  subst split
  obtain ⟨-, -, apart⟩ := List.nodup_append.mp distinct
  rw [List.forall_mem_append] at stored accept
  obtain ⟨key, mem⟩ := stored.2 r List.mem_cons_self
  have keyed := consistent.keyed (key, r) mem
  have accepts := runHook_of_accept (accept.2 r List.mem_cons_self)
  refine .intro (accepts .before) keyed (fun e clash => ?_) (.removed rfl mem) (accepts .after)
  cases clash with
  | stored puts _ | created puts _ _ => cases puts
  | absent _ unknown => exact unknown (List.mem_map_of_mem mem)
  | @removed r' _ before keyed' =>
    obtain ⟨key', mem'⟩ := stored.1 r' before
    cases (consistent.keyed (key', r') mem').symm.trans keyed'
    exact apart r' before r List.mem_cons_self (consistent.eq_of_key mem' mem)

/-- A batch that deletes such records leaves exactly the entries of the others. -/
theorem delete_removes (consistent : Consistent store entries) (distinct : records.Nodup)
    (stored : ∀ r ∈ records, ∃ key, (key, r) ∈ entries)
    (accept : ∀ r ∈ records, store.HooksAccept .delete r) :
    (store.delete entries records).result = .ok () ∧
      RemovedFrom records entries (store.delete entries records).entries := by
  have ascending := consistent.ascending
  have all := allChanged_delete consistent distinct stored accept
  obtain ⟨success, changed⟩ := changeAll_of_batchEnds ascending (.complete all)
  have left : (store.delete entries records).entries =
      store.carryOutAll .delete entries records := by
    rw [delete, changed, List.take_length]
  rw [left]
  refine ⟨success, distinct, fun r isRecord => ?_, carryOutAll_delete_sublist _ _ _,
    fun entry => ?_⟩
  · obtain ⟨key, mem⟩ := stored r isRecord
    exact ⟨key, mem, fun key' mem' => congrArg Prod.fst (consistent.eq_of_record mem' mem rfl)⟩
  · rw [mem_carryOutAll_delete ascending]
    refine and_congr_right fun mem => ⟨fun differ isRecord => ?_, fun other r isRecord keyed => ?_⟩
    · exact differ entry.2 isRecord (consistent.keyed entry mem)
    · obtain ⟨key, mem'⟩ := stored r isRecord
      cases (consistent.keyed (key, r) mem').symm.trans keyed
      exact other (consistent.eq_of_key mem' mem ▸ isRecord)

end Batches

/-- A deletion of all selected records that no hook refuses succeeds and leaves exactly the
entries whose records were not selected. Unless a grouping or a page hid records that satisfy the
conditions, the same clauses select nothing afterwards, and deleting by them changes nothing. -/
theorem deleteAll_exact [Ord κ] [Std.TransOrd κ] [Std.LawfulEqOrd κ] {store : Store κ ρ}
    {entries : Entries κ ρ} {clauses : List Clause} {selected : List ρ}
    (reached : Reachable store entries)
    (success : store.obtainAll entries clauses = .ok selected)
    (accept : ∀ r ∈ selected, store.HooksAccept .delete r) :
    (store.deleteAll entries clauses).result = .ok () ∧
    RemovedFrom selected entries (store.deleteAll entries clauses).entries ∧
    ((∀ target, .group target ∉ clauses) → (∀ n, .offset n ∉ clauses) →
      (∀ n, .limit n ∉ clauses) →
      store.obtainAll (store.deleteAll entries clauses).entries clauses = .ok [] ∧
      store.deleteAll (store.deleteAll entries clauses).entries clauses =
        ⟨(store.deleteAll entries clauses).entries, [], .ok ()⟩) := by
  have deletes : store.deleteAll entries clauses = store.delete entries selected := by
    simp only [deleteAll, success]
  have consistent := reached.consistent
  obtain ⟨deleted, removed⟩ := delete_removes consistent
    (nodup_of_obtainAll consistent success) (stored_of_obtainAll success) accept
  rw [deletes]
  refine ⟨deleted, removed, fun ungrouped no_offset no_limit => ?_⟩
  have none_left := obtainAll_of_unselected ungrouped no_offset no_limit success
    fun entry => (removed.mem_iff entry).mp
  refine ⟨none_left, ?_⟩
  simp only [deleteAll, none_left]
  rfl

/-- The items without a price, by name. -/
def sampleUnpriced : List Clause :=
  [.condition ⟨⟨none, "price"⟩, .isNull, none⟩, .sort ⟨⟨none, "name"⟩, .unspecified⟩]

theorem sample_unpriced : sampleStore.obtainAll sampleEntries sampleUnpriced =
    .ok [sampleItem 7 "a" none, sampleItem 2 "b" none] := by
  have sorts : Selection.sort .first (Query.ofClauses sampleUnpriced).keys
      (sampleSelection [0, 2]) = .ok (sampleSelection [2, 0]) := by
    have ranked : [2, 0] =
        ([0, 2] : List (Fin 3)).mergeSort fun i j => sampleRank i ≤ sampleRank j := by
      simp [sampleRank, List.mergeSort]
    exact Selection.sort_of_ranked (by rfl) sample_order ranked
  have selects : (Query.ofClauses sampleUnpriced).select {} sampleSnapshots.toArray =
      .ok (sampleSelection [2, 0]) :=
    (Query.select_eq_ok rfl).mpr ⟨sampleSelection [0, 2], _, by rfl, sorts, by rfl⟩
  exact Query.run_eq_ok.mpr
    ⟨sampleSnapshots, .cons rfl (.cons rfl (.cons rfl .nil)), _, selects, by rfl⟩

/-- The hook that protects priced items refuses none of them. -/
theorem deleteAll_exact_sample :
    sampleStore.obtainAll sampleEntries sampleUnpriced =
      .ok [sampleItem 7 "a" none, sampleItem 2 "b" none] ∧
    (sampleStore.deleteAll sampleEntries sampleUnpriced).result = .ok () ∧
    RemovedFrom [sampleItem 7 "a" none, sampleItem 2 "b" none] sampleEntries
      (sampleStore.deleteAll sampleEntries sampleUnpriced).entries ∧
    sampleStore.obtainAll (sampleStore.deleteAll sampleEntries sampleUnpriced).entries
      sampleUnpriced = .ok [] := by
  have accept : ∀ r ∈ [sampleItem 7 "a" none, sampleItem 2 "b" none],
      sampleStore.HooksAccept .delete r := by
    intro r mem moment hook found
    cases moment with
    | after => cases found
    | before =>
      cases found
      simp only [List.mem_cons, List.not_mem_nil, or_false] at mem
      rcases mem with rfl | rfl <;> rfl
  obtain ⟨result, removed, again⟩ :=
    deleteAll_exact sampleEntries_reachable sample_unpriced accept
  have none_left := again (by simp [sampleUnpriced]) (by simp [sampleUnpriced])
    (by simp [sampleUnpriced])
  exact ⟨sample_unpriced, result, removed, none_left.1⟩

end RecordQuery.Store
