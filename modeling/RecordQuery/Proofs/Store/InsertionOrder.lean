import RecordQuery.Proofs.Store.Batch

/-!
Insertion order. Records whose keys all differ can be given to a store when it starts or added
later, in any order and in any batches that create them or put them. What the store holds in the
end, and so every answer it gives, depends only on which records they are.
-/

namespace RecordQuery

/-- A batch that adds records. -/
structure Addition (ρ : Type) where
  change : Change
  records : List ρ
  adds : change = .create ∨ change = .createOrUpdate

namespace Store

variable {κ ρ : Type} [Ord κ]

/-- The entries after some additions, one after another, if all of them succeed. -/
def addAll (store : Store κ ρ) (entries : Entries κ ρ) :
    List (Addition ρ) → Except Error (Entries κ ρ)
  | [] => .ok entries
  | addition :: rest =>
    let outcome := store.perform entries (.batch addition.change addition.records)
    match outcome.result with
    | .error e => .error e
    | .ok () => store.addAll outcome.entries rest

/-- The entries of a store that starts with some records and to which others are added. -/
def fill (store : Store κ ρ) (initial : List ρ) (additions : List (Addition ρ)) :
    Except Error (Entries κ ρ) := do
  store.addAll (← store.start initial) additions

/-- Every record has a key, and no two have the same. -/
structure DistinctlyKeyed (store : Store κ ρ) (records : List ρ) : Prop where
  keyed : ∀ r ∈ records, ∃ key, store.keyOf r = .ok key
  distinct : records.Pairwise fun r s => store.keyOf r ≠ store.keyOf s

/-- The entries are exactly those of the records by their keys. -/
structure EntriesOf (store : Store κ ρ) (records : List ρ) (entries : Entries κ ρ) : Prop where
  ascending : Assoc.Ascending entries
  mem_iff : ∀ entry, entry ∈ entries ↔ entry.2 ∈ records ∧ store.keyOf entry.2 = .ok entry.1

section Keys

variable {store : Store κ ρ} {records before : List ρ} {r : ρ}

omit [Ord κ] in
theorem DistinctlyKeyed.perm {others : List ρ} (distinct : DistinctlyKeyed store records)
    (perm : others.Perm records) : DistinctlyKeyed store others where
  keyed r mem := distinct.keyed r (perm.mem_iff.mp mem)
  distinct := perm.symm.pairwise distinct.distinct Ne.symm

omit [Ord κ] in
theorem DistinctlyKeyed.front (distinct : DistinctlyKeyed store (before ++ records)) :
    DistinctlyKeyed store before where
  keyed r mem := distinct.keyed r (List.mem_append_left _ mem)
  distinct := (List.pairwise_append.mp distinct.distinct).1

omit [Ord κ] in
/-- A record behind others has a key that none of them has. -/
theorem DistinctlyKeyed.new (distinct : DistinctlyKeyed store (before ++ r :: records)) :
    ∃ key, store.keyOf r = .ok key ∧ ∀ s ∈ before, store.keyOf s ≠ .ok key := by
  obtain ⟨key, keyed⟩ := distinct.keyed r (by simp)
  refine ⟨key, keyed, fun s mem => ?_⟩
  rw [← keyed]
  exact (List.pairwise_append.mp distinct.distinct).2.2 s mem r List.mem_cons_self

end Keys

section Entries

variable {store : Store κ ρ} {records before : List ρ} {entries : Entries κ ρ} {r : ρ} {key : κ}

omit [Ord κ] in
theorem entriesOf_nil [Ord κ] : EntriesOf store [] [] :=
  ⟨List.Pairwise.nil, by simp⟩

variable [Std.TransOrd κ]

/-- The entries do not tell in which order the records came. -/
theorem EntriesOf.unique {others : List ρ} {entries' : Entries κ ρ} (perm : others.Perm records)
    (holds : EntriesOf store records entries) (holds' : EntriesOf store others entries') :
    entries' = entries := by
  have irreflexive {a b : κ × ρ} (less : compare a.1 b.1 = .lt) : a ≠ b := by
    rintro rfl
    cases less.symm.trans Std.ReflCmp.compare_self
  have same : entries'.Perm entries := by
    rw [List.perm_ext_iff_of_nodup (holds'.ascending.imp irreflexive)
      (holds.ascending.imp irreflexive)]
    intro entry
    rw [holds'.mem_iff, holds.mem_iff, perm.mem_iff]
  refine same.eq_of_pairwise (fun a b _ _ less greater => ?_) holds'.ascending holds.ascending
  cases greater.symm.trans (Std.OrientedCmp.gt_of_lt less)

variable [Std.LawfulEqOrd κ]

/-- A record with a new key adds its own entry. -/
theorem EntriesOf.insert (holds : EntriesOf store before entries) (keyed : store.keyOf r = .ok key)
    (new : ∀ s ∈ before, store.keyOf s ≠ .ok key) :
    EntriesOf store (before ++ [r]) (entries.insert key r) := by
  refine ⟨holds.ascending.insert key r, fun entry => ?_⟩
  rw [holds.ascending.mem_insert, holds.mem_iff, List.mem_append, List.mem_singleton]
  constructor
  · rintro (rfl | ⟨⟨mem, own⟩, -⟩)
    · exact ⟨Or.inr rfl, keyed⟩
    · exact ⟨Or.inl mem, own⟩
  · rintro ⟨mem | rfl, own⟩
    · refine Or.inr ⟨⟨mem, own⟩, ?_⟩
      rintro rfl
      exact new entry.2 mem own
    · cases keyed.symm.trans own
      exact Or.inl rfl

/-- Loading goes on behind the records whose entries are there. -/
theorem exists_load (holds : EntriesOf store before entries)
    (distinct : DistinctlyKeyed store (before ++ records)) :
    ∃ loaded, load store.keyOf records entries = .ok loaded ∧
      EntriesOf store (before ++ records) loaded := by
  induction records generalizing before entries with
  | nil => exact ⟨entries, rfl, by rwa [List.append_nil]⟩
  | cons r rest ih =>
    obtain ⟨key, keyed, new⟩ := distinct.new
    rw [List.append_cons] at distinct ⊢
    obtain ⟨loaded, success, holds⟩ := ih (holds.insert keyed new) distinct
    exact ⟨loaded, bind_eq_ok.mpr ⟨key, keyed, success⟩, holds⟩

omit [Std.TransOrd κ] in
/-- A record with a new key can be created as well as put. -/
theorem changeOne_of_new {change : Change} (adds : change = .create ∨ change = .createOrUpdate)
    (accept : store.HooksAccept change r) (holds : EntriesOf store before entries)
    (keyed : store.keyOf r = .ok key) (new : ∀ s ∈ before, store.keyOf s ≠ .ok key) :
    (store.changeOne change entries r).result = .ok () ∧
      (store.changeOne change entries r).entries = entries.insert key r := by
  have free : entries.contains key = false := by
    rw [Bool.eq_false_iff, ne_eq, holds.ascending.contains_iff, List.mem_map]
    rintro ⟨entry, mem, rfl⟩
    obtain ⟨stored, own⟩ := (holds.mem_iff entry).mp mem
    exact new entry.2 stored own
  rcases adds with rfl | rfl <;>
    simp [changeOne, runHook_of_accept accept, keyed, changeEntry, free]

theorem changeAll_of_new {change : Change} (adds : change = .create ∨ change = .createOrUpdate)
    (accept : ∀ r ∈ records, store.HooksAccept change r) (holds : EntriesOf store before entries)
    (distinct : DistinctlyKeyed store (before ++ records)) :
    (store.changeAll change entries records).result = .ok () ∧
      EntriesOf store (before ++ records) (store.changeAll change entries records).entries := by
  induction records generalizing before entries with
  | nil => exact ⟨rfl, by rwa [List.append_nil]⟩
  | cons r rest ih =>
    obtain ⟨key, keyed, new⟩ := distinct.new
    rw [List.forall_mem_cons] at accept
    obtain ⟨success, changed⟩ := changeOne_of_new adds accept.1 holds keyed new
    rw [List.append_cons] at distinct ⊢
    rw [changeAll, success, changed]
    exact ih accept.2 (holds.insert keyed new) distinct

/-- Additions go on behind the records whose entries are there. -/
theorem exists_addAll {additions : List (Addition ρ)}
    (accept : ∀ addition ∈ additions, ∀ r ∈ addition.records,
      store.HooksAccept addition.change r)
    (holds : EntriesOf store before entries)
    (distinct : DistinctlyKeyed store (before ++ additions.flatMap Addition.records)) :
    ∃ filled, store.addAll entries additions = .ok filled ∧
      EntriesOf store (before ++ additions.flatMap Addition.records) filled := by
  induction additions generalizing before entries with
  | nil => exact ⟨entries, rfl, by rwa [List.flatMap_nil, List.append_nil]⟩
  | cons addition rest ih =>
    rw [List.forall_mem_cons] at accept
    rw [List.flatMap_cons, ← List.append_assoc] at distinct ⊢
    obtain ⟨success, holds⟩ := changeAll_of_new addition.adds accept.1 holds distinct.front
    rw [addAll, perform_batch]
    simp only [success]
    exact ih accept.2 holds distinct

end Entries

variable [Std.TransOrd κ] [Std.LawfulEqOrd κ]

/-- Records with different keys leave a store with exactly their entries, whichever of them it
starts with, and in whatever order and batches the others are added. So queries, counts and keys
find the same, in the same order. -/
theorem fill_of_perm {store : Store κ ρ} {records : List ρ}
    (distinct : DistinctlyKeyed store records)
    (accept : ∀ r ∈ records,
      store.HooksAccept .create r ∧ store.HooksAccept .createOrUpdate r) :
    ∃ entries, EntriesOf store records entries ∧
      ∀ initial additions, (initial ++ additions.flatMap Addition.records).Perm records →
        ∃ filled, store.fill initial additions = .ok filled ∧ filled = entries ∧
          (∀ clauses, store.obtainAll filled clauses = store.obtainAll entries clauses ∧
            store.count filled clauses = store.count entries clauses) ∧
          ∀ key, store.obtainOne filled key = store.obtainOne entries key := by
  obtain ⟨entries, -, holds⟩ := exists_load entriesOf_nil distinct
  refine ⟨entries, holds, fun initial additions perm => ?_⟩
  have reordered := distinct.perm perm
  have acceptAdded : ∀ addition ∈ additions, ∀ r ∈ addition.records,
      store.HooksAccept addition.change r := by
    intro addition mem r among
    have added : r ∈ initial ++ additions.flatMap Addition.records :=
      List.mem_append_right _ (List.mem_flatMap.mpr ⟨addition, mem, among⟩)
    have accepts := accept r (perm.mem_iff.mp added)
    rcases addition.adds with adds | adds <;> rw [adds]
    · exact accepts.1
    · exact accepts.2
  obtain ⟨started, starts, holdsFirst⟩ := exists_load entriesOf_nil reordered.front
  obtain ⟨filled, fills, holdsAll⟩ := exists_addAll acceptAdded holdsFirst reordered
  have same := EntriesOf.unique perm holds holdsAll
  refine ⟨filled, bind_eq_ok.mpr ⟨started, starts, fills⟩, same, fun clauses => ?_, fun key => ?_⟩
  · rw [same]
    exact ⟨rfl, rfl⟩
  · rw [same]

def sampleItems : List (Row sampleColumns) :=
  [sampleItem 2 "b" none, sampleItem 3 "a" (some 5), sampleItem 7 "a" none]

def sampleAdditions : List (Addition (Row sampleColumns)) :=
  [⟨.createOrUpdate, [sampleItem 3 "a" (some 5)], Or.inr rfl⟩,
    ⟨.create, [sampleItem 2 "b" none], Or.inl rfl⟩]

/-- Three items added one by one against the order of their numbers, or all at once. -/
theorem fill_of_perm_sample : ∃ entries, EntriesOf sampleStore sampleItems entries ∧
    sampleStore.fill [sampleItem 7 "a" none] sampleAdditions = .ok entries ∧
    sampleStore.fill [] [⟨.create, sampleItems, Or.inl rfl⟩] = .ok entries := by
  have distinct : DistinctlyKeyed sampleStore sampleItems := by
    constructor
    · simp only [sampleItems, List.forall_mem_cons, List.not_mem_nil, false_imp_iff, implies_true,
        and_true]
      exact ⟨⟨sampleNumber 2, rfl⟩, ⟨sampleNumber 3, rfl⟩, ⟨sampleNumber 7, rfl⟩⟩
    · simp only [sampleItems, List.pairwise_cons, List.forall_mem_cons, List.not_mem_nil,
        false_imp_iff, implies_true, and_true, List.Pairwise.nil]
      exact ⟨⟨nofun, nofun⟩, nofun⟩
  have accept : ∀ r ∈ sampleItems, sampleStore.HooksAccept .create r ∧
      sampleStore.HooksAccept .createOrUpdate r := by
    refine fun r _ => ⟨fun moment hook found => ?_, fun moment hook found => ?_⟩ <;>
      cases moment <;> cases found
  obtain ⟨entries, holds, fills⟩ := fill_of_perm distinct accept
  have byOne : ([sampleItem 7 "a" none] ++ sampleAdditions.flatMap Addition.records).Perm
      sampleItems := List.reverse_perm sampleItems
  have atOnce : ([] ++ [Addition.mk .create sampleItems (Or.inl rfl)].flatMap
      Addition.records).Perm sampleItems := .refl _
  obtain ⟨_, first, rfl, -⟩ := fills _ _ byOne
  obtain ⟨_, second, rfl, -⟩ := fills _ _ atOnce
  exact ⟨_, holds, first, second⟩

end Store

end RecordQuery
