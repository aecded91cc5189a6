import Mathlib.Data.List.Sort
import RecordQuery.Proofs.Query.Stages
import RecordQuery.Proofs.Store.History

/-!
Answers of a store. For given clauses the stored records that satisfy every condition, each once,
have exactly one order that the sort keys prescribe when ties go by key. A query without groups
answers with a window of that list, and its length is the count.
-/

namespace RecordQuery.Store

variable {κ ρ : Type}

/-- The record can be read, and every condition among the clauses accepts it. -/
def Satisfies (store : Store κ ρ) (clauses : List Clause) (r : ρ) : Prop :=
  ∃ s, store.schema.reflect r = .ok s ∧ ∀ c, .condition c ∈ clauses →
    Matching.accepts store.options.nullSemantics c s = .ok true

/-- The first entry comes before the second by the sort keys, or they tie and it has the lesser
key. -/
def InOrder [Ord κ] (store : Store κ ρ) (clauses : List Clause) (a b : κ × ρ) : Prop :=
  ∃ s t, store.schema.reflect a.2 = .ok s ∧ store.schema.reflect b.2 = .ok t ∧
    (Selection.Before store.options.nulls (clauses.filterMap Query.key?) s t ∨
      Selection.Tied (clauses.filterMap Query.key?) s t ∧ compare a.1 b.1 = .lt)

theorem InOrder.asymm [Ord κ] [Std.TransOrd κ] {store : Store κ ρ} {clauses : List Clause}
    {a b : κ × ρ} (forth : store.InOrder clauses a b) : ¬ store.InOrder clauses b a := by
  intro back
  obtain ⟨s, t, reads_s, reads_t, forth⟩ := forth
  obtain ⟨t', s', reads_t', reads_s', back⟩ := back
  cases reads_s.symm.trans reads_s'
  cases reads_t.symm.trans reads_t'
  rcases forth with before | ⟨tied, less⟩ <;> rcases back with before' | ⟨tied', less'⟩
  · exact before.asymm before'
  · exact before.not_tied tied'.symm
  · exact before'.not_tied tied.symm
  · rw [Std.OrientedCmp.gt_of_lt less] at less'
    cases less'

/-- The entries whose records satisfy the clauses, each once and in order. -/
structure Listing [Ord κ] (store : Store κ ρ) (entries : Entries κ ρ) (clauses : List Clause)
    (listing : List (κ × ρ)) : Prop where
  mem_iff : ∀ entry, entry ∈ listing ↔ entry ∈ entries ∧ store.Satisfies clauses entry.2
  nodup : listing.Nodup
  ordered : listing.Pairwise (store.InOrder clauses)

theorem Listing.unique [Ord κ] [Std.TransOrd κ] {store : Store κ ρ} {entries : Entries κ ρ}
    {clauses : List Clause} {listing other : List (κ × ρ)}
    (lists : Listing store entries clauses listing)
    (lists' : Listing store entries clauses other) : other = listing := by
  have perm : other.Perm listing := by
    rw [List.perm_ext_iff_of_nodup lists'.nodup lists.nodup]
    exact fun entry => (lists'.mem_iff entry).trans (lists.mem_iff entry).symm
  refine perm.eq_of_pairwise ?_ lists'.ordered lists.ordered
  exact fun a b _ _ forth back => absurd back forth.asymm

section Reflected

variable {store : Store κ ρ} {entries : Entries κ ρ} {snapshots : List Snapshot}

/-- The snapshots are those of the records in key order. -/
def Reflects (store : Store κ ρ) (entries : Entries κ ρ) (snapshots : List Snapshot) : Prop :=
  List.Forall₂ (fun r s => store.schema.reflect r = .ok s) (records entries) snapshots

theorem Reflects.length_eq (reflects : store.Reflects entries snapshots) :
    snapshots.length = entries.length := by
  simpa only [records, List.length_map] using (List.Forall₂.length_eq reflects).symm

/-- The entry whose record has the snapshot at a position. -/
def entryAt (size : snapshots.length = entries.length) (i : Fin snapshots.toArray.size) : κ × ρ :=
  entries.get (i.cast size)

theorem recordAt_eq_entryAt (size : snapshots.length = entries.length)
    (size' : (records entries).length = snapshots.length) (i : Fin snapshots.toArray.size) :
    Query.recordAt size' i = (entryAt size i).2 := by
  simp only [Query.recordAt, entryAt, records, List.get_eq_getElem, List.getElem_map]
  rfl

theorem reflect_entryAt
    (reflects : store.Reflects entries snapshots)
    (size : snapshots.length = entries.length) (i : Fin snapshots.toArray.size) :
    store.schema.reflect (entryAt size i).2 = .ok (Selection.snapshotAt i) := by
  rw [← recordAt_eq_entryAt size (List.Forall₂.length_eq reflects)]
  exact Query.reflect_recordAt reflects i

theorem mem_iff_entryAt (size : snapshots.length = entries.length) {entry : κ × ρ} :
    entry ∈ entries ↔ ∃ i, entryAt size i = entry := by
  rw [List.mem_iff_get]
  constructor
  · rintro ⟨i, rfl⟩
    exact ⟨i.cast size.symm, rfl⟩
  · rintro ⟨i, rfl⟩
    exact ⟨i.cast size, rfl⟩

theorem filterMap_records (size : snapshots.length = entries.length)
    (selection : Selection snapshots.toArray) :
    (selection.filterMap fun i => (records entries)[i.val]?) =
      selection.map fun i => (entryAt size i).2 := by
  have size' : (records entries).length = snapshots.length := by
    rw [records, List.length_map, size]
  simp only [Query.filterMap_eq_map_recordAt size', ← recordAt_eq_entryAt size size']

theorem compare_entryAt [Ord κ] (ascending : Assoc.Ascending entries)
    (size : snapshots.length = entries.length) {i j : Fin snapshots.toArray.size} (less : i < j) :
    compare (entryAt size i).1 (entryAt size j).1 = .lt :=
  List.pairwise_iff_get.mp ascending (i.cast size) (j.cast size) less

theorem entryAt_injective [Ord κ] [Std.TransOrd κ] (ascending : Assoc.Ascending entries)
    (size : snapshots.length = entries.length) :
    Function.Injective (entryAt size : Fin snapshots.toArray.size → κ × ρ) := by
  intro i j same
  by_contra differ
  have itself : compare (entryAt size j).1 (entryAt size j).1 = .eq := Std.ReflCmp.compare_self
  rcases lt_or_gt_of_ne differ with less | greater
  · have keys := compare_entryAt ascending size less
    rw [same, itself] at keys
    cases keys
  · have keys := compare_entryAt ascending size greater
    rw [same, itself] at keys
    cases keys

theorem satisfies_iff_passes {clauses : List Clause}
    (reflects : store.Reflects entries snapshots)
    (size : snapshots.length = entries.length) (i : Fin snapshots.toArray.size) :
    store.Satisfies clauses (entryAt size i).2 ↔ Selection.passes store.options.nullSemantics
      (Query.ofClauses clauses).conditions i = true := by
  have reads := reflect_entryAt reflects size i
  simp only [Selection.passes_iff, Query.mem_conditions, Satisfies]
  constructor
  · rintro ⟨s, reads', accepted⟩
    cases reads.symm.trans reads'
    exact accepted
  · exact fun accepted => ⟨_, reads, accepted⟩

theorem listing_of_sorted [Ord κ] [Std.TransOrd κ] {clauses : List Clause}
    (ascending : Assoc.Ascending entries)
    (reflects : store.Reflects entries snapshots)
    (size : snapshots.length = entries.length) {kept sorted : Selection snapshots.toArray}
    (filtered : kept = List.filter
      (Selection.passes store.options.nullSemantics (Query.ofClauses clauses).conditions)
      (Selection.all snapshots.toArray))
    (sorts : Selection.SortedFrom store.options.nulls (Query.ofClauses clauses).keys kept sorted) :
    Listing store entries clauses (sorted.map (entryAt size)) := by
  have kept_ascending : kept.Pairwise (· < ·) := by
    rw [filtered]
    exact (List.pairwise_lt_finRange _).filter _
  refine ⟨fun entry => ?_, ?_, ?_⟩
  · rw [List.mem_map, mem_iff_entryAt size]
    constructor
    · rintro ⟨i, mem, rfl⟩
      have passes := sorts.perm.mem_iff.mp mem
      rw [filtered, List.mem_filter] at passes
      exact ⟨⟨i, rfl⟩, (satisfies_iff_passes reflects size i).mpr passes.2⟩
    · rintro ⟨⟨i, rfl⟩, satisfied⟩
      refine ⟨i, sorts.perm.mem_iff.mpr ?_, rfl⟩
      rw [filtered, List.mem_filter]
      exact ⟨List.mem_finRange i, (satisfies_iff_passes reflects size i).mp satisfied⟩
  · have distinct : kept.Nodup := kept_ascending.imp ne_of_lt
    exact (sorts.perm.nodup_iff.mpr distinct).map (entryAt_injective ascending size)
  · rw [List.pairwise_map, List.pairwise_iff_forall_sublist]
    intro i j sub
    refine ⟨_, _, reflect_entryAt reflects size i, reflect_entryAt reflects size j, ?_⟩
    refine (List.pairwise_iff_forall_sublist.mp sorts.ordered sub).imp_right fun tied => ⟨tied, ?_⟩
    -- Ties stand as they were selected, that is by position, and the positions are in key order.
    have selected := sorts.sublist_of_tied sub tied
    have less := List.pairwise_iff_forall_sublist.mp kept_ascending selected
    exact compare_entryAt ascending size less

/-- The count runs the same filter. It sorts and cuts nothing. -/
theorem count_of_filter [Ord κ] {clauses : List Clause}
    (reflects : store.Reflects entries snapshots)
    (size : snapshots.length = entries.length) {kept : Selection snapshots.toArray}
    (filtered : (Selection.all snapshots.toArray).filter store.options.nullSemantics
      (Query.ofClauses clauses).conditions = .ok kept) :
    store.count entries clauses = .ok kept.length := by
  have selects : (Query.ofClauses clauses).onlyConditions.select store.options snapshots.toArray =
      .ok kept :=
    (Query.select_eq_ok rfl).mpr ⟨kept, kept, filtered, Selection.sort_nil _ kept, rfl⟩
  refine bind_eq_ok.mpr ⟨_, Query.run_eq_ok.mpr ⟨snapshots, reflects, kept, selects, rfl⟩, ?_⟩
  rw [filterMap_records size, List.length_map]
  rfl

end Reflected

/-- The answer to clauses without a grouping is a window of the one list of all stored records
that satisfy them, in the order of the sort keys and with ties in key order. The count is the
length of that list. -/
theorem obtainAll_window [Ord κ] [Std.TransOrd κ] {store : Store κ ρ} {entries : Entries κ ρ}
    {clauses : List Clause} {answer : List ρ} (reached : Reachable store entries)
    (ungrouped : ∀ target, .group target ∉ clauses)
    (success : store.obtainAll entries clauses = .ok answer) :
    ∃ listing, Listing store entries clauses listing ∧
      (∀ other, Listing store entries clauses other → other = listing) ∧
      answer = Query.window clauses (listing.map (·.2)) ∧
      store.count entries clauses = .ok listing.length := by
  obtain ⟨snapshots, reflects, selection, selects, rfl⟩ := Query.run_eq_ok.mp success
  obtain ⟨kept, sorted, filtered, sorts, rfl⟩ :=
    (Query.select_eq_ok (Query.groups_eq_nil ungrouped)).mp selects
  have size := Reflects.length_eq reflects
  have sortedFrom := Selection.sort_sortedFrom sorts
  have lists := listing_of_sorted reached.consistent.ascending reflects size
    (Selection.filter_eq_ok.mp filtered).2 sortedFrom
  refine ⟨_, lists, fun other lists' => lists.unique lists', ?_, ?_⟩
  · rw [filterMap_records size, ← Query.page_map, Query.page_eq_window, List.map_map]
    rfl
  · rw [count_of_filter reflects size filtered, List.length_map, sortedFrom.perm.length_eq]

/-- All items but the first by name. The second offset does not count. -/
def sampleClauses : List Clause :=
  [.sort ⟨⟨none, "name"⟩, .unspecified⟩, .offset 1, .offset 0, .limit 5,
    .condition ⟨⟨none, "id"⟩, .ge, some (.single (.int 2))⟩]

def sampleSnapshot (id : UInt64) (name : String) (price : Value) : Snapshot :=
  ⟨[("id", .scalar (.uint id)), ("name", .scalar (.string name)), ("price", price)], [], []⟩

def sampleSnapshots : List Snapshot :=
  [sampleSnapshot 2 "b" .null, sampleSnapshot 3 "a" (.scalar (.uint 5)), sampleSnapshot 7 "a" .null]

def sampleSelection (positions : List (Fin 3)) : Selection sampleSnapshots.toArray := positions

/-- The rank by name of the three items. -/
def sampleRank : Fin 3 → Nat
  | 0 => 1
  | _ => 0

theorem sample_order : ∀ i j : Fin sampleSnapshots.toArray.size,
    (Selection.order .first (Query.ofClauses sampleClauses).keys (Selection.snapshotAt i)
      (Selection.snapshotAt j)).isLE = decide (sampleRank i ≤ sampleRank j) := by
  decide +kernel

theorem sample_obtainAll : sampleStore.obtainAll sampleEntries sampleClauses =
    .ok [sampleItem 7 "a" none, sampleItem 2 "b" none] := by
  have sorts : Selection.sort .first (Query.ofClauses sampleClauses).keys
      (sampleSelection [0, 1, 2]) = .ok (sampleSelection [1, 2, 0]) := by
    have ranked : [1, 2, 0] =
        ([0, 1, 2] : List (Fin 3)).mergeSort fun i j => sampleRank i ≤ sampleRank j := by
      simp [sampleRank, List.mergeSort]
    exact Selection.sort_of_ranked (by rfl) sample_order ranked
  have selects : (Query.ofClauses sampleClauses).select {} sampleSnapshots.toArray =
      .ok (sampleSelection [2, 0]) :=
    (Query.select_eq_ok rfl).mpr ⟨sampleSelection [0, 1, 2], _, by rfl, sorts, by rfl⟩
  exact Query.run_eq_ok.mpr
    ⟨sampleSnapshots, .cons rfl (.cons rfl (.cons rfl .nil)), _, selects, by rfl⟩

/-- Two items of one name stay in key order, and the window leaves the first of them out. -/
theorem obtainAll_window_sample :
    sampleStore.obtainAll sampleEntries sampleClauses =
      .ok [sampleItem 7 "a" none, sampleItem 2 "b" none] ∧
    ∃ listing, Listing sampleStore sampleEntries sampleClauses listing ∧
      (∀ other, Listing sampleStore sampleEntries sampleClauses other → other = listing) ∧
      [sampleItem 7 "a" none, sampleItem 2 "b" none] =
        Query.window sampleClauses (listing.map (·.2)) ∧
      sampleStore.count sampleEntries sampleClauses = .ok listing.length :=
  ⟨sample_obtainAll, obtainAll_window sampleEntries_reachable (by simp [sampleClauses])
    sample_obtainAll⟩

end RecordQuery.Store
