import RecordQuery.Proofs.Attempt
import RecordQuery.Proofs.Grouping.LastOfGroup
import RecordQuery.Proofs.Sorting.SelectionOrder
import RecordQuery.Query

/-!
What a query selects. The filter keeps the positions whose snapshots satisfy every condition, the
grouping leaves some of them, the sort puts these in order, and the page cuts a window out of
them. Filter and sort either fail as a whole or do exactly this. No stage repeats a position.
-/

namespace RecordQuery

namespace Selection

variable {snapshots : Array Snapshot} {semantics : NullSemantics} {conditions : List Condition}

theorem satisfies_eq_true {s : Snapshot} : satisfies semantics s conditions = .ok true ↔
    ∀ c ∈ conditions, Matching.accepts semantics c s = .ok true := by
  induction conditions with
  | nil => simp [satisfies]
  | cons c rest ih =>
    rw [List.forall_mem_cons, satisfies]
    cases accepted : Matching.accepts semantics c s with
    | error e => simp
    | ok holds =>
      cases holds with
      | false => simp
      | true => simpa using ih

theorem satisfies_singleton {s : Snapshot} {c : Condition} :
    satisfies semantics s [c] = Matching.accepts semantics c s := by
  rw [satisfies]
  split
  next failed => exact failed.symm
  next fails => exact fails.symm
  next holds => exact holds.symm

/-- The snapshot at a position satisfies the conditions. A failed condition counts as not met. -/
def passes (semantics : NullSemantics) (conditions : List Condition) (i : Fin snapshots.size) :
    Bool :=
  match satisfies semantics (snapshotAt i) conditions with
  | .ok kept => kept
  | .error _ => false

theorem passes_iff {i : Fin snapshots.size} : passes semantics conditions i = true ↔
    ∀ c ∈ conditions, Matching.accepts semantics c (snapshotAt i) = .ok true := by
  rw [← satisfies_eq_true, passes]
  cases satisfies semantics (snapshotAt i) conditions with
  | error e => simp
  | ok kept => simp

/-- The filter keeps what passes, unless a condition fails on some selected snapshot. -/
theorem filter_eq_ok {selection kept : Selection snapshots} :
    filter semantics conditions selection = .ok kept ↔
      (∀ i ∈ selection, ∃ decision, satisfies semantics (snapshotAt i) conditions = .ok decision) ∧
      kept = List.filter (passes semantics conditions) selection := by
  induction selection generalizing kept with
  | nil => simp [filter, eq_comm]
  | cons i rest ih =>
    rw [List.forall_mem_cons, filter, List.filter_cons, passes]
    cases decided : satisfies semantics (snapshotAt i) conditions with
    | error e => simp
    | ok decision =>
      cases others : filter semantics conditions rest with
      | error e =>
        refine ⟨nofun, fun keeps => ?_⟩
        have succeeds := ih.mpr ⟨keeps.1.2, rfl⟩
        rw [others] at succeeds
        cases succeeds
      | ok kept_rest =>
        obtain ⟨all_decided, same⟩ := ih.mp others
        subst same
        simp only [Except.ok.injEq, exists_eq', true_and, eq_comm (a := kept)]
        exact ⟨fun same => ⟨all_decided, same⟩, fun same => same.2⟩

/-- Without sort keys nothing moves. -/
theorem sort_nil (nulls : NullPlacement) (selection : Selection snapshots) :
    sort nulls [] selection = .ok selection := by
  have none_found : problems [] selection = [] := by
    rw [problems, List.flatMap_eq_nil_iff]
    intro i _
    split <;> rfl
  refine sort_eq_ok.mpr ⟨none_found, (List.mergeSort_of_pairwise ?_).symm⟩
  exact List.pairwise_of_forall fun _ _ => rfl

/-- An empty selection can be sorted by any column. -/
theorem sort_empty (nulls : NullPlacement) (keys : List SortKey) :
    sort nulls keys ([] : Selection snapshots) = .ok [] := by
  have none_found : problems keys ([] : Selection snapshots) = [] := by
    rw [problems, List.flatMap_eq_nil_iff]
    exact fun _ _ => rfl
  exact sort_eq_ok.mpr ⟨none_found, List.mergeSort_nil.symm⟩

theorem group_empty (targets : List Reference) : group targets ([] : Selection snapshots) = [] := by
  rw [group]
  split <;> rfl

end Selection

namespace Query

/-- The first offset among the clauses, 0 without one. -/
def firstOffset : List Clause → Nat
  | [] => 0
  | .offset n :: _ => n
  | _ :: rest => firstOffset rest

/-- The first limit among the clauses. -/
def firstLimit : List Clause → Option Nat
  | [] => none
  | .limit n :: _ => some n
  | _ :: rest => firstLimit rest

/-- The part of a list from the first offset on, no longer than the first limit. -/
def window {α : Type} (clauses : List Clause) (whole : List α) : List α :=
  match firstLimit clauses with
  | none => whole.drop (firstOffset clauses)
  | some n => (whole.drop (firstOffset clauses)).take n

theorem ofClauses_offset (clauses : List Clause) :
    (ofClauses clauses).offset = firstOffset clauses := by
  simp only [ofClauses]
  induction clauses with
  | nil => rfl
  | cons clause rest ih =>
    cases clause with
    | offset n => rfl
    | condition _ | sort _ | group _ | limit _ | relations _ | select _ => exact ih

theorem ofClauses_limit (clauses : List Clause) :
    (ofClauses clauses).limit = firstLimit clauses := by
  simp only [ofClauses]
  induction clauses with
  | nil => rfl
  | cons clause rest ih =>
    cases clause with
    | limit n => rfl
    | condition _ | sort _ | group _ | offset _ | relations _ | select _ => exact ih

theorem page_eq_window {α : Type} (clauses : List Clause) (whole : List α) :
    (ofClauses clauses).page whole = window clauses whole := by
  cases limit : firstLimit clauses <;>
    simp only [page, window, ofClauses_offset, ofClauses_limit, limit]

theorem mem_conditions {clauses : List Clause} {c : Condition} :
    c ∈ (ofClauses clauses).conditions ↔ .condition c ∈ clauses := by
  simp only [ofClauses, List.mem_filterMap]
  constructor
  · rintro ⟨clause, mem, same⟩
    cases clause with
    | condition c' =>
      cases same
      exact mem
    | sort _ | group _ | limit _ | offset _ | relations _ | select _ => cases same
  · exact fun mem => ⟨.condition c, mem, rfl⟩

theorem groups_eq_nil {clauses : List Clause} (ungrouped : ∀ target, .group target ∉ clauses) :
    (ofClauses clauses).groups = [] := by
  simp only [ofClauses, List.filterMap_eq_nil_iff]
  intro clause mem
  cases clause with
  | group target => exact absurd mem (ungrouped target)
  | condition _ | sort _ | limit _ | offset _ | relations _ | select _ => rfl

theorem unpaged_ofClauses {clauses : List Clause} (no_offset : ∀ n, .offset n ∉ clauses)
    (no_limit : ∀ n, .limit n ∉ clauses) : (ofClauses clauses).unpaged = ofClauses clauses := by
  have offset : clauses.findSome? offset? = none := by
    rw [List.findSome?_eq_none_iff]
    intro clause mem
    cases clause with
    | offset n => exact absurd mem (no_offset n)
    | condition _ | sort _ | group _ | limit _ | relations _ | select _ => rfl
  have limit : clauses.findSome? limit? = none := by
    rw [List.findSome?_eq_none_iff]
    intro clause mem
    cases clause with
    | limit n => exact absurd mem (no_limit n)
    | condition _ | sort _ | group _ | offset _ | relations _ | select _ => rfl
  simp only [unpaged, ofClauses, offset, limit, Option.getD_none]

variable {ρ : Type} {schema : Schema ρ} {options : EvaluationOptions}

theorem page_map {α β : Type} (q : Query) (f : α → β) (answer : List α) :
    q.page (answer.map f) = (q.page answer).map f := by
  cases limit : q.limit <;> simp [page, limit]

theorem page_sublist {α : Type} (q : Query) (answer : List α) :
    (q.page answer).Sublist answer := by
  have dropped := List.drop_sublist q.offset answer
  cases limit : q.limit with
  | none => simpa only [page, limit] using dropped
  | some n => simpa only [page, limit] using (List.take_sublist n _).trans dropped

theorem select_eq_ok_grouped {q : Query} {snapshots : Array Snapshot}
    {selection : Selection snapshots} : q.select options snapshots = .ok selection ↔
      ∃ kept sorted,
        (Selection.all snapshots).filter options.nullSemantics q.conditions = .ok kept ∧
        Selection.sort options.nulls q.keys (Selection.group q.groups kept) = .ok sorted ∧
        selection = q.page sorted := by
  simp only [select, bind_eq_ok, pure, Except.pure, Except.ok.injEq, eq_comm (a := selection)]
  constructor
  · rintro ⟨kept, filtered, sorted, sorts, same⟩
    exact ⟨kept, sorted, filtered, sorts, same⟩
  · rintro ⟨kept, sorted, filtered, sorts, same⟩
    exact ⟨kept, filtered, sorted, sorts, same⟩

/-- A query selects no position twice. -/
theorem select_nodup {q : Query} {snapshots : Array Snapshot} {selection : Selection snapshots}
    (selects : q.select options snapshots = .ok selection) : selection.Nodup := by
  obtain ⟨kept, sorted, filtered, sorts, rfl⟩ := select_eq_ok_grouped.mp selects
  have distinct : kept.Nodup := by
    rw [(Selection.filter_eq_ok.mp filtered).2]
    exact (List.nodup_finRange _).filter _
  have sortedFrom := Selection.sort_sortedFrom sorts
  have sorted_distinct := sortedFrom.perm.nodup_iff.mpr (Selection.group_nodup q.groups distinct)
  exact sorted_distinct.sublist (page_sublist q sorted)

/-- Without groups the filter's selection is sorted as it is. -/
theorem select_eq_ok {q : Query} (ungrouped : q.groups = []) {snapshots : Array Snapshot}
    {selection : Selection snapshots} : q.select options snapshots = .ok selection ↔
      ∃ kept sorted,
        (Selection.all snapshots).filter options.nullSemantics q.conditions = .ok kept ∧
        Selection.sort options.nulls q.keys kept = .ok sorted ∧ selection = q.page sorted := by
  have group_id (kept : Selection snapshots) : Selection.group q.groups kept = kept := by
    rw [ungrouped]
    rfl
  simp only [select_eq_ok_grouped, group_id]

/-- A query over records selects among their snapshots, and answers with the records at the
selected positions. -/
theorem run_eq_ok {q : Query} {records answer : List ρ} :
    q.run schema options records = .ok answer ↔
      ∃ snapshots, List.Forall₂ (fun r s => schema.reflect r = .ok s) records snapshots ∧
        ∃ selection, q.select options snapshots.toArray = .ok selection ∧
          answer = selection.filterMap fun i => records[i.val]? := by
  simp only [run, positions, bind_eq_ok, mapM_eq_ok, pure, Except.pure, Except.ok.injEq]
  constructor
  · rintro ⟨_, ⟨snapshots, reflected, selection, selects, rfl⟩, rfl⟩
    exact ⟨snapshots, reflected, selection, selects, List.filterMap_map⟩
  · rintro ⟨snapshots, reflected, selection, selects, rfl⟩
    exact ⟨_, ⟨snapshots, reflected, selection, selects, rfl⟩, List.filterMap_map⟩

section Records

variable {records : List ρ} {snapshots : List Snapshot}

/-- The record whose snapshot is at a position. -/
def recordAt (size : records.length = snapshots.length) (i : Fin snapshots.toArray.size) : ρ :=
  records.get (i.cast size.symm)

theorem filterMap_eq_map_recordAt (size : records.length = snapshots.length)
    (selection : Selection snapshots.toArray) :
    (selection.filterMap fun i => records[i.val]?) = selection.map (recordAt size) := by
  have at_position (i : Fin snapshots.toArray.size) :
      records[i.val]? = some (recordAt size i) :=
    List.getElem?_eq_getElem (i.isLt.trans_eq size.symm)
  simp only [at_position, List.filterMap_eq_map']

theorem map_recordAt_all (size : records.length = snapshots.length) :
    (Selection.all snapshots.toArray).map (recordAt size) = records := by
  refine List.ext_getElem ?_ fun i _ _ => ?_
  · simp [Selection.all, size]
  · simp [Selection.all, recordAt]

theorem reflect_recordAt
    (reflects : List.Forall₂ (fun r s => schema.reflect r = .ok s) records snapshots)
    (i : Fin snapshots.toArray.size) :
    schema.reflect (recordAt reflects.length_eq i) = .ok (Selection.snapshotAt i) :=
  (List.forall₂_iff_get.mp reflects).2 i.val (i.isLt.trans_eq reflects.length_eq.symm) i.isLt

/-- The conditions come to a decision on the record. -/
def Decides (schema : Schema ρ) (semantics : NullSemantics) (conditions : List Condition) (r : ρ)
    (decision : Bool) : Prop :=
  ∃ s, schema.reflect r = .ok s ∧ Selection.satisfies semantics s conditions = .ok decision

/-- If the conditions come to a decision on every record, the filter keeps the positions of the
records that they accept. -/
theorem exists_filter_eq_ok {conditions : List Condition} (keep : ρ → Bool)
    (decided : ∀ r ∈ records, Decides schema options.nullSemantics conditions r (keep r)) :
    ∃ snapshots, ∃ reflects : List.Forall₂ (fun r s => schema.reflect r = .ok s) records snapshots,
      (Selection.all snapshots.toArray).filter options.nullSemantics conditions =
        .ok (List.filter (keep ∘ recordAt reflects.length_eq)
          (Selection.all snapshots.toArray)) := by
  obtain ⟨snapshots, reflected⟩ := exists_mapM_eq_ok fun r mem =>
    (decided r mem).imp fun _ decides => decides.1
  have reflects := mapM_eq_ok.mp reflected
  have decision (i : Fin snapshots.toArray.size) :
      Selection.satisfies options.nullSemantics (Selection.snapshotAt i) conditions =
        .ok (keep (recordAt reflects.length_eq i)) := by
    obtain ⟨s, reads, decides⟩ := decided (recordAt reflects.length_eq i) (List.get_mem _ _)
    cases reads.symm.trans (reflect_recordAt reflects i)
    exact decides
  have passes : Selection.passes options.nullSemantics conditions =
      keep ∘ recordAt reflects.length_eq := by
    funext i
    simp only [Selection.passes, decision, Function.comp]
  refine ⟨snapshots, reflects, Selection.filter_eq_ok.mpr ⟨fun i _ => ⟨_, decision i⟩, ?_⟩⟩
  rw [passes]

/-- A query that only has conditions keeps the records that satisfy them, in their order. -/
theorem run_conditions {conditions : List Condition} {keep : ρ → Bool}
    (decided : ∀ r ∈ records, Decides schema options.nullSemantics conditions r (keep r)) :
    run { conditions := conditions } schema options records = .ok (records.filter keep) := by
  obtain ⟨snapshots, reflects, filtered⟩ := exists_filter_eq_ok keep decided
  refine run_eq_ok.mpr ⟨snapshots, reflects, _,
    (select_eq_ok rfl).mpr ⟨_, _, filtered, Selection.sort_nil _ _, rfl⟩, ?_⟩
  rw [filterMap_eq_map_recordAt reflects.length_eq]
  change _ = List.map _ (List.filter _ _)
  rw [← List.filter_map, map_recordAt_all reflects.length_eq]

/-- A query that refuses every record answers with none. Nothing is left that could not be
sorted. -/
theorem run_eq_nil {q : Query}
    (refused : ∀ r ∈ records, Decides schema options.nullSemantics q.conditions r false) :
    q.run schema options records = .ok [] := by
  obtain ⟨snapshots, reflects, filtered⟩ := exists_filter_eq_ok (fun _ => false) refused
  have none_kept : List.filter ((fun _ => false) ∘ recordAt reflects.length_eq)
      (Selection.all snapshots.toArray) = [] :=
    List.filter_eq_nil_iff.mpr fun _ _ => Bool.false_ne_true
  rw [none_kept] at filtered
  refine run_eq_ok.mpr ⟨snapshots, reflects, [], ?_, rfl⟩
  refine select_eq_ok_grouped.mpr ⟨[], [], filtered, ?_, ?_⟩
  · rw [Selection.group_empty]
    exact Selection.sort_empty _ _
  · exact (List.sublist_nil.mp (page_sublist q [])).symm

theorem mem_iff_recordAt (size : records.length = snapshots.length) {r : ρ} :
    r ∈ records ↔ ∃ i, recordAt size i = r := by
  rw [List.mem_iff_get]
  constructor
  · rintro ⟨i, rfl⟩
    exact ⟨i.cast size, rfl⟩
  · rintro ⟨i, rfl⟩
    exact ⟨i.cast size.symm, rfl⟩

/-- A query that succeeds has come to a decision on every record. -/
theorem exists_decides {q : Query} {answer : List ρ}
    (success : q.run schema options records = .ok answer) :
    ∀ r ∈ records, ∃ decision,
      Decides schema options.nullSemantics q.conditions r decision := by
  obtain ⟨snapshots, reflects, selection, selects, -⟩ := run_eq_ok.mp success
  obtain ⟨kept, sorted, filtered, -, -⟩ := select_eq_ok_grouped.mp selects
  intro r mem
  obtain ⟨i, rfl⟩ := (mem_iff_recordAt reflects.length_eq).mp mem
  obtain ⟨decision, decided⟩ := (Selection.filter_eq_ok.mp filtered).1 i (List.mem_finRange i)
  exact ⟨decision, _, reflect_recordAt reflects i, decided⟩

/-- Without groups and a page every record that satisfies the conditions is in the answer. -/
theorem mem_of_decides {q : Query} {answer : List ρ} (ungrouped : q.groups = [])
    (unpaged : q.unpaged = q) (success : q.run schema options records = .ok answer) {r : ρ}
    (mem : r ∈ records) (satisfied : Decides schema options.nullSemantics q.conditions r true) :
    r ∈ answer := by
  obtain ⟨snapshots, reflects, selection, selects, rfl⟩ := run_eq_ok.mp success
  obtain ⟨kept, sorted, filtered, sorts, rfl⟩ := (select_eq_ok ungrouped).mp selects
  obtain ⟨i, rfl⟩ := (mem_iff_recordAt reflects.length_eq).mp mem
  obtain ⟨s, reads, decided⟩ := satisfied
  cases reads.symm.trans (reflect_recordAt reflects i)
  have passes : Selection.passes options.nullSemantics q.conditions i = true := by
    simp only [Selection.passes, decided]
  have keeps : i ∈ kept := by
    rw [(Selection.filter_eq_ok.mp filtered).2]
    exact List.mem_filter.mpr ⟨List.mem_finRange i, passes⟩
  have whole : q.page sorted = sorted := by
    rw [← unpaged]
    exact List.drop_zero
  rw [whole, filterMap_eq_map_recordAt reflects.length_eq]
  exact List.mem_map_of_mem ((Selection.sort_sortedFrom sorts).perm.mem_iff.mpr keeps)

end Records

end Query

end RecordQuery
