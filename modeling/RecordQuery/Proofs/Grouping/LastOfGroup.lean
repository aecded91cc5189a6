import Mathlib.Data.List.Forall2
import Mathlib.Data.List.Sort
import RecordQuery.Selection

/-!
Grouping a selection. A position joins one group for every grouped column that its snapshot has.
Groups count in the order in which they are first seen, by position in the selection and at one
position by column. The answer has the last position of every group, and a position that is the
last one of several groups stands where the first of them does.
-/

namespace RecordQuery.Selection

variable {snapshots : Array Snapshot} {targets : List Reference} {selection : Selection snapshots}

/-- The snapshot at the position has the column of the group, and its value has the group's key. -/
def Joins (targets : List Reference) (i : Fin snapshots.size) (g : Group) : Prop :=
  ∃ target value, targets[g.1]? = some target ∧
    (snapshotAt i).get? target.table target.column = some value ∧ value.groupKey = g.2

def Observed (targets : List Reference) (selection : Selection snapshots) (g : Group) : Prop :=
  ∃ i ∈ selection, Joins targets i g

/-- A position joins the first group before any position joins the second one. If the same
position joins both, the column of the first group is the earlier one. -/
def SeenBefore (targets : List Reference) (selection : Selection snapshots) (g h : Group) : Prop :=
  ∃ before i after, selection = before ++ i :: after ∧ Joins targets i g ∧
    (∀ j ∈ before, ¬ Joins targets j h) ∧ (Joins targets i h → g.1 < h.1)

/-- No position after this one joins the group. -/
def LastOf (targets : List Reference) (selection : Selection snapshots) (g : Group)
    (i : Fin snapshots.size) : Prop :=
  ∃ before after, selection = before ++ i :: after ∧ Joins targets i g ∧
    ∀ j ∈ after, ¬ Joins targets j g

/-- The observed groups in the order in which they are first seen. -/
structure GroupListing (targets : List Reference) (selection : Selection snapshots)
    (groups : List Group) : Prop where
  mem_iff : ∀ g, g ∈ groups ↔ Observed targets selection g
  ordered : groups.Pairwise (SeenBefore targets selection)

/-- Of two places in a list one comes first, unless they are the same. -/
theorem eq_or_mem_of_split {α : Type} {before before' after after' : List α} {x y : α}
    (same : before ++ x :: after = before' ++ y :: after') :
    (before = before' ∧ x = y ∧ after = after') ∨ (x ∈ before' ∧ y ∈ after) ∨
      (y ∈ before ∧ x ∈ after') := by
  rcases List.append_eq_append_iff.mp same with ⟨between, front, back⟩ | ⟨between, front, back⟩
  · cases between with
    | nil =>
      obtain ⟨here, rest⟩ := List.cons.inj back
      exact Or.inl ⟨by simpa using front.symm, here, rest⟩
    | cons z zs =>
      obtain ⟨rfl, rest⟩ := List.cons.inj back
      exact Or.inr (Or.inl ⟨by simp [front], by simp [rest]⟩)
  · cases between with
    | nil =>
      obtain ⟨here, rest⟩ := List.cons.inj back
      exact Or.inl ⟨by simpa using front, here.symm, rest.symm⟩
    | cons z zs =>
      obtain ⟨rfl, rest⟩ := List.cons.inj back
      exact Or.inr (Or.inr ⟨by simp [front], by simp [rest]⟩)

theorem SeenBefore.asymm {g h : Group} (forth : SeenBefore targets selection g h) :
    ¬ SeenBefore targets selection h g := by
  rintro ⟨before', j, after', split', joins', unseen', less'⟩
  obtain ⟨before, i, after, split, joins, unseen, less⟩ := forth
  rcases eq_or_mem_of_split (split.symm.trans split') with ⟨-, rfl, -⟩ | ⟨earlier, -⟩ | ⟨earlier, -⟩
  · have := less joins'
    have := less' joins
    omega
  · exact unseen' i earlier joins
  · exact unseen j earlier joins'

theorem LastOf.joins {g : Group} {i : Fin snapshots.size}
    (last : LastOf targets selection g i) : Joins targets i g := by
  obtain ⟨before, after, split, joins, none_after⟩ := last
  exact joins

theorem LastOf.unique {g : Group} {i j : Fin snapshots.size}
    (last : LastOf targets selection g i) (last' : LastOf targets selection g j) : i = j := by
  obtain ⟨before, after, split, joins, none_after⟩ := last
  obtain ⟨before', after', split', joins', none_after'⟩ := last'
  rcases eq_or_mem_of_split (split.symm.trans split') with ⟨-, rfl, -⟩ | ⟨-, later⟩ | ⟨-, later⟩
  · rfl
  · exact absurd joins' (none_after j later)
  · exact absurd joins (none_after' i later)

theorem GroupListing.nodup {groups : List Group}
    (lists : GroupListing targets selection groups) : groups.Nodup := by
  refine lists.ordered.imp ?_
  rintro g _ before rfl
  exact before.asymm before

theorem GroupListing.unique {groups other : List Group}
    (lists : GroupListing targets selection groups)
    (lists' : GroupListing targets selection other) : other = groups := by
  have perm : other.Perm groups := by
    rw [List.perm_ext_iff_of_nodup lists'.nodup lists.nodup]
    exact fun g => (lists'.mem_iff g).trans (lists.mem_iff g).symm
  refine perm.eq_of_pairwise ?_ lists'.ordered lists.ordered
  exact fun g h _ _ forth back => absurd back forth.asymm

/-! The groups of one position. -/

theorem mem_groupsOf {i : Fin snapshots.size} {g : Group} :
    g ∈ groupsOf targets (snapshotAt i) ↔ Joins targets i g := by
  obtain ⟨place, key⟩ := g
  simp only [groupsOf, List.mem_filterMap, Option.map_eq_some_iff, Prod.mk.injEq, Prod.exists,
    List.mem_zipIdx_iff_getElem?, Joins]
  constructor
  · rintro ⟨target, place', at_place, value, found, rfl, same⟩
    exact ⟨target, value, at_place, found, same⟩
  · rintro ⟨target, value, at_place, found, same⟩
    exact ⟨target, place, at_place, value, found, rfl, same⟩

theorem groupsOf_ascending (targets : List Reference) (s : Snapshot) :
    (groupsOf targets s).Pairwise fun g h => g.1 < h.1 := by
  rw [groupsOf, List.pairwise_filterMap]
  refine (places_ascending targets).imp fun less g joins h joins' => ?_
  obtain ⟨_, -, rfl⟩ := Option.map_eq_some_iff.mp joins
  obtain ⟨_, -, rfl⟩ := Option.map_eq_some_iff.mp joins'
  exact less

/-! The groups of all positions, as they come. -/

/-- Every joining of a group by a position. -/
def sightings (targets : List Reference) (selection : Selection snapshots) :
    List (Group × Fin snapshots.size) :=
  selection.flatMap fun i => (groupsOf targets (snapshotAt i)).map fun g => (g, i)

theorem mem_sightings {g : Group} {i : Fin snapshots.size} :
    (g, i) ∈ sightings targets selection ↔ i ∈ selection ∧ Joins targets i g := by
  simp only [sightings, List.mem_flatMap, List.mem_map, Prod.mk.injEq, ← mem_groupsOf]
  constructor
  · rintro ⟨i, mem, g, joins, rfl, rfl⟩
    exact ⟨mem, joins⟩
  · rintro ⟨mem, joins⟩
    exact ⟨i, mem, g, joins, rfl, rfl⟩

theorem lastOfGroups_eq_foldl : lastOfGroups targets selection =
    (sightings targets selection).foldl (fun groups seen => enter seen.2 seen.1 groups) [] := by
  simp only [lastOfGroups, sightings, List.foldl_flatMap, List.foldl_map]

/-- A sighting splits the selection at its position, and the groups of the position at its
group. -/
theorem split_of_sighting {before after : List (Group × Fin snapshots.size)} {g : Group}
    {i : Fin snapshots.size} (split : sightings targets selection = before ++ (g, i) :: after) :
    ∃ front back earlier later, selection = front ++ i :: back ∧
      groupsOf targets (snapshotAt i) = earlier ++ g :: later ∧
      before = sightings targets front ++ earlier.map (fun h => (h, i)) ∧
      after = later.map (fun h => (h, i)) ++ sightings targets back := by
  induction selection generalizing before with
  | nil => simp [sightings] at split
  | cons j rest ih =>
    have head (rest : Selection snapshots) : sightings targets (j :: rest) =
      (groupsOf targets (snapshotAt j)).map (fun h => (h, j)) ++ sightings targets rest := rfl
    rw [head] at split
    rcases List.append_eq_append_iff.mp split with
      ⟨between, front, back⟩ | ⟨between, front, back⟩
    · obtain ⟨front', back', earlier, later, rfl, groups, rfl, behind⟩ := ih back
      refine ⟨j :: front', back', earlier, later, rfl, groups, ?_, behind⟩
      rw [front, head, List.append_assoc]
    · cases between with
      | nil =>
        obtain ⟨front', back', earlier, later, rfl, groups, same, behind⟩ := @ih [] back.symm
        refine ⟨j :: front', back', earlier, later, rfl, groups, ?_, behind⟩
        rw [head, List.append_assoc, ← same, front, List.append_nil, List.append_nil]
      | cons seen later =>
        obtain ⟨rfl, behind⟩ := List.cons.inj back
        obtain ⟨earlier, gs, groups, rfl, same⟩ := List.map_eq_append_iff.mp front
        obtain ⟨g', later', rfl, here, rest⟩ := List.map_eq_cons_iff.mp same
        obtain ⟨rfl, rfl⟩ := Prod.mk.inj here
        refine ⟨[], _, earlier, later', rfl, groups, rfl, ?_⟩
        rw [rest]
        exact behind

/-- No later sighting is one of the same group. -/
def LastSighting (seen : List (Group × Fin snapshots.size)) (g : Group)
    (i : Fin snapshots.size) : Prop :=
  ∃ before after, seen = before ++ (g, i) :: after ∧ ∀ s ∈ after, s.1 ≠ g

/-- A sighting of the first group comes before all sightings of the second one. -/
def SightedBefore (seen : List (Group × Fin snapshots.size)) (g h : Group) : Prop :=
  g ≠ h ∧ ∃ before i after, seen = before ++ (g, i) :: after ∧ ∀ s ∈ before, s.1 ≠ h

theorem LastSighting.lastOf {g : Group} {i : Fin snapshots.size}
    (last : LastSighting (sightings targets selection) g i) : LastOf targets selection g i := by
  obtain ⟨before, after, split, none_after⟩ := last
  obtain ⟨front, back, earlier, later, rfl, groups, -, rfl⟩ := split_of_sighting split
  have joins : Joins targets i g := by
    rw [← mem_groupsOf, groups]
    simp
  refine ⟨front, back, rfl, joins, fun j mem joins' => ?_⟩
  exact none_after (g, j) (List.mem_append_right _ (mem_sightings.mpr ⟨mem, joins'⟩)) rfl

theorem SightedBefore.seenBefore {g h : Group}
    (sighted : SightedBefore (sightings targets selection) g h) :
    SeenBefore targets selection g h := by
  obtain ⟨differ, before, i, after, split, none_before⟩ := sighted
  obtain ⟨front, back, earlier, later, rfl, groups, rfl, -⟩ := split_of_sighting split
  have joins : Joins targets i g := by
    rw [← mem_groupsOf, groups]
    simp
  refine ⟨front, i, back, rfl, joins, fun j mem joins' => ?_, fun joins' => ?_⟩
  · exact none_before (h, j) (List.mem_append_left _ (mem_sightings.mpr ⟨mem, joins'⟩)) rfl
  · have ascending := groupsOf_ascending targets (snapshotAt i)
    rw [← mem_groupsOf, groups, List.mem_append, List.mem_cons] at joins'
    rw [groups, List.pairwise_append, List.pairwise_cons] at ascending
    rcases joins' with seen | rfl | later
    · exact absurd rfl (none_before (h, i) (List.mem_append_right _ (List.mem_map_of_mem seen)))
    · exact absurd rfl differ
    · exact ascending.2.1.1 h later

/-! The loop over all sightings. -/

/-- What the loop has made of the sightings so far: an entry for every group with its last
sighting, and the entries in the order of the first sightings. -/
structure Recorded (seen entries : List (Group × Fin snapshots.size)) : Prop where
  known : ∀ s ∈ seen, s.1 ∈ entries.map (·.1)
  mem_iff : ∀ g i, (g, i) ∈ entries ↔ LastSighting seen g i
  ordered : (entries.map (·.1)).Pairwise (SightedBefore seen)

theorem map_fst_enter (i : Fin snapshots.size) (g : Group)
    (entries : List (Group × Fin snapshots.size)) :
    (enter i g entries).map (·.1) =
      if g ∈ entries.map (·.1) then entries.map (·.1) else entries.map (·.1) ++ [g] := by
  induction entries with
  | nil => rfl
  | cons entry rest ih =>
    by_cases same : entry.1 = g
    · simp [enter, same]
    · simp only [enter, if_neg same, List.map_cons, ih, List.mem_cons, Ne.symm same, false_or]
      split <;> rfl

theorem mem_enter {i j : Fin snapshots.size} {g h : Group}
    {entries : List (Group × Fin snapshots.size)} (distinct : (entries.map (·.1)).Nodup) :
    (h, j) ∈ enter i g entries ↔ (h = g ∧ j = i) ∨ (h ≠ g ∧ (h, j) ∈ entries) := by
  induction entries with
  | nil => simp [enter]
  | cons entry rest ih =>
    rw [List.map_cons, List.nodup_cons] at distinct
    by_cases same : entry.1 = g
    · have others : (h, j) ∈ rest → h ≠ g := by
        rintro mem rfl
        exact distinct.1 (same ▸ List.mem_map_of_mem mem)
      have notHead : h ≠ g → (h, j) ≠ entry := by
        rintro differ rfl
        exact differ same
      rw [enter, if_pos same, List.mem_cons, Prod.mk.injEq, List.mem_cons]
      constructor
      · exact Or.imp_right fun mem => ⟨others mem, Or.inr mem⟩
      · exact Or.imp_right fun ⟨differ, mem⟩ => mem.resolve_left (notHead differ)
    · have head : (h, j) = entry → h ≠ g := by
        rintro rfl
        exact same
      rw [enter, if_neg same, List.mem_cons, ih distinct.2, List.mem_cons]
      constructor
      · rintro (here | here | ⟨differ, mem⟩)
        · exact Or.inr ⟨head here, Or.inl here⟩
        · exact Or.inl here
        · exact Or.inr ⟨differ, Or.inr mem⟩
      · rintro (here | ⟨differ, here | mem⟩)
        · exact Or.inr (Or.inl here)
        · exact Or.inl here
        · exact Or.inr (Or.inr ⟨differ, mem⟩)

theorem lastSighting_concat {seen : List (Group × Fin snapshots.size)} {g h : Group}
    {i j : Fin snapshots.size} : LastSighting (seen ++ [(g, i)]) h j ↔
      (h = g ∧ j = i) ∨ (h ≠ g ∧ LastSighting seen h j) := by
  constructor
  · rintro ⟨before, after, split, none_after⟩
    rcases List.eq_nil_or_concat after with rfl | ⟨after, s, rfl⟩
    · obtain ⟨-, here⟩ := List.append_inj' split rfl
      obtain ⟨rfl, rfl⟩ := Prod.mk.inj (List.cons.inj here).1
      exact Or.inl ⟨rfl, rfl⟩
    · rw [List.concat_eq_append, ← List.cons_append, ← List.append_assoc] at split
      obtain ⟨rfl, here⟩ := List.append_inj' split rfl
      obtain rfl := (List.cons.inj here).1
      refine Or.inr ⟨fun same => none_after (g, i) (by simp) same.symm, before, after, rfl, ?_⟩
      exact fun s mem => none_after s (by simp [mem])
  · rintro (⟨rfl, rfl⟩ | ⟨differ, before, after, rfl, none_after⟩)
    · exact ⟨seen, [], rfl, nofun⟩
    · refine ⟨before, after ++ [(g, i)], by simp, fun s mem => ?_⟩
      rcases List.mem_append.mp mem with mem | mem
      · exact none_after s mem
      · rw [List.mem_singleton.mp mem]
        exact Ne.symm differ

theorem SightedBefore.append {seen : List (Group × Fin snapshots.size)} {g h : Group}
    (sighted : SightedBefore seen g h) (more : List (Group × Fin snapshots.size)) :
    SightedBefore (seen ++ more) g h := by
  obtain ⟨differ, before, i, after, rfl, none_before⟩ := sighted
  exact ⟨differ, before, i, after ++ more, by simp, none_before⟩

theorem Recorded.enter {seen entries : List (Group × Fin snapshots.size)}
    (records : Recorded seen entries) (g : Group) (i : Fin snapshots.size) :
    Recorded (seen ++ [(g, i)]) (enter i g entries) := by
  have distinct : (entries.map (·.1)).Nodup := records.ordered.imp fun sighted => sighted.1
  have extended := records.ordered.imp fun sighted => sighted.append [(g, i)]
  refine ⟨fun s mem => ?_, fun h j => ?_, ?_⟩
  · rw [map_fst_enter]
    rcases List.mem_append.mp mem with mem | mem
    · have := records.known s mem
      split
      · exact this
      · exact List.mem_append_left _ this
    · rw [List.mem_singleton.mp mem]
      split
      · assumption
      · simp
  · rw [mem_enter distinct, lastSighting_concat, records.mem_iff]
  · rw [map_fst_enter]
    split
    · exact extended
    next new =>
      -- A new group comes after all others, none of whose sightings is one of it.
      refine List.pairwise_append.mpr ⟨extended, List.pairwise_singleton _ _, ?_⟩
      intro h known g' mem
      obtain rfl := List.mem_singleton.mp mem
      obtain ⟨⟨h, j⟩, mem, rfl⟩ := List.mem_map.mp known
      obtain ⟨before, after, split, -⟩ := (records.mem_iff h j).mp mem
      refine ⟨?_, before, j, after ++ [(g', i)], by simp [split], fun s earlier same => ?_⟩
      · rintro rfl
        exact new known
      · refine new (same ▸ records.known s ?_)
        rw [split]
        exact List.mem_append_left _ earlier

theorem Recorded.foldl {seen entries : List (Group × Fin snapshots.size)}
    (records : Recorded seen entries) (more : List (Group × Fin snapshots.size)) :
    Recorded (seen ++ more)
      (more.foldl (fun groups s => Selection.enter s.2 s.1 groups) entries) := by
  induction more generalizing seen entries with
  | nil => simpa using records
  | cons s rest ih => simpa using ih (records.enter s.1 s.2)

theorem recorded_lastOfGroups (targets : List Reference) (selection : Selection snapshots) :
    Recorded (sightings targets selection) (lastOfGroups targets selection) := by
  have nothing : Recorded ([] : List (Group × Fin snapshots.size)) [] :=
    ⟨nofun, fun g i => ⟨nofun, fun ⟨_, _, split, _⟩ => by simp at split⟩, List.Pairwise.nil⟩
  rw [lastOfGroups_eq_foldl]
  exact nothing.foldl _

/-! The grouped selection. -/

theorem lastOfGroups_listing (targets : List Reference) (selection : Selection snapshots) :
    GroupListing targets selection ((lastOfGroups targets selection).map (·.1)) := by
  have records := recorded_lastOfGroups targets selection
  refine ⟨fun g => ⟨fun known => ?_, fun ⟨i, mem, joins⟩ => ?_⟩, ?_⟩
  · obtain ⟨⟨g, i⟩, mem, rfl⟩ := List.mem_map.mp known
    obtain ⟨before, after, split, -⟩ := (records.mem_iff g i).mp mem
    refine ⟨i, mem_sightings.mp ?_⟩
    rw [split]
    simp
  · exact records.known (g, i) (mem_sightings.mpr ⟨mem, joins⟩)
  · exact records.ordered.imp fun sighted => sighted.seenBefore

theorem mem_lastOfGroups {g : Group} {i : Fin snapshots.size} :
    (g, i) ∈ lastOfGroups targets selection ↔ LastOf targets selection g i := by
  have records := recorded_lastOfGroups targets selection
  constructor
  · exact fun mem => ((records.mem_iff g i).mp mem).lastOf
  · intro last
    have observed : Observed targets selection g := by
      obtain ⟨before, after, rfl, joins, -⟩ := last
      exact ⟨i, by simp, joins⟩
    have known := ((lastOfGroups_listing targets selection).mem_iff g).mpr observed
    obtain ⟨⟨g, j⟩, mem, rfl⟩ := List.mem_map.mp known
    rwa [last.unique ((records.mem_iff g j).mp mem).lastOf]

theorem nodup_eraseDups {α : Type} [DecidableEq α] (xs : List α) : xs.eraseDups.Nodup := by
  induction length : xs.length using Nat.strongRecOn generalizing xs with
  | ind n ih =>
    cases xs with
    | nil => simp
    | cons x xs =>
      rw [List.eraseDups_cons, List.nodup_cons, List.mem_eraseDups]
      refine ⟨by simp, ih _ ?_ _ rfl⟩
      rw [← length]
      exact Nat.lt_succ_of_le (List.length_filter_le _ _)

theorem group_nodup (targets : List Reference) (distinct : selection.Nodup) :
    (group targets selection).Nodup := by
  rw [group]
  split
  · exact distinct
  · exact nodup_eraseDups _

/-- What grouping makes of a selection. -/
structure GroupedFrom (targets : List Reference) (selection grouped : Selection snapshots) :
    Prop where
  /-- The observed groups in the order in which they are first seen, each replaced by its last
  position; of several occurrences of a position the first stays. -/
  lasts : ∃ groups lasts, GroupListing targets selection groups ∧
    List.Forall₂ (LastOf targets selection) groups lasts ∧ grouped = lasts.eraseDups
  nodup : grouped.Nodup
  subset : ∀ i ∈ grouped, i ∈ selection
  mem_iff : ∀ i, i ∈ grouped ↔ ∃ g, LastOf targets selection g i
  /-- Without any of the columns a position joins no group and is left out. -/
  lacking : ∀ i, (∀ target ∈ targets, (snapshotAt i).get? target.table target.column = none) →
    i ∉ grouped

theorem mem_group_iff (nonempty : targets ≠ []) {i : Fin snapshots.size} :
    i ∈ group targets selection ↔ ∃ g, LastOf targets selection g i := by
  simp only [group, List.isEmpty_iff, nonempty, if_false, List.mem_eraseDups, List.mem_map,
    Prod.exists, exists_eq_right, mem_lastOfGroups]

/-- A selection grouped by at least one column is the list of the last positions of the observed
groups, which come in the order of their first sightings, each position once. -/
theorem group_lasts (nonempty : targets ≠ []) (selection : Selection snapshots) :
    GroupedFrom targets selection (group targets selection) ∧
      ∃ groups, ∀ other, GroupListing targets selection other ↔ other = groups := by
  have lists := lastOfGroups_listing targets selection
  refine ⟨⟨⟨_, (lastOfGroups targets selection).map (·.2), lists, ?_, ?_⟩, ?_, ?_, ?_, ?_⟩, _,
    fun other => ⟨fun lists' => lists.unique lists', fun same => same ▸ lists⟩⟩
  · rw [List.forall₂_map_left_iff, List.forall₂_map_right_iff, List.forall₂_same]
    exact fun entry mem => mem_lastOfGroups.mp mem
  · simp [group, nonempty]
  · simp only [group, List.isEmpty_iff, nonempty, if_false]
    exact nodup_eraseDups _
  · intro i mem
    obtain ⟨g, before, after, rfl, -⟩ := (mem_group_iff nonempty).mp mem
    simp
  · exact fun i => mem_group_iff nonempty
  · intro i lacks mem
    obtain ⟨g, before, after, -, ⟨target, value, at_place, found, -⟩, -⟩ :=
      (mem_group_iff nonempty).mp mem
    rw [lacks target (List.mem_of_getElem? at_place)] at found
    cases found

/-- Snapshots with two columns, one of which the third lacks and both of which the last lacks. -/
def teamsSample : Array Snapshot :=
  #[⟨[("a", .scalar (.int 1)), ("b", .scalar (.string "x"))], [], []⟩,
    ⟨[("a", .scalar (.int 1)), ("b", .scalar (.string "y"))], [], []⟩,
    ⟨[("b", .scalar (.string "x"))], [], []⟩, ⟨[], [], []⟩]

def teamsSelection (positions : List (Fin 4)) : Selection teamsSample := positions

def teamsTargets : List Reference := [⟨none, "a"⟩, ⟨none, "b"⟩]

/-- The first position loses both its groups, to different positions. The second one is the last
of two groups, and stands where the first of them was seen. -/
theorem group_lasts_sample :
    group teamsTargets (teamsSelection [0, 3, 1, 2]) = teamsSelection [1, 2] ∧
    GroupedFrom teamsTargets (teamsSelection [0, 3, 1, 2]) (teamsSelection [1, 2]) := by
  have grouped : group teamsTargets (teamsSelection [0, 3, 1, 2]) = teamsSelection [1, 2] := by
    decide +kernel
  refine ⟨grouped, ?_⟩
  rw [← grouped]
  exact (group_lasts (by decide) (teamsSelection [0, 3, 1, 2])).1

end RecordQuery.Selection
