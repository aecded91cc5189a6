import RecordQuery.Grouping
import RecordQuery.Matching

/-!
Selections of snapshots, and the three stages of a query over them: filter, group and sort. A
selection lists positions among the snapshots and may repeat them. Each stage works on the
selection that the one before it left.
-/

namespace RecordQuery

/-- Positions among snapshots, in the order of the answer. -/
abbrev Selection (snapshots : Array Snapshot) := List (Fin snapshots.size)

namespace Selection

variable {snapshots : Array Snapshot}

/-- The snapshot at a position. -/
def snapshotAt (i : Fin snapshots.size) : Snapshot := snapshots[i]

/-- Every position once, in ascending order. -/
def all (snapshots : Array Snapshot) : Selection snapshots :=
  List.finRange snapshots.size

/-- A snapshot satisfies all conditions. They are tried in order, up to the first that fails. -/
def satisfies (semantics : NullSemantics) (s : Snapshot) : List Condition → Except Error Bool
  | [] => .ok true
  | c :: rest =>
    match Matching.accepts semantics c s with
    | .error e => .error e
    | .ok false => .ok false
    | .ok true => satisfies semantics s rest

/-- Keeps the positions whose snapshots satisfy all conditions. -/
def filter (semantics : NullSemantics) (conditions : List Condition) :
    Selection snapshots → Except Error (Selection snapshots)
  | [] => .ok []
  | i :: rest =>
    match satisfies semantics (snapshotAt i) conditions with
    | .error e => .error e
    | .ok kept =>
      match filter semantics conditions rest with
      | .error e => .error e
      | .ok rest => .ok (if kept then i :: rest else rest)

/-- A group: the place of its reference among the grouped ones, and the key of its values. -/
abbrev Group := Nat × Value

/-- The groups that one snapshot joins. It joins none by a column that it lacks. -/
def groupsOf (targets : List Reference) (s : Snapshot) : List Group :=
  targets.zipIdx.filterMap fun (target, place) =>
    (s.get? target.table target.column).map fun value => (place, value.groupKey)

/-- Counting the members of a list, as columns and sort keys are counted, gives ascending
places. -/
theorem places_ascending {α : Type} (xs : List α) : xs.zipIdx.Pairwise fun a b => a.2 < b.2 := by
  rw [← List.pairwise_map, List.zipIdx_map_snd]
  exact List.pairwise_lt_range'

/-- Makes a position the last one of a group. New groups come after those already seen. -/
def enter (i : Fin snapshots.size) (g : Group) :
    List (Group × Fin snapshots.size) → List (Group × Fin snapshots.size)
  | [] => [(g, i)]
  | entry :: rest => if entry.1 = g then (g, i) :: rest else entry :: enter i g rest

/-- The last position of every group, in the order in which the groups were first seen. -/
def lastOfGroups (targets : List Reference) (selection : Selection snapshots) :
    List (Group × Fin snapshots.size) :=
  selection.foldl
    (fun groups i =>
      (groupsOf targets (snapshotAt i)).foldl (fun groups g => enter i g groups) groups)
    []

/-- Reduces the selection to the last position of every group, each position once. Without a
grouped column the selection stays as it is. -/
def group (targets : List Reference) (selection : Selection snapshots) : Selection snapshots :=
  if targets.isEmpty then selection
  else ((lastOfGroups targets selection).map (·.2)).eraseDups

/-- The first value of a column that is not null, in the order of the selection. -/
def firstValue? (target : Reference) (selection : Selection snapshots) : Option Value :=
  selection.findSome? fun i =>
    ((snapshotAt i).get? target.table target.column).filter fun value => !value.isNull

/-- Why a position cannot be sorted by a column: the column is missing, or its value does not
compare with the first one of the selection. -/
def problem? (selection : Selection snapshots) (target : Reference) (i : Fin snapshots.size) :
    Option Error :=
  match (snapshotAt i).lookup target, firstValue? target selection with
  | .error e, _ => some e
  | .ok _, none => none
  | .ok value, some first =>
    if value.isNull then none
    else match first.order value with
      | .error e => some e
      | .ok _ => none

/-- All problems of a selection, by position and then by sort key. -/
def problems (keys : List SortKey) (selection : Selection snapshots) : List Error :=
  (all snapshots).flatMap fun i =>
    if selection.contains i then keys.filterMap fun key => problem? selection key.target i else []

/-- The order of two values of a sorted column. Nulls stand at one end whatever the direction. -/
def orderValues (nulls : NullPlacement) (direction : Direction) (a b : Value) : Ordering :=
  let nullsFirst : Ordering := match nulls with
    | .first => .lt
    | .last => .gt
  match a.isNull, b.isNull with
  | true, true => .eq
  | true, false => nullsFirst
  | false, true => nullsFirst.swap
  | false, false =>
    match a.order b with
    | .ok ordering => direction.apply ordering
    | .error _ => .eq

/-- The order of two snapshots by one sort key. -/
def orderBy (nulls : NullPlacement) (key : SortKey) (a b : Snapshot) : Ordering :=
  match a.get? key.target.table key.target.column, b.get? key.target.table key.target.column with
  | some x, some y => orderValues nulls key.direction x y
  | _, _ => .eq

/-- The order of two snapshots: that of the first sort key by which they differ. -/
def order (nulls : NullPlacement) : List SortKey → Snapshot → Snapshot → Ordering
  | [], _, _ => .eq
  | key :: rest, a, b => (orderBy nulls key a b).then (order nulls rest a b)

/-- Sorts the selection in its place: what is left of it, and whether sorting succeeded. Positions
that tie keep their order. Problems are looked for before anything moves, so that a selection with
some stays as it came. -/
def sortInPlace (nulls : NullPlacement) (keys : List SortKey) (selection : Selection snapshots) :
    Selection snapshots × Except Error Unit :=
  match problems keys selection with
  | [] =>
    (selection.mergeSort fun i j => (order nulls keys (snapshotAt i) (snapshotAt j)).isLE, .ok ())
  | found => (selection, .error (.unsortable found))

/-- The sorted selection, if sorting succeeds. -/
def sort (nulls : NullPlacement) (keys : List SortKey) (selection : Selection snapshots) :
    Except Error (Selection snapshots) :=
  match sortInPlace nulls keys selection with
  | (sorted, .ok ()) => .ok sorted
  | (_, .error e) => .error e

end Selection

end RecordQuery
