import RecordQuery.Value

/-!
When two values of a grouped column belong to one group. Both float zeros are one value. Inside
a nested record zeros keep their sign, all NaNs are one value, and so are instants that are shown
alike down to the nanosecond.
-/

namespace RecordQuery

private def Scalar.shown : Scalar → Scalar
  | .float x => .float x.foldNaN
  | .time t => .time t.carried
  | s => s

private def Items.shown : Items → Items
  | .floats xs => .floats (xs.map Binary64.foldNaN)
  | items => items

mutual

private def Value.shown : Value → Value
  | .null => .null
  | .scalar s => .scalar s.shown
  | .list items => .list items.shown
  | .nested s => .nested s.shown

private def Snapshot.shown : Snapshot → Snapshot
  | .mk fields forward back =>
    .mk (shownFields fields) (shownRelations forward) (shownRelations back)

private def shownFields : List (String × Value) → List (String × Value)
  | [] => []
  | (name, value) :: rest => (name, value.shown) :: shownFields rest

private def shownRelations : List (String × Snapshot) → List (String × Snapshot)
  | [] => []
  | (name, related) :: rest => (name, related.shown) :: shownRelations rest

end

/-- The value that stands for the group of a value. -/
def Value.groupKey : Value → Value
  | .scalar (.float x) => .scalar (.float x.foldZero)
  | .list (.floats xs) => .list (.floats (xs.map Binary64.foldZero))
  | .nested s => .nested s.shown
  | value => value

end RecordQuery
