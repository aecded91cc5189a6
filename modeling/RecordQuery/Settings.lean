/-!
Settings of queries: how nulls are recognised and placed, the names of request parameters, and
the page to show when a request asks for none.
-/

namespace RecordQuery

/-- What counts as null. -/
inductive NullSemantics where
  | strict
  | zeroValue
  deriving DecidableEq, Repr

/-- Where nulls stand in a sorted selection, whatever the direction. -/
inductive NullPlacement where
  | first
  | last
  deriving DecidableEq, Repr

structure EvaluationOptions where
  nullSemantics : NullSemantics := .strict
  nulls : NullPlacement := .first
  deriving DecidableEq, Repr

/-- The names by which a request gives its fragments. -/
structure ParameterNames where
  filter : String := "$filter"
  orderBy : String := "$sort"
  limit : String := "$limit"
  offset : String := "$offset"
  deriving DecidableEq, Repr

/-- The page that is shown unless a request asks for another. -/
structure DefaultPage where
  limit : Option Nat := none
  offset : Option Nat := none
  deriving DecidableEq, Repr

end RecordQuery
