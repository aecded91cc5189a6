import RecordQuery.Request.Count
import RecordQuery.Request.Filter
import RecordQuery.Request.OrderBy
import RecordQuery.Settings

/-!
Requests: the fragments that a list of parameters gives, and the clauses that they state.
-/

namespace RecordQuery

/-- The texts of a request. A fragment that was not given is empty. -/
structure Fragments where
  filter : String := ""
  orderBy : String := ""
  limit : String := ""
  offset : String := ""
  deriving DecidableEq, Repr

namespace Fragments

/-- Takes over one parameter. Names that mean nothing are passed over. -/
def assign (names : ParameterNames) (fragments : Fragments) (parameter : String × String) :
    Fragments :=
  let (name, value) := parameter
  if name == names.filter then { fragments with filter := value }
  else if name == names.orderBy then { fragments with orderBy := value }
  else if name == names.limit then { fragments with limit := value }
  else if name == names.offset then { fragments with offset := value }
  else fragments

/-- The fragments of a request. The last value of a repeated parameter counts. -/
def ofParameters (names : ParameterNames) (parameters : List (String × String)) : Fragments :=
  parameters.foldl (assign names) {}

/-- The clauses of a request: limit, offset, conditions and sort keys in that order. -/
def clauses (fragments : Fragments) (page : DefaultPage) : Except Error (List Clause) := do
  let limit ← Request.readLimit fragments.limit
  let offset ← Request.readOffset fragments.offset
  let conditions ← Filter.read fragments.filter
  let keys ← OrderBy.read fragments.orderBy
  return ((limit.or page.limit).map Clause.limit).toList
    ++ ((offset.or page.offset).map Clause.offset).toList
    ++ conditions.map .condition ++ keys.map .sort

end Fragments

end RecordQuery
