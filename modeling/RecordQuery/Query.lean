import RecordQuery.Record.Schema
import RecordQuery.Selection

/-!
Queries over records: the records are reflected once, the selection passes through the three
stages, and what is left is cut to a page.
-/

namespace RecordQuery

/-- The clauses of a query by their kind. -/
structure Query where
  conditions : List Condition := []
  groups : List Reference := []
  keys : List SortKey := []
  offset : Nat := 0
  limit : Option Nat := none
  deriving DecidableEq, Repr

namespace Query

def condition? : Clause → Option Condition
  | .condition c => some c
  | _ => none

def group? : Clause → Option Reference
  | .group target => some target
  | _ => none

def key? : Clause → Option SortKey
  | .sort key => some key
  | _ => none

def offset? : Clause → Option Nat
  | .offset n => some n
  | _ => none

def limit? : Clause → Option Nat
  | .limit n => some n
  | _ => none

/-- Sorts out a list of clauses. Of several offsets or limits the first counts; relations to
load and columns to select change no answer. -/
def ofClauses (clauses : List Clause) : Query where
  conditions := clauses.filterMap condition?
  groups := clauses.filterMap group?
  keys := clauses.filterMap key?
  offset := (clauses.findSome? offset?).getD 0
  limit := clauses.findSome? limit?

/-- The query with its conditions only. -/
def onlyConditions (q : Query) : Query :=
  { conditions := q.conditions }

/-- The query without its page. -/
def unpaged (q : Query) : Query :=
  { q with offset := 0, limit := none }

/-- What the page shows of an answer. -/
def page {α : Type} (q : Query) (answer : List α) : List α :=
  let rest := answer.drop q.offset
  match q.limit with
  | none => rest
  | some n => rest.take n

/-- The selection that a query makes among snapshots. -/
def select (q : Query) (options : EvaluationOptions) (snapshots : Array Snapshot) :
    Except Error (Selection snapshots) := do
  let kept ← (Selection.all snapshots).filter options.nullSemantics q.conditions
  let sorted ← Selection.sort options.nulls q.keys (Selection.group q.groups kept)
  return q.page sorted

/-- The positions of the records that a query selects, in the order of the answer. -/
def positions {ρ : Type} (q : Query) (schema : Schema ρ) (options : EvaluationOptions)
    (records : List ρ) : Except Error (List Nat) := do
  let snapshots ← records.mapM schema.reflect
  let selection ← q.select options snapshots.toArray
  return selection.map (·.val)

/-- The records that a query selects. -/
def run {ρ : Type} (q : Query) (schema : Schema ρ) (options : EvaluationOptions)
    (records : List ρ) : Except Error (List ρ) := do
  let positions ← q.positions schema options records
  return positions.filterMap fun i => records[i]?

end Query

end RecordQuery
