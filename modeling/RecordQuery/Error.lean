import RecordQuery.Clause
import RecordQuery.Text.Quoted
import RecordQuery.Value

/-!
What can go wrong between a request and its answer, and the message for each cause.
-/

namespace RecordQuery

/-- The parts of a request that are read as text. -/
inductive Fragment where
  | filter | orderBy | limit | offset
  deriving DecidableEq, Repr

def Fragment.name : Fragment → String
  | .filter => "filter"
  | .orderBy => "order by"
  | .limit => "limit"
  | .offset => "offset"

/-- What was tried with a value when its kind did not fit. -/
inductive Attempt where
  | compare (op : Operator)
  | order
  | assign
  deriving DecidableEq, Repr

def Attempt.name : Attempt → String
  | .compare op => op.token
  | .order => "order"
  | .assign => "assign"

/-- Causes of failure. -/
inductive Error where
  /-- The text of a fragment is malformed. -/
  | badFragment (fragment : Fragment) (input reason : String)
  | unknownOperator (word : String)
  /-- A column of a record could not be read. -/
  | unreadable (column type reason : String)
  /-- A record has no such column or relation. -/
  | unknownColumn (target : Reference)
  | mismatch (attempt : Attempt) (actual : Kind) (expected : String)
  /-- All the problems that kept a selection from being sorted. -/
  | unsortable (problems : List Error)
  | noKey (reason : String)
  /-- An update would move a record to another key. -/
  | keyChanged (before after : String)
  | alreadyStored (key : String)
  | notStored (key : String)
  | readOnly (column : String)
  /-- A hook refused the operation. -/
  | refused (reason : String)
  deriving Repr

namespace Error

mutual

/-- The message of an error. -/
def message : Error → String
  | .badFragment fragment input reason =>
    "invalid " ++ fragment.name ++ " value " ++ Text.quoted input ++ ": " ++ reason
  | .unknownOperator word => "unsupported operator: " ++ word
  | .unreadable column type reason =>
    "unsupported type " ++ type ++ " of field " ++ column ++ ": " ++ reason
  | .unknownColumn target => target.text ++ " not found"
  | .mismatch attempt actual expected =>
    "type mismatch: " ++ actual.name ++ " " ++ attempt.name ++ " " ++ expected
  | .unsortable problems =>
    toString problems.length ++ " error(s) while sorting: " ++ "; ".intercalate (messages problems)
  | .noKey reason => "key not recognized: " ++ reason
  | .keyChanged before after => "key cannot change from " ++ before ++ " to " ++ after
  | .alreadyStored key => key ++ " already exists"
  | .notStored key => key ++ " not found"
  | .readOnly column => "field " ++ column ++ " cannot be set"
  | .refused reason => "hook failed: " ++ reason

/-- The messages of errors in their order. -/
def messages : List Error → List String
  | [] => []
  | e :: rest => message e :: messages rest

end

/-- Names the column in the error of a reading that did not know it. -/
def inColumn (name : String) : Error → Error
  | .unreadable column type reason =>
    .unreadable (if column == "" then name else column) type reason
  | e => e

end Error

/-- The value of a column, which must exist. -/
def Snapshot.lookup (s : Snapshot) (target : Reference) : Except Error Value :=
  match s.get? target.table target.column with
  | some value => .ok value
  | none => .error (.unknownColumn target)

end RecordQuery
