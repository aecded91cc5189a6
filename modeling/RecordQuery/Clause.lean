import RecordQuery.Name
import RecordQuery.Scalar

/-!
Clauses of a query: conditions, sort keys, groupings, paging, relations to load and columns to
select, with their texts.
-/

namespace RecordQuery

/-- What a condition asks of a value. -/
inductive Operator where
  | eq | ne | gt | ge | lt | le | isIn | notIn | isNull | isNotNull
  | contains | startsWith | endsWith
  deriving DecidableEq, Repr

namespace Operator

def all : List Operator :=
  [.eq, .ne, .gt, .ge, .lt, .le, .isIn, .notIn, .isNull, .isNotNull, .contains, .startsWith,
   .endsWith]

/-- The word for an operator in filters. -/
def token : Operator → String
  | .eq => "eq"
  | .ne => "ne"
  | .gt => "gt"
  | .ge => "ge"
  | .lt => "lt"
  | .le => "le"
  | .isIn => "in"
  | .notIn => "notIn"
  | .isNull => "isNull"
  | .isNotNull => "isNotNull"
  | .contains => "contains"
  | .startsWith => "startswith"
  | .endsWith => "endswith"

/-- The operator of a word. Case matters. -/
def ofToken? (word : String) : Option Operator :=
  all.find? fun op => op.token == word

/-- The operator compares with every member of a list. -/
def takesList : Operator → Bool
  | .isIn | .notIn => true
  | _ => false

/-- The operator compares with nothing. -/
def isNullCheck : Operator → Bool
  | .isNull | .isNotNull => true
  | _ => false

/-- Whether a value in the given order to the operand passes. Only six operators look at the
order. -/
def holdsFor? (op : Operator) (ordering : Ordering) : Option Bool :=
  match op with
  | .eq => some (ordering == .eq)
  | .ne => some (ordering != .eq)
  | .gt => some (ordering == .gt)
  | .ge => some (ordering != .lt)
  | .lt => some (ordering == .lt)
  | .le => some (ordering != .gt)
  | _ => none

end Operator

/-- The direction of a sort key. Without one the order is ascending. -/
inductive Direction where
  | unspecified | ascending | descending
  deriving DecidableEq, Repr

namespace Direction

/-- The direction of a word, by its first letter. -/
def ofWord? (word : String) : Option Direction :=
  match word.toList with
  | 'a' :: _ | 'A' :: _ => some .ascending
  | 'd' :: _ | 'D' :: _ => some .descending
  | _ => none

/-- The keyword of a direction, none if it is unspecified. -/
def keyword : Direction → String
  | .unspecified => ""
  | .ascending => "ASC"
  | .descending => "DESC"

/-- Turns an ascending order into the order of the direction. -/
def apply : Direction → Ordering → Ordering
  | .descending, ordering => ordering.swap
  | _, ordering => ordering

end Direction

/-- A column of the record itself or of the relation that the table names. -/
structure Reference where
  table : Option String
  column : String
  deriving DecidableEq, Repr

namespace Reference

/-- A reference in which an empty table counts as none. -/
def of (table : Option String) (column : String) : Reference :=
  ⟨table.filter (· != ""), column⟩

/-- Reads `table/column` or `column`. -/
def ofPath (path : String) : Reference :=
  let (table, column) := Name.splitReference '/' path
  of table column

/-- Reads `table.column` or `column`. -/
def ofDotted (path : String) : Reference :=
  let (table, column) := Name.splitReference '.' path
  of table column

/-- The column, with the table before it if there is one. -/
def text (r : Reference) : String :=
  match r.table with
  | none => r.column
  | some table => if table == "" then r.column else table ++ "." ++ r.column

end Reference

/-- Keeps the records whose column stands in the given relation to the operand. -/
structure Condition where
  target : Reference
  op : Operator
  operand : Option Operand
  deriving DecidableEq, Repr

namespace Condition

/-- A condition as operators want it: `in` and `notIn` compare with a list, the null checks
with nothing. -/
def of (target : Reference) (op : Operator) (operand : Operand) : Condition :=
  let operand := if op.takesList then operand.asList else operand
  ⟨target, op, if op.isNullCheck then none else some operand⟩

def isNull (target : Reference) : Condition :=
  ⟨target, .isNull, none⟩

def isNotNull (target : Reference) : Condition :=
  ⟨target, .isNotNull, none⟩

/-- Reference, operator and operand, separated by blanks. -/
def text (c : Condition) : String :=
  let head := c.target.text ++ " " ++ c.op.token
  match c.operand with
  | none => head
  | some operand => if c.op.isNullCheck then head else head ++ " " ++ operand.text

end Condition

/-- Sorts by a column. -/
structure SortKey where
  target : Reference
  direction : Direction
  deriving DecidableEq, Repr

/-- The reference, its table in the form of table names, and the keyword of the direction. -/
def SortKey.text (k : SortKey) : String :=
  let target : Reference := { k.target with table := k.target.table.map Name.table }
  match k.direction with
  | .unspecified => target.text
  | direction => target.text ++ " " ++ direction.keyword

/-- One clause of a query. -/
inductive Clause where
  | condition (c : Condition)
  | sort (k : SortKey)
  | group (target : Reference)
  | limit (n : Nat)
  | offset (n : Nat)
  | relations (tables : List String)
  | select (columns : List String)
  deriving DecidableEq, Repr

def Clause.text : Clause → String
  | .condition c => c.text
  | .sort k => k.text
  | .group target => target.text
  | .limit n => "Limit " ++ toString n
  | .offset n => "Offset " ++ toString n
  | .relations tables => "JOIN " ++ ", ".intercalate tables
  | .select columns => "Select " ++ ", ".intercalate columns

end RecordQuery
