import RecordQuery.Clause

/-!
Clauses as parts of an SQL statement. Names are double-quoted, operands are bound to
placeholders, and a column of another table brings the join on which it depends.
-/

namespace RecordQuery.Sql

/-- One part of a statement. -/
inductive Part where
  | condition (text : String) (arguments : List Scalar)
  | join (text : String)
  | order (text : String)
  | group (text : String)
  | limit (n : Nat)
  | offset (n : Nat)
  /-- The relations to load along with the records. -/
  | load (relations : List String)
  | select (columns : List String)
  deriving DecidableEq, Repr

def quotedName (name : String) : String :=
  "\"" ++ name ++ "\""

/-- The table that a reference leads to, under its name in the singular. -/
def foreignTable? (target : Reference) : Option String :=
  (target.table.filter (· != "")).map Name.snakeCase

/-- The join on which the column of a reference depends. -/
def joins (target : Reference) : List Part :=
  match foreignTable? target with
  | none => []
  | some singular =>
    let table := quotedName (Name.plural singular)
    [.join (table ++ " ON " ++ table ++ "." ++ quotedName "id" ++ " = "
      ++ quotedName (singular ++ "_id"))]

/-- The column of a reference, with its table if it is another one. -/
def column (target : Reference) : String :=
  match foreignTable? target with
  | none => quotedName target.column
  | some singular => quotedName (Name.plural singular) ++ "." ++ quotedName target.column

/-- The comparison of an operator, to be written after the column. -/
def comparison : Operator → String
  | .eq => "= ?"
  | .ne => "<> ?"
  | .gt => "> ?"
  | .ge => ">= ?"
  | .lt => "< ?"
  | .le => "<= ?"
  | .isIn => "IN ?"
  | .notIn => "NOT IN ?"
  | .contains | .startsWith | .endsWith => "LIKE ?"
  | .isNull => "IS NULL"
  | .isNotNull => "IS NOT NULL"

/-- The text that a pattern is built from. A string goes in without its quotes. -/
def needle : Scalar → String
  | .string s => s
  | literal => literal.text

/-- The pattern for the first literal. -/
def pattern (before after : String) (literals : List Scalar) : List Scalar :=
  match literals with
  | [] => []
  | literal :: _ => [.string (before ++ needle literal ++ after)]

/-- What is bound to the placeholder of a condition. -/
def arguments (c : Condition) : List Scalar :=
  let literals := match c.operand with
    | none => []
    | some operand => operand.literals
  match c.op with
  | .isNull | .isNotNull => []
  | .contains => pattern "%" "%" literals
  | .startsWith => pattern "" "%" literals
  | .endsWith => pattern "%" "" literals
  | _ => literals

/-- The parts of a condition. -/
def ofCondition (c : Condition) : List Part :=
  joins c.target ++ [.condition (column c.target ++ " " ++ comparison c.op) (arguments c)]

/-- The parts of a sort key. -/
def ofSortKey (k : SortKey) : List Part :=
  let keyword := k.direction.keyword
  let text := if keyword == "" then column k.target else column k.target ++ " " ++ keyword
  joins k.target ++ [.order text]

/-- The parts of one clause. -/
def ofClause : Clause → List Part
  | .condition c => ofCondition c
  | .sort k => ofSortKey k
  | .group target => joins target ++ [.group (column target)]
  | .limit n => [.limit n]
  | .offset n => [.offset n]
  | .relations tables => [.load tables]
  | .select columns => [.select columns]

/-- The parts of a list of clauses in their order. -/
def ofClauses (clauses : List Clause) : List Part :=
  clauses.flatMap ofClause

end RecordQuery.Sql
