import RecordQuery.Number.Decimal
import RecordQuery.Text.Hex
import RecordQuery.Time.Instant

/-!
Scalars: the single values that columns hold and that clauses compare with.
-/

namespace RecordQuery

/-- The kinds of values, as messages name them. -/
inductive Kind where
  | null | string | int | uint | float | bool | time | bytes | list | snapshot
  deriving DecidableEq, Repr

def Kind.name : Kind → String
  | .null => "null"
  | .string => "string"
  | .int => "int"
  | .uint => "uint"
  | .float => "float64"
  | .bool => "bool"
  | .time => "time"
  | .bytes => "bytes"
  | .list => "list"
  | .snapshot => "model"

/-- One value of a scalar kind. -/
inductive Scalar where
  | string (s : String)
  | int (n : Int64)
  | uint (n : UInt64)
  | float (x : Binary64)
  | bool (b : Bool)
  | time (t : Instant)
  | bytes (bs : List UInt8)
  deriving DecidableEq, Repr

namespace Scalar

def kind : Scalar → Kind
  | .string _ => .string
  | .int _ => .int
  | .uint _ => .uint
  | .float _ => .float
  | .bool _ => .bool
  | .time _ => .time
  | .bytes _ => .bytes

/-- The scalar is the zero of its kind. The zero instant is the start of year 1. -/
def isZero : Scalar → Bool
  | .string s => s.isEmpty
  | .int n => n == 0
  | .uint n => n == 0
  | .float x => x.isZero
  | .bool b => !b
  | .time t => t == Instant.zero
  | .bytes bs => bs.isEmpty

/-- The text of a float literal: a whole number keeps a zero after the point. -/
def floatText (x : Binary64) : String :=
  if x.isWhole then x.text ++ ".0" else x.text

/-- The scalar as clause texts write it. Strings, instants and bytes stand between quotes; a
quote inside a string is not marked. -/
def text : Scalar → String
  | .string s => "'" ++ s ++ "'"
  | .int n => toString n.toInt
  | .uint n => toString n.toNat
  | .float x => floatText x
  | .bool b => if b then "true" else "false"
  | .time t => "'" ++ t.text ++ "'"
  | .bytes bs => "'" ++ Text.hexBytes bs ++ "'"

end Scalar

/-- What a clause compares with: one scalar, or the members of a list. -/
inductive Operand where
  | single (literal : Scalar)
  | list (literals : List Scalar)
  deriving DecidableEq, Repr

namespace Operand

def literals : Operand → List Scalar
  | .single literal => [literal]
  | .list literals => literals

/-- A single literal becomes a list of one member. -/
def asList (operand : Operand) : Operand :=
  .list operand.literals

/-- The members of a list stand between parentheses, separated by commas. -/
def text : Operand → String
  | .single literal => literal.text
  | .list literals => "(" ++ ", ".intercalate (literals.map Scalar.text) ++ ")"

end Operand

end RecordQuery
