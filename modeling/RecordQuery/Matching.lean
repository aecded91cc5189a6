import RecordQuery.Comparison
import RecordQuery.Error
import RecordQuery.Settings
import RecordQuery.Time.Timestamp

/-!
Matching of values against conditions, and the order of values. The kind of the value decides:
operands are first read as values of that kind, and a literal that cannot be is a mismatch.
Instants compare by their texts, so to the second, and bytes by their hexadecimal digits.
-/

namespace RecordQuery

namespace Scalar

/-- The literal as a string. -/
def asString? : Scalar → Option String
  | .string s => some s
  | _ => none

/-- The literal as a signed number. -/
def asInt? : Scalar → Option Int64
  | .int n => some n
  | .uint n => int64? n.toNat
  | .string s => readInt64? s.toList
  | _ => none

/-- The literal as an unsigned number. -/
def asUInt? : Scalar → Option UInt64
  | .uint n => some n
  | .int n => uint64? n.toInt
  | .string s => readUInt64? s.toList
  | _ => none

/-- The literal as a float. A whole number becomes the nearest one. -/
def asFloat? : Scalar → Option Binary64
  | .float x => some x
  | .int n => some (Binary64.ofInt n.toInt)
  | .uint n => some (Binary64.ofInt n.toNat)
  | .string s => Binary64.read? s.toList
  | _ => none

/-- The literal as the number of a truth value. -/
def asBit? : Scalar → Option Nat
  | .bool b => some (Comparison.bit b)
  | .int n => if n == 0 then some 0 else if n == 1 then some 1 else none
  | .uint n => if n == 0 then some 0 else if n == 1 then some 1 else none
  | .string s => if s == "true" then some 1 else if s == "false" then some 0 else none
  | _ => none

/-- The literal as the text of an instant. -/
def asTimeText? : Scalar → Option String
  | .time t => some t.text
  | .string s => (Timestamp.read? s.toList).map Instant.text
  | _ => none

/-- The literal as the digits of bytes. A string stands for its UTF-8 bytes. -/
def asHex? : Scalar → Option String
  | .bytes bs => some (Text.hexBytes bs)
  | .string s => some (Text.hexBytes s.toUTF8.data.toList)
  | _ => none

end Scalar

namespace Matching

/-- The literals as values of one type, unless one of them cannot be read so. -/
def readAll {α : Type} (read? : Scalar → Option α) (op : Operator) (actual : Kind) :
    List Scalar → Except Error (List α)
  | [] => .ok []
  | literal :: rest =>
    match read? literal with
    | none => .error (.mismatch (.compare op) actual (literal.kind.name ++ " " ++ literal.text))
    | some e => (readAll read? op actual rest).map (e :: ·)

/-- A scalar against literals. -/
def scalarHolds (op : Operator) (actual : Scalar) (literals : List Scalar) :
    Except Error Bool :=
  match actual with
  | .string s =>
    (readAll Scalar.asString? op .string literals).map (Comparison.strings.holds op s)
  | .int n => (readAll Scalar.asInt? op .int literals).map (Comparison.ints.holds op n)
  | .uint n => (readAll Scalar.asUInt? op .uint literals).map (Comparison.uints.holds op n)
  | .float x => (readAll Scalar.asFloat? op .float literals).map (Comparison.floats.holds op x)
  | .bool b =>
    (readAll Scalar.asBit? op .bool literals).map (Comparison.bits.holds op (Comparison.bit b))
  | .time t =>
    (readAll Scalar.asTimeText? op .time literals).map (Comparison.strings.holds op t.text)
  | .bytes bs =>
    (readAll Scalar.asHex? op .bytes literals).map
      (Comparison.strings.holds op (Text.hexBytes bs))

/-- The kind of the first literal, as a mismatch names it. -/
def firstKind : List Scalar → String
  | [] => "nothing"
  | literal :: _ => literal.kind.name

/-- The value counts as null. -/
def countsAsNull (semantics : NullSemantics) (value : Value) : Bool :=
  match semantics with
  | .strict => value.isNull
  | .zeroValue => value.isZero

/-- A value satisfies an operator and its operand. Null satisfies only null checks. An operator
that takes neither a list nor nothing needs a literal, and lists and nested records compare with
nothing. -/
def valueHolds (semantics : NullSemantics) (op : Operator) (actual : Value)
    (operand : Option Operand) : Except Error Bool :=
  let literals := match operand with
    | none => []
    | some operand => operand.literals
  let mismatch (expected : String) : Except Error Bool :=
    .error (.mismatch (.compare op) actual.kind expected)
  match op with
  | .isNull => .ok (countsAsNull semantics actual)
  | .isNotNull => .ok (!countsAsNull semantics actual)
  | op =>
    if literals.isEmpty && !op.takesList then mismatch "nothing"
    else
      match actual with
      | .null => .ok false
      | .scalar s => scalarHolds op s literals
      | .list _ | .nested _ => mismatch (firstKind literals)

/-- A record satisfies a condition. The column must exist. -/
def accepts (semantics : NullSemantics) (c : Condition) (s : Snapshot) : Except Error Bool := do
  valueHolds semantics c.op (← s.lookup c.target) c.operand

end Matching

/-- The ascending order of two scalars of one kind. -/
def Scalar.order? : Scalar → Scalar → Option Ordering
  | .string x, .string y => some (compare x y)
  | .int x, .int y => some (compare x.toInt y.toInt)
  | .uint x, .uint y => some (compare x.toNat y.toNat)
  | .float x, .float y => some (x.order y)
  | .bool x, .bool y => some (compare (Comparison.bit x) (Comparison.bit y))
  | .time x, .time y => some (compare x.text y.text)
  | .bytes x, .bytes y => some (compare (Text.hexBytes x) (Text.hexBytes y))
  | _, _ => none

/-- The ascending order of two values, which must be scalars of one kind. -/
def Value.order (a b : Value) : Except Error Ordering :=
  let mismatch := Error.mismatch .order a.kind b.kind.name
  match a, b with
  | .scalar x, .scalar y =>
    match x.order? y with
    | some ordering => .ok ordering
    | none => .error mismatch
  | _, _ => .error mismatch

end RecordQuery
