import RecordQuery.Assoc
import RecordQuery.Json.Syntax
import RecordQuery.Number.Decimal
import RecordQuery.Text.Hex

/-!
JSON documents as values of a column. Numbers are whole where 64 bits hold them and floats
otherwise, and the members of an object are sorted by name, the last of equal names counting.
-/

namespace RecordQuery

inductive Json where
  | null
  | bool (b : Bool)
  | whole (n : Int)
  | float (x : Binary64)
  | string (s : String)
  | array (items : List Json)
  | object (members : List (String × Json))
  deriving Repr, Inhabited

namespace Json

/-- Adds digits to a number while it stays below 2^64. Also counts the digits that were left. -/
private def gather (n : Nat) : List Char → Nat × Nat
  | [] => (n, 0)
  | c :: cs =>
    let next := 10 * n + digitValue c
    if next < 0x10000000000000000 then gather next cs else (n, cs.length + 1)

private def powerOfTen (k : Nat) : Binary64 :=
  Binary64.ofRatio false (Nat.pow 10 k) 1

/-- The number x * 10^exponent, in steps by the powers of ten that a double can hold, each step
rounded. There is none beyond the largest double. Below the smallest one three steps reach
zero. -/
private def scale : (steps : Nat) → Binary64 → Int → Option Binary64
  | 0, x, _ => some x
  | steps + 1, x, exponent =>
    if 308 < exponent then if x.isZero then some x else none
    else if 0 ≤ exponent then
      let scaled := x.mulFinite (powerOfTen exponent.toNat)
      if scaled.isFinite then some scaled else none
    else if -308 ≤ exponent then some (x.divFinite (powerOfTen (-exponent).toNat))
    else if x.isZero then some x
    else scale steps (x.divFinite (powerOfTen 308)) (exponent + 308)

/-- The size of a numeral as a float. The first 19 or 20 digits count. -/
private def floatSize? (n : Numeral) : Option Binary64 :=
  let (significand, left) := gather 0 n.whole
  let fraction := n.fraction.getD []
  let (significand, dropped) := gather significand fraction
  let exponent : Int := (left : Int) - (fraction.length - dropped : Nat)
  match n.exponent with
  | none => scale 5 (Binary64.ofInt significand) exponent
  | some (isNegative, digits) =>
    let shift : Int := digitsValue digits
    if 0x80000000 ≤ shift then
      if significand == 0 || isNegative then some Binary64.zero else none
    else
      let exponent := if isNegative then exponent - shift else exponent + shift
      scale 5 (Binary64.ofInt significand) exponent

private def ofFloatSize (isNegative : Bool) (size : Binary64) : Json :=
  .float (if isNegative then size.neg else size)

/-- The value of a numeral. Digits alone are a whole number if 64 bits hold it; minus zero is a
float. -/
def ofNumeral? (n : Numeral) : Option Json :=
  let (significand, left) := gather 0 n.whole
  if n.fraction.isSome || n.exponent.isSome || left != 0 then
    (floatSize? n).map (ofFloatSize n.isNegative)
  else if !n.isNegative then some (.whole significand)
  else if significand == 0 || 0x8000000000000000 < significand then
    some (ofFloatSize true (Binary64.ofInt significand))
  else some (.whole (-significand))

mutual

/-- The document that a text states, if its strings and numbers have values and it is nested
less than `depth` deep. -/
def ofSyntax? (depth : Nat) : Syntax → Option Json
  | .null => some .null
  | .bool b => some (.bool b)
  | .number n => ofNumeral? n
  | .string s => s.map .string
  | .array items =>
    if depth ≤ 1 then none else (ofItems? (depth - 1) items).map .array
  | .object members =>
    if depth ≤ 1 then none
    else (ofMembers? (depth - 1) members).map fun members =>
      .object (members.foldl (fun entries member => Assoc.insert member.1 member.2 entries) [])

private def ofItems? (depth : Nat) : List Syntax → Option (List Json)
  | [] => some []
  | item :: rest => do
    let item ← ofSyntax? depth item
    let rest ← ofItems? depth rest
    some (item :: rest)

private def ofMembers? (depth : Nat) :
    List (Option String × Syntax) → Option (List (String × Json))
  | [] => some []
  | (name, value) :: rest => do
    let name ← name
    let value ← ofSyntax? depth value
    let rest ← ofMembers? depth rest
    some ((name, value) :: rest)

end

/-- Reads a document. Arrays and objects nest at most 127 deep. -/
def read? (cs : List Char) : Option Json :=
  (Syntax.read? cs).bind (ofSyntax? 128)

/-- A character inside a string. -/
private def charText (c : Char) : String :=
  if c == '"' then "\\\""
  else if c == '\\' then "\\\\"
  else if c == '\n' then "\\n"
  else if c == '\r' then "\\r"
  else if c == '\t' then "\\t"
  else if c == '\x08' then "\\b"
  else if c == '\x0C' then "\\f"
  else if c.toNat < 0x20 then
    "\\u00" ++ String.ofList [Text.hexDigit (c.toNat / 16), Text.hexDigit (c.toNat % 16)]
  else c.toString

def stringText (s : String) : String :=
  "\"" ++ String.join (s.toList.map charText) ++ "\""

/-- The text of a finite float: shortest digits, written plainly from 10^-5 up to 10^16. A whole
number keeps a zero after the point. -/
def floatText (x : Binary64) : String :=
  let size :=
    if x.isZero then "0.0"
    else
      let d := Decimal.shortest .even x
      if -5 < d.point && d.point ≤ 16 then if d.isWhole then d.plain ++ ".0" else d.plain
      else d.scientific
  if x.isNegative then "-" ++ size else size

mutual

/-- The text of a document, without blanks. -/
def text : Json → String
  | .null => "null"
  | .bool b => if b then "true" else "false"
  | .whole n => toString n
  | .float x => floatText x
  | .string s => stringText s
  | .array items => "[" ++ ",".intercalate (itemTexts items) ++ "]"
  | .object members => "\x7b" ++ ",".intercalate (memberTexts members) ++ "\x7d"

private def itemTexts : List Json → List String
  | [] => []
  | item :: rest => text item :: itemTexts rest

private def memberTexts : List (String × Json) → List String
  | [] => []
  | (name, value) :: rest => (stringText name ++ ":" ++ text value) :: memberTexts rest

end

def isNull : Json → Bool
  | .null => true
  | _ => false

end Json

end RecordQuery
