/-!
Whole numbers in decimal text. Digits are the ten ASCII digits; leading zeros carry no meaning.
-/

namespace RecordQuery

/-- Why a text is no count. -/
inductive CountFault where
  | invalidDigit
  | tooLarge
  deriving DecidableEq, Repr

/-- The number that a digit stands for. -/
def digitValue (c : Char) : Nat :=
  c.toNat - 0x30

/-- Continues a decimal number. The fault is that of the first character that is no digit or
that takes the number beyond the limit. -/
def readDigitsUpTo (limit : Nat) : Nat → List Char → Except CountFault Nat
  | n, [] => .ok n
  | n, c :: cs =>
    if !c.isDigit then .error .invalidDigit
    else if limit < 10 * n + digitValue c then .error .tooLarge
    else readDigitsUpTo limit (10 * n + digitValue c) cs

/-- A count below 2^64: an optional plus sign and at least one digit. -/
def readCount (cs : List Char) : Except CountFault Nat :=
  let digits := match cs with
    | '+' :: rest => rest
    | _ => cs
  if digits.isEmpty then .error .invalidDigit else readDigitsUpTo 0xFFFFFFFFFFFFFFFF 0 digits

/-- The number that digits stand for, whatever its size. -/
def digitsValue (cs : List Char) : Nat :=
  cs.foldl (fun n c => 10 * n + digitValue c) 0

/-- At least one digit and nothing else. -/
def readNat? (cs : List Char) : Option Nat :=
  if !cs.isEmpty && cs.all Char.isDigit then some (digitsValue cs) else none

/-- An optional sign, then at least one digit. -/
def readInt? : List Char → Option Int
  | '-' :: rest => (readNat? rest).map fun n => -(n : Int)
  | '+' :: rest => (readNat? rest).map Int.ofNat
  | cs => (readNat? cs).map Int.ofNat

/-- The signed 64-bit number equal to a whole number, if there is one. -/
def int64? (n : Int) : Option Int64 :=
  if Int64.minValue.toInt ≤ n ∧ n ≤ Int64.maxValue.toInt then some (Int64.ofInt n) else none

/-- The unsigned 64-bit number equal to a whole number, if there is one. -/
def uint64? (n : Int) : Option UInt64 :=
  if 0 ≤ n ∧ n < 0x10000000000000000 then some (UInt64.ofNat n.toNat) else none

/-- A signed 64-bit number with an optional sign. -/
def readInt64? (cs : List Char) : Option Int64 :=
  (readInt? cs).bind int64?

/-- An unsigned 64-bit number with an optional plus sign. A minus sign is refused even before
zero. -/
def readUInt64? (cs : List Char) : Option UInt64 :=
  match readCount cs with
  | .ok n => some (UInt64.ofNat n)
  | .error _ => none

end RecordQuery
