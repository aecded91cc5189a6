import RecordQuery.Number.Rounding

/-!
Double-precision numbers in the IEEE 754 interchange form. A number is held as its 64 bits, and
every operation is whole-number arithmetic on its fields, so nothing depends on the machine.
-/

namespace RecordQuery

/-- A double-precision number, with signed zeros, infinities and every NaN. -/
structure Binary64 where
  bits : UInt64
  deriving DecidableEq, Repr, Inhabited

namespace Binary64

/-- The sign bit is set. -/
def isNegative (x : Binary64) : Bool :=
  0x8000000000000000 ≤ x.bits.toNat

/-- All bits but the sign, read as one number. It grows with the absolute value. -/
def magnitude (x : Binary64) : Nat :=
  x.bits.toNat % 0x8000000000000000

def infiniteMagnitude : Nat := 0x7FF0000000000000

def isNaN (x : Binary64) : Bool :=
  infiniteMagnitude < x.magnitude

def isFinite (x : Binary64) : Bool :=
  x.magnitude < infiniteMagnitude

/-- Either zero. -/
def isZero (x : Binary64) : Bool :=
  x.magnitude == 0

/-- The number with the given sign and magnitude bits. -/
def ofMagnitude (negative : Bool) (magnitude : Nat) : Binary64 :=
  ⟨UInt64.ofNat (if negative then 0x8000000000000000 + magnitude else magnitude)⟩

def zero : Binary64 := ⟨0⟩

def infinity (negative : Bool) : Binary64 :=
  ofMagnitude negative infiniteMagnitude

def nan : Binary64 :=
  ofMagnitude false 0x7FF8000000000000

/-- The m and e of a finite number of absolute value m * 2^e. -/
def parts (x : Binary64) : Nat × Int :=
  let exponent : Nat := x.magnitude / 0x10000000000000
  let fraction := x.magnitude % 0x10000000000000
  if exponent == 0 then (fraction, -1074)
  else (0x10000000000000 + fraction, (exponent : Int) - 1075)

/-- The absolute value of a finite number as a ratio of whole numbers. -/
def ratio (x : Binary64) : Nat × Nat :=
  let (m, e) := x.parts
  if 0 ≤ e then (m * Nat.pow 2 e.toNat, 1) else (m, Nat.pow 2 (-e).toNat)

/-- A finite number without a part after the point. -/
def isWhole (x : Binary64) : Bool :=
  x.isFinite && x.ratio.1 % x.ratio.2 == 0

/-- The number nearest to a ratio. Beyond the largest finite number lies infinity. -/
def ofRatio (negative : Bool) (num den : Nat) : Binary64 :=
  if num == 0 then ofMagnitude negative 0
  else
    let (m, e) := Rounding.toBinary 53 (-1074) num den
    ofMagnitude negative (min ((e + 1074).toNat * 0x10000000000000 + m) infiniteMagnitude)

/-- The number nearest to a whole number. -/
def ofInt (n : Int) : Binary64 :=
  ofRatio (n < 0) n.natAbs 1

/-- The place of a number that is not NaN on the line; both zeros share one. -/
private def place (x : Binary64) : Int :=
  if x.isNegative then -(x.magnitude : Int) else x.magnitude

/-- The order of the numbers themselves. A NaN compares with nothing. -/
def compare? (x y : Binary64) : Option Ordering :=
  if x.isNaN || y.isNaN then none else some (compare x.place y.place)

/-- Equal as numbers: zeros agree, a NaN differs from itself. -/
def same (x y : Binary64) : Bool :=
  x.compare? y == some .eq

/-- The place of any number in the total order: negative NaNs, numbers with -0 before 0,
positive NaNs. -/
def rank (x : Binary64) : Int :=
  if x.isNegative then -(x.magnitude : Int) - 1 else x.magnitude

/-- The total order on all bit patterns. -/
def order (x y : Binary64) : Ordering :=
  compare x.rank y.rank

/-- The number with both zeros made one. -/
def foldZero (x : Binary64) : Binary64 :=
  if x.isZero then zero else x

/-- The number with all NaNs made one. -/
def foldNaN (x : Binary64) : Binary64 :=
  if x.isNaN then nan else x

/-- The number of opposite sign. -/
def neg (x : Binary64) : Binary64 :=
  ofMagnitude (!x.isNegative) x.magnitude

/-- The nearest number to the product of two finite numbers. -/
def mulFinite (x y : Binary64) : Binary64 :=
  ofRatio (x.isNegative != y.isNegative) (x.ratio.1 * y.ratio.1) (x.ratio.2 * y.ratio.2)

/-- The nearest number to the quotient of two finite numbers, the second of which is not zero. -/
def divFinite (x y : Binary64) : Binary64 :=
  ofRatio (x.isNegative != y.isNegative) (x.ratio.1 * y.ratio.2) (x.ratio.2 * y.ratio.1)

end Binary64

end RecordQuery
