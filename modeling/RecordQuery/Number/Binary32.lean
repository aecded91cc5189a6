import RecordQuery.Number.Binary64

/-!
Single-precision numbers in the IEEE 754 interchange form, held as their 32 bits, with the
conversions from and to double precision. A conversion makes every NaN a quiet one.
-/

namespace RecordQuery

/-- A single-precision number, with signed zeros, infinities and every NaN. -/
structure Binary32 where
  bits : UInt32
  deriving DecidableEq, Repr, Inhabited

namespace Binary32

/-- The sign bit is set. -/
def isNegative (x : Binary32) : Bool :=
  0x80000000 ≤ x.bits.toNat

/-- All bits but the sign, read as one number. -/
def magnitude (x : Binary32) : Nat :=
  x.bits.toNat % 0x80000000

def infiniteMagnitude : Nat := 0x7F800000

def isNaN (x : Binary32) : Bool :=
  infiniteMagnitude < x.magnitude

def isFinite (x : Binary32) : Bool :=
  x.magnitude < infiniteMagnitude

/-- The number with the given sign and magnitude bits. -/
def ofMagnitude (negative : Bool) (magnitude : Nat) : Binary32 :=
  ⟨UInt32.ofNat (if negative then 0x80000000 + magnitude else magnitude)⟩

def zero : Binary32 := ⟨0⟩

/-- The m and e of a finite number of absolute value m * 2^e. -/
def parts (x : Binary32) : Nat × Int :=
  let exponent : Nat := x.magnitude / 0x800000
  let fraction := x.magnitude % 0x800000
  if exponent == 0 then (fraction, -149) else (0x800000 + fraction, (exponent : Int) - 150)

/-- The absolute value of a finite number as a ratio of whole numbers. -/
def ratio (x : Binary32) : Nat × Nat :=
  let (m, e) := x.parts
  if 0 ≤ e then (m * Nat.pow 2 e.toNat, 1) else (m, Nat.pow 2 (-e).toNat)

/-- The number nearest to a ratio. Beyond the largest finite number lies infinity. -/
def ofRatio (negative : Bool) (num den : Nat) : Binary32 :=
  if num == 0 then ofMagnitude negative 0
  else
    let (m, e) := Rounding.toBinary 24 (-149) num den
    ofMagnitude negative (min ((e + 149).toNat * 0x800000 + m) infiniteMagnitude)

/-- The number nearest to a whole number. -/
def ofInt (n : Int) : Binary32 :=
  ofRatio (n < 0) n.natAbs 1

/-- The NaN with the given sign and payload. Its highest bit says that it is quiet. -/
def quietNaN (negative : Bool) (payload : Nat) : Binary32 :=
  ofMagnitude negative
    (infiniteMagnitude + if payload < 0x400000 then 0x400000 + payload else payload)

/-- The same number, a NaN being made quiet. -/
def quieted (x : Binary32) : Binary32 :=
  if x.isNaN then quietNaN x.isNegative (x.magnitude - infiniteMagnitude) else x

/-- A NaN that is not quiet. -/
def isSignaling (x : Binary32) : Bool :=
  x.isNaN && x.magnitude < infiniteMagnitude + 0x400000

/-- The same number in double precision. The payload of a NaN takes the high bits. -/
def widen (x : Binary32) : Binary64 :=
  if x.isFinite then Binary64.ofRatio x.isNegative x.ratio.1 x.ratio.2
  else
    let payload := x.quieted.magnitude - infiniteMagnitude
    Binary64.ofMagnitude x.isNegative (Binary64.infiniteMagnitude + payload * 0x20000000)

end Binary32

/-- The nearest single-precision number. A NaN loses the low bits of its payload. -/
def Binary64.narrow (x : Binary64) : Binary32 :=
  if x.isFinite then Binary32.ofRatio x.isNegative x.ratio.1 x.ratio.2
  else if x.isNaN then
    Binary32.quietNaN x.isNegative ((x.magnitude - infiniteMagnitude) / 0x20000000)
  else Binary32.ofMagnitude x.isNegative Binary32.infiniteMagnitude

end RecordQuery
