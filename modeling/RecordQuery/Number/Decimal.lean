import RecordQuery.Number.Binary64
import RecordQuery.Number.Integer
import RecordQuery.Text.Cut

/-!
Double-precision numbers in decimal. Reading takes the number nearest to the written one.
Writing takes the fewest digits that read back as the same number, and of those the ones nearest
to it.
-/

namespace RecordQuery

/-- A positive number 0.d₁d₂…dₙ * 10^point. -/
structure Decimal where
  digits : List Char
  point : Int
  deriving Repr

/-- Which of two equally near decimals stands for a number. -/
inductive Tie where
  | up
  | even
  deriving DecidableEq, Repr

namespace Decimal

/-- The ratio divided by 10^k, rounded down. -/
def floorAt (num den : Nat) (k : Int) : Nat :=
  if 0 ≤ k then num / (den * Nat.pow 10 k.toNat) else num * Nat.pow 10 (-k).toNat / den

/-- The least `point` with num/den < 10^point, for a positive ratio. -/
def pointOf (num den : Nat) : Int :=
  if den ≤ num then ((Nat.toDigits 10 (num / den)).length : Int)
  else 1 - ((Nat.toDigits 10 ((den - 1) / num)).length : Int)

/-- The two ends of the interval of numbers that round to m * 2^e and the number itself, all
multiplied by one power of two; and whether the ends belong to it. -/
structure Reach where
  low : Nat
  mid : Nat
  high : Nat
  den : Nat
  closed : Bool

def reachOf (m : Nat) (e : Int) : Reach :=
  let lowGap := if m == 0x10000000000000 && e != -1074 then 1 else 2
  let scale := if 2 ≤ e then Nat.pow 2 (e - 2).toNat else 1
  let den := if 2 ≤ e then 1 else Nat.pow 2 (2 - e).toNat
  ⟨(4 * m - lowGap) * scale, 4 * m * scale, (4 * m + 2) * scale, den, m % 2 == 0⟩

/-- The decimal n * 10^k lies in the interval. -/
def Reach.holds (r : Reach) (n : Nat) (k : Int) : Bool :=
  let value := if 0 ≤ k then n * Nat.pow 10 k.toNat * r.den else n * r.den
  let unit := if 0 ≤ k then 1 else Nat.pow 10 (-k).toNat
  if r.closed then r.low * unit ≤ value && value ≤ r.high * unit
  else r.low * unit < value && value < r.high * unit

/-- The nearest of the multiples n and n + 1 of 10^k that lie in the interval. -/
def Reach.pick? (r : Reach) (tie : Tie) (k : Int) : Option Nat :=
  let below := floorAt r.mid r.den k
  match r.holds below k, r.holds (below + 1) k with
  | false, false => none
  | true, false => some below
  | false, true => some (below + 1)
  | true, true =>
    -- twice the number in units of 10^k, rounded down
    let twice := floorAt (2 * r.mid) r.den k
    let exact :=
      if 0 ≤ k then twice * Nat.pow 10 k.toNat * r.den == 2 * r.mid
      else twice * r.den == 2 * r.mid * Nat.pow 10 (-k).toNat
    if twice < 2 * below + 1 then some below
    else if !exact then some (below + 1)
    else match tie with
      | .up => some (below + 1)
      | .even => some (if below % 2 == 0 then below else below + 1)

def shortestFrom (r : Reach) (tie : Tie) (point : Int) : Nat → Nat → Nat × Int
  | 0, count => (floorAt r.mid r.den (point - count), point - count)
  | fuel + 1, count =>
    match r.pick? tie (point - count) with
    | some n => (n, point - count)
    | none => shortestFrom r tie point fuel (count + 1)

/-- The shortest decimal that reads back as a positive finite number. Seventeen digits always
do. -/
def shortest (tie : Tie) (x : Binary64) : Decimal :=
  let (m, e) := x.parts
  let r := reachOf m e
  let (n, k) := shortestFrom r tie (pointOf r.mid r.den) 17 1
  let digits := Nat.toDigits 10 n
  ⟨Text.dropEndWhile (· == '0') digits, digits.length + k⟩

/-- The digits with a point among them, never an exponent. -/
def plain (d : Decimal) : String :=
  String.ofList <|
    if d.point ≤ 0 then '0' :: '.' :: List.replicate (-d.point).toNat '0' ++ d.digits
    else
      let whole := d.digits.take d.point.toNat
      let fraction := d.digits.drop d.point.toNat
      whole ++ List.replicate (d.point.toNat - whole.length) '0'
        ++ (if fraction.isEmpty then [] else '.' :: fraction)

/-- The digits with a point after the first one, and the exponent with its sign. -/
def scientific (d : Decimal) : String :=
  let exponent := d.point - 1
  String.ofList (d.digits.take 1 ++ if d.digits.length ≤ 1 then [] else '.' :: d.digits.drop 1)
    ++ (if exponent < 0 then "e-" else "e+") ++ toString exponent.natAbs

/-- The decimal has no digit after the point. -/
def isWhole (d : Decimal) : Bool :=
  (d.digits.length : Int) ≤ d.point

end Decimal

namespace Binary64

/-- The text of a number: shortest digits, a tie going up, never an exponent. -/
def text (x : Binary64) : String :=
  if x.isNaN then "NaN"
  else
    let size :=
      if !x.isFinite then "inf"
      else if x.isZero then "0"
      else (Decimal.shortest .up x).plain
    if x.isNegative then "-" ++ size else size

/-- The number nearest to `digits * 10^exponent`. -/
def ofDecimal (negative : Bool) (digits : Nat) (exponent : Int) : Binary64 :=
  let size : Int := (Nat.toDigits 10 digits).length + exponent
  if digits == 0 || size < -330 then ofMagnitude negative 0
  else if 330 < size then infinity negative
  else if 0 ≤ exponent then ofRatio negative (digits * Nat.pow 10 exponent.toNat) 1
  else ofRatio negative digits (Nat.pow 10 (-exponent).toNat)

def readExponent? : List Char → Option Int
  | [] => some 0
  | c :: rest => if c == 'e' || c == 'E' then readInt? rest else none

def readUnsigned? (negative : Bool) (cs : List Char) : Option Binary64 :=
  match (String.ofList (cs.map Char.toLower)) with
  | "nan" => some (ofMagnitude negative nan.magnitude)
  | "inf" | "infinity" => some (infinity negative)
  | _ =>
    let whole := cs.takeWhile Char.isDigit
    let rest := cs.dropWhile Char.isDigit
    let (fraction, rest) := match rest with
      | '.' :: rest => (rest.takeWhile Char.isDigit, rest.dropWhile Char.isDigit)
      | _ => ([], rest)
    if whole.isEmpty && fraction.isEmpty then none
    else (readExponent? rest).map fun exponent =>
      ofDecimal negative (digitsValue (whole ++ fraction)) (exponent - fraction.length)

/-- The number nearest to a decimal text: an optional sign, digits with at most one point among
them, an optional exponent; or a sign and one of the words nan, inf and infinity. -/
def read? : List Char → Option Binary64
  | '-' :: rest => readUnsigned? true rest
  | '+' :: rest => readUnsigned? false rest
  | cs => readUnsigned? false cs

end Binary64

end RecordQuery
