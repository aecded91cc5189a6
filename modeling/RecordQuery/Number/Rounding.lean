/-!
Rounding of positive ratios to numbers of the form m * 2^e with a bounded m: to the nearest,
and from the middle of two neighbours to the even one.
-/

namespace RecordQuery.Rounding

/-- The quotient to the nearest whole number, a half going to the even neighbour. -/
def divideToEven (num den : Nat) : Nat :=
  let quotient := num / den
  let rest := num % den
  if 2 * rest < den then quotient
  else if den < 2 * rest then quotient + 1
  else quotient + quotient % 2

/-- The whole part of the binary logarithm of a positive ratio. -/
def log2 (num den : Nat) : Int :=
  let estimate : Int := (num.log2 : Int) - (den.log2 : Int)
  let reached :=
    if 0 ≤ estimate then den * Nat.pow 2 estimate.toNat ≤ num
    else den ≤ num * Nat.pow 2 (-estimate).toNat
  if reached then estimate else estimate - 1

/-- The ratio divided by 2^e, to the nearest whole number. -/
def scaleBy (num den : Nat) (e : Int) : Nat :=
  if 0 ≤ e then divideToEven num (den * Nat.pow 2 e.toNat)
  else divideToEven (num * Nat.pow 2 (-e).toNat) den

/-- The nearest m * 2^e to a positive ratio, where m has at most `precision` binary digits and e
is at least `minExponent`. A carry may leave m = 2^precision. -/
def toBinary (precision : Nat) (minExponent : Int) (num den : Nat) : Nat × Int :=
  let e := max (log2 num den - (precision - 1 : Nat)) minExponent
  (scaleBy num den e, e)

end RecordQuery.Rounding
