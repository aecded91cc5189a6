/-!
Sets of characters given by closed ranges of code points, the form in which the properties of
characters are tabulated.
-/

namespace RecordQuery.Text

/-- Closed ranges of code points. -/
abbrev CodePoints := Array (Nat × Nat)

namespace CodePoints

/-- Some range of the set holds the character. -/
def contains (ranges : CodePoints) (c : Char) : Bool :=
  ranges.any fun (first, last) => first ≤ c.toNat && c.toNat ≤ last

end CodePoints

end RecordQuery.Text
