/-!
Cutting lists at separators, and searching one list in another.
-/

namespace RecordQuery.Text

/-- The part before and the part after the first separator, if there is one. -/
def cutAtFirst? (isSeparator : Char → Bool) : List Char → Option (List Char × List Char)
  | [] => none
  | c :: cs =>
    if isSeparator c then some ([], cs)
    else (cutAtFirst? isSeparator cs).map fun (before, after) => (c :: before, after)

/-- The pieces between separators. There is one piece more than there are separators. -/
def pieces {α : Type} (isSeparator : α → Bool) : List α → List (List α)
  | [] => [[]]
  | x :: xs =>
    match isSeparator x, pieces isSeparator xs with
    | true, rest => [] :: rest
    | false, piece :: rest => (x :: piece) :: rest
    | false, [] => [[x]]

/-- The elements up to the last one that fails the test. -/
def dropEndWhile {α : Type} (test : α → Bool) (xs : List α) : List α :=
  (xs.reverse.dropWhile test).reverse

/-- What stands before a suffix. -/
def stripSuffix? {α : Type} [BEq α] (suffix xs : List α) : Option (List α) :=
  if suffix.isSuffixOf xs then some (xs.take (xs.length - suffix.length)) else none

/-- The needle stands somewhere in the list as a contiguous run. -/
def occursIn {α : Type} [BEq α] (needle : List α) : List α → Bool
  | [] => needle.isEmpty
  | x :: xs => needle.isPrefixOf (x :: xs) || occursIn needle xs

end RecordQuery.Text
