import RecordQuery.Clause
import RecordQuery.Text.Cut

/-!
Comparisons of one kind of value by the operators, and the kinds that are compared.
-/

namespace RecordQuery

/-- How values of one type compare: their order, where it exists, and the text in which
substrings are sought. -/
structure Comparison (α : Type) where
  compare? : α → α → Option Ordering
  text : α → String

namespace Comparison

variable {α : Type}

/-- Two values are equal when neither is less. -/
def same (by' : Comparison α) (x y : α) : Bool :=
  by'.compare? x y == some .eq

/-- The substring operators, on texts. -/
def textHolds (op : Operator) (text needle : String) : Bool :=
  match op with
  | .contains => Text.occursIn needle.toList text.toList
  | .startsWith => needle.toList.isPrefixOf text.toList
  | .endsWith => needle.toList.isSuffixOf text.toList
  | _ => false

/-- An operator holds between a value and operands of its type. Membership looks at all
operands, every other operator at the first one only, and without one it fails. Values that do
not compare differ. -/
def holds (by' : Comparison α) (op : Operator) (actual : α) (expected : List α) : Bool :=
  match op, expected with
  | .isIn, _ => expected.any fun e => by'.same e actual
  | .notIn, _ => !expected.any fun e => by'.same e actual
  | .isNull, _ | .isNotNull, _ => false
  | _, [] => false
  | .contains, e :: _ | .startsWith, e :: _ | .endsWith, e :: _ =>
    textHolds op (by'.text actual) (by'.text e)
  | _, e :: _ =>
    match by'.compare? actual e with
    | some ordering => (op.holdsFor? ordering).getD false
    | none => op == .ne

/-- Strings compare by their characters. -/
def strings : Comparison String :=
  ⟨fun x y => some (compare x y), id⟩

def ints : Comparison Int64 :=
  ⟨fun x y => some (compare x.toInt y.toInt), fun n => toString n.toInt⟩

def uints : Comparison UInt64 :=
  ⟨fun x y => some (compare x.toNat y.toNat), fun n => toString n.toNat⟩

def floats : Comparison Binary64 :=
  ⟨Binary64.compare?, Binary64.text⟩

/-- The number of a truth value. -/
def bit (b : Bool) : Nat :=
  if b then 1 else 0

/-- Truth values by name. False comes first. -/
def bools : Comparison Bool :=
  ⟨fun x y => some (compare (bit x) (bit y)), fun b => if b then "true" else "false"⟩

/-- Truth values as the numbers 0 and 1. -/
def bits : Comparison Nat :=
  ⟨fun x y => some (compare x y), toString⟩

end Comparison

end RecordQuery
