/-!
Association lists in ascending key order, each key at most once. They stand for finite maps
whose entries are listed by key.
-/

namespace RecordQuery

/-- Entries in ascending key order. -/
abbrev Assoc (κ α : Type) := List (κ × α)

namespace Assoc

variable {κ α : Type} [Ord κ]

/-- Puts an entry in its place. An entry of the same key is replaced. -/
def insert (key : κ) (value : α) : Assoc κ α → Assoc κ α
  | [] => [(key, value)]
  | entry :: rest =>
    match compare key entry.1 with
    | .lt => (key, value) :: entry :: rest
    | .eq => (key, value) :: rest
    | .gt => entry :: insert key value rest

/-- The value stored under a key. -/
def find? (key : κ) : Assoc κ α → Option α
  | [] => none
  | entry :: rest => if compare key entry.1 == .eq then some entry.2 else find? key rest

/-- Leaves out the entry of a key. -/
def erase (key : κ) : Assoc κ α → Assoc κ α
  | [] => []
  | entry :: rest => if compare key entry.1 == .eq then rest else entry :: erase key rest

def contains (key : κ) (entries : Assoc κ α) : Bool :=
  (find? key entries).isSome

end Assoc

end RecordQuery
