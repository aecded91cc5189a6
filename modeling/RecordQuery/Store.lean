import RecordQuery.Query
import RecordQuery.Text.Quoted

/-!
Stores of records by key. A store answers queries over its records in key order, and changes by
batches of creations, updates and deletions, around each of which hooks may run. A batch stops at
the first record that fails; the records before it stay applied.
-/

namespace RecordQuery

/-- What a batch does with each of its records. -/
inductive Change where
  | create | createOrUpdate | update | delete
  deriving DecidableEq, Repr

/-- When a hook runs. -/
inductive Moment where
  | before | after
  deriving DecidableEq, Repr

/-- The rules of a store: how its records are read, keyed and queried, and its hooks. -/
structure Store (κ ρ : Type) where
  schema : Schema ρ
  keyOf : ρ → Except Error κ
  /-- The text of a key in messages. -/
  keyText : κ → String
  hook? : Moment → Change → Option (ρ → Except Error Unit) := fun _ _ => none
  options : EvaluationOptions := {}

/-- The records of a store by key. -/
abbrev Entries (κ ρ : Type) := Assoc κ ρ

/-- A call of a hook with the record that it saw. -/
structure HookCall (ρ : Type) where
  moment : Moment
  change : Change
  record : ρ

/-- What an operation leaves: the entries, the hooks that ran, and whether it succeeded. -/
structure Outcome (κ ρ : Type) where
  entries : Entries κ ρ
  calls : List (HookCall ρ)
  result : Except Error Unit

namespace Store

variable {κ ρ : Type} [Ord κ]

/-- The entries of records by their keys. Of records with one key the last stays. -/
def load (keyOf : ρ → Except Error κ) : List ρ → Entries κ ρ → Except Error (Entries κ ρ)
  | [], entries => .ok entries
  | r :: rest, entries => do
    let key ← keyOf r
    load keyOf rest (entries.insert key r)

/-- The entries that a store starts with. -/
def start (store : Store κ ρ) (records : List ρ) : Except Error (Entries κ ρ) :=
  load store.keyOf records []

/-- The records in key order. -/
def records (entries : Entries κ ρ) : List ρ :=
  entries.map (·.2)

/-- The number of records that satisfy the conditions. No other clause counts. -/
def count (store : Store κ ρ) (entries : Entries κ ρ) (clauses : List Clause) :
    Except Error Nat := do
  let found ← (Query.ofClauses clauses).onlyConditions.run store.schema store.options
    (records entries)
  return found.length

/-- The records that the clauses select. -/
def obtainAll (store : Store κ ρ) (entries : Entries κ ρ) (clauses : List Clause) :
    Except Error (List ρ) :=
  (Query.ofClauses clauses).run store.schema store.options (records entries)

/-- The record of a key. -/
def obtainOne (store : Store κ ρ) (entries : Entries κ ρ) (key : κ) : Except Error ρ :=
  match entries.find? key with
  | some r => .ok r
  | none => .error (.notStored (store.keyText key))

/-- Runs the hook of a moment, if there is one. -/
def runHook (store : Store κ ρ) (moment : Moment) (change : Change) (r : ρ) :
    List (HookCall ρ) × Except Error Unit :=
  match store.hook? moment change with
  | some hook => ([⟨moment, change, r⟩], hook r)
  | none => ([], .ok ())

/-- Changes the entry of a key. Also gives the record that the hook afterwards sees: the stored
one, or the removed one. -/
def changeEntry (store : Store κ ρ) (entries : Entries κ ρ) (key : κ) (r : ρ) :
    Change → Except Error (Entries κ ρ × ρ)
  | .create =>
    if entries.contains key then .error (.alreadyStored (store.keyText key))
    else .ok (entries.insert key r, r)
  | .createOrUpdate => .ok (entries.insert key r, r)
  | .update =>
    if entries.contains key then .ok (entries.insert key r, r)
    else .error (.notStored (store.keyText key))
  | .delete =>
    match entries.find? key with
    | some removed => .ok (entries.erase key, removed)
    | none => .error (.notStored (store.keyText key))

/-- Changes one record: hook, key, entry, hook. -/
def changeOne (store : Store κ ρ) (change : Change) (entries : Entries κ ρ) (r : ρ) :
    Outcome κ ρ :=
  let (calls, result) := store.runHook .before change r
  match result with
  | .error e => ⟨entries, calls, .error e⟩
  | .ok () =>
    match store.keyOf r with
    | .error e => ⟨entries, calls, .error e⟩
    | .ok key =>
      match store.changeEntry entries key r change with
      | .error e => ⟨entries, calls, .error e⟩
      | .ok (changed, seen) =>
        let (callsAfter, result) := store.runHook .after change seen
        ⟨changed, calls ++ callsAfter, result⟩

/-- Changes records in order, up to the first that fails. -/
def changeAll (store : Store κ ρ) (change : Change) (entries : Entries κ ρ) :
    List ρ → Outcome κ ρ
  | [] => ⟨entries, [], .ok ()⟩
  | r :: rest =>
    let first := store.changeOne change entries r
    match first.result with
    | .error _ => first
    | .ok () =>
      let others := store.changeAll change first.entries rest
      { others with calls := first.calls ++ others.calls }

/-- Adds records whose keys are free. -/
def create (store : Store κ ρ) (entries : Entries κ ρ) (records : List ρ) : Outcome κ ρ :=
  store.changeAll .create entries records

/-- Adds records, or replaces those stored under their keys. -/
def createOrUpdate (store : Store κ ρ) (entries : Entries κ ρ) (records : List ρ) :
    Outcome κ ρ :=
  store.changeAll .createOrUpdate entries records

/-- Replaces records stored under the keys of the given ones. -/
def update (store : Store κ ρ) (entries : Entries κ ρ) (records : List ρ) : Outcome κ ρ :=
  store.changeAll .update entries records

/-- Removes the records stored under the keys of the given ones. -/
def delete (store : Store κ ρ) (entries : Entries κ ρ) (records : List ρ) : Outcome κ ρ :=
  store.changeAll .delete entries records

/-- Nothing happened but an error. -/
def failed (entries : Entries κ ρ) (e : Error) : Outcome κ ρ :=
  ⟨entries, [], .error e⟩

/-- Removes the record of a key. -/
def erase (store : Store κ ρ) (entries : Entries κ ρ) (key : κ) : Outcome κ ρ :=
  match store.obtainOne entries key with
  | .error e => failed entries e
  | .ok r => store.delete entries [r]

/-- The record with values merged into it, if its key stays the same. -/
def mergeKeepingKey (store : Store κ ρ) (values : List (String × Value)) (r : ρ) :
    Except Error ρ := do
  let key ← store.keyOf r
  let (merged, result) := store.schema.merge r values
  result
  let keyAfter ← store.keyOf merged
  if compare keyAfter key == .eq then return merged
  else throw (.keyChanged (store.keyText key) (store.keyText keyAfter))

/-- Merges values into all selected records and stores them. Nothing is stored unless all of
them merge and keep their keys. -/
def updateAll (store : Store κ ρ) (entries : Entries κ ρ) (values : List (String × Value))
    (clauses : List Clause) : Outcome κ ρ :=
  match store.obtainAll entries clauses with
  | .error e => failed entries e
  | .ok selected =>
    match selected.mapM (store.mergeKeepingKey values) with
    | .error e => failed entries e
    | .ok merged => store.update entries merged

/-- Removes all selected records. -/
def deleteAll (store : Store κ ρ) (entries : Entries κ ρ) (clauses : List Clause) :
    Outcome κ ρ :=
  match store.obtainAll entries clauses with
  | .error e => failed entries e
  | .ok selected => store.delete entries selected

private def semanticsName : NullSemantics → String
  | .strict => "Strict"
  | .zeroValue => "ZeroValue"

private def placementName : NullPlacement → String
  | .first => "First"
  | .last => "Last"

/-- A description of the store: its keys, each as the quoted text of the key, and its options. -/
def describe (store : Store κ ρ) (entries : Entries κ ρ) : String :=
  let keys := entries.map fun entry => Text.quoted (store.keyText entry.1)
  let semantics := semanticsName store.options.nullSemantics
  "DummyRepository \x7b keys: [" ++ ", ".intercalate keys
    ++ "], evaluator: Evaluator \x7b options: EvaluatorOptions \x7b null_semantics: " ++ semantics
    ++ ", nulls: " ++ placementName store.options.nulls
    ++ " \x7d, comparator: Comparator \x7b null_semantics: " ++ semantics ++ " \x7d \x7d, .. \x7d"

end Store

end RecordQuery
