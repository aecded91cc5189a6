import RecordQuery.Proofs.Assoc
import RecordQuery.Proofs.Attempt
import RecordQuery.Proofs.Store.KeyOrder
import RecordQuery.Record.Row
import RecordQuery.Store

/-!
Histories of a store. The states that a store can reach are those left by any operations, one
after another, whether each of them succeeds or fails, and with the hooks and options changed at
any time in between. In every such state the keys ascend and each record is stored under the key
that the store computes for it, so that the record of a key can be erased.
-/

namespace RecordQuery

/-- A call that may change the entries of a store, with its arguments. -/
inductive Operation (κ ρ : Type) where
  | create (records : List ρ)
  | createOrUpdate (records : List ρ)
  | update (records : List ρ)
  | delete (records : List ρ)
  | erase (key : κ)
  | updateAll (values : List (String × Value)) (clauses : List Clause)
  | deleteAll (clauses : List Clause)

namespace Store

variable {κ ρ : Type} [Ord κ]

def perform (store : Store κ ρ) (entries : Entries κ ρ) : Operation κ ρ → Outcome κ ρ
  | .create records => store.create entries records
  | .createOrUpdate records => store.createOrUpdate entries records
  | .update records => store.update entries records
  | .delete records => store.delete entries records
  | .erase key => store.erase entries key
  | .updateAll values clauses => store.updateAll entries values clauses
  | .deleteAll clauses => store.deleteAll entries clauses

/-- The entries that a store can come to hold. A failed operation leaves what it had done. A hook
need not answer alike each time: a batch leaves what its records leave one by one, and the hooks
may change in between. -/
inductive Reachable : Store κ ρ → Entries κ ρ → Prop
  | start {store : Store κ ρ} {records : List ρ} {entries : Entries κ ρ} :
      store.start records = .ok entries → Reachable store entries
  | perform {store : Store κ ρ} {entries : Entries κ ρ} (operation : Operation κ ρ) :
      Reachable store entries → Reachable store (store.perform entries operation).entries
  | configure {store : Store κ ρ} {entries : Entries κ ρ}
      (hook? : Moment → Change → Option (ρ → Except Error Unit)) (options : EvaluationOptions) :
      Reachable store entries →
      Reachable { store with hook? := hook?, options := options } entries

/-- What every operation keeps. -/
structure Consistent (store : Store κ ρ) (entries : Entries κ ρ) : Prop where
  ascending : Assoc.Ascending entries
  keyed : ∀ entry ∈ entries, store.keyOf entry.2 = .ok entry.1

/-- What a change of one record does to the entries: nothing, or the entry of the record's own
key is set to the record or left out. -/
inductive Touched (store : Store κ ρ) (entries : Entries κ ρ) (r : ρ) : Entries κ ρ → Prop
  | nothing : Touched store entries r entries
  | stored {key : κ} : store.keyOf r = .ok key → Touched store entries r (entries.insert key r)
  | removed {key : κ} : store.keyOf r = .ok key → Touched store entries r (entries.erase key)

theorem changeEntry_touched {store : Store κ ρ} {entries changed : Entries κ ρ} {key : κ}
    {r seen : ρ} {change : Change} (keyed : store.keyOf r = .ok key)
    (success : store.changeEntry entries key r change = .ok (changed, seen)) :
    Touched store entries r changed := by
  cases change with
  | create =>
    simp only [changeEntry] at success
    split at success
    · cases success
    · cases success
      exact .stored keyed
  | createOrUpdate =>
    cases success
    exact .stored keyed
  | update =>
    simp only [changeEntry] at success
    split at success
    · cases success
      exact .stored keyed
    · cases success
  | delete =>
    simp only [changeEntry] at success
    split at success
    · cases success
      exact .removed keyed
    · cases success

theorem changeOne_touched (store : Store κ ρ) (change : Change) (entries : Entries κ ρ) (r : ρ) :
    Touched store entries r (store.changeOne change entries r).entries := by
  unfold changeOne
  dsimp only
  split
  · exact .nothing
  · split
    · exact .nothing
    next key keyed =>
      split
      · exact .nothing
      next changed seen success => exact changeEntry_touched keyed success

/-- Every operation is at most one batch of changes. -/
theorem perform_eq_changeAll (store : Store κ ρ) (entries : Entries κ ρ)
    (operation : Operation κ ρ) :
    ∃ change records, (store.perform entries operation).entries =
      (store.changeAll change entries records).entries := by
  have unchanged : entries = (store.changeAll .create entries []).entries := rfl
  cases operation with
  | create records => exact ⟨.create, records, rfl⟩
  | createOrUpdate records => exact ⟨.createOrUpdate, records, rfl⟩
  | update records => exact ⟨.update, records, rfl⟩
  | delete records => exact ⟨.delete, records, rfl⟩
  | erase key =>
    simp only [perform, erase]
    split
    · exact ⟨_, _, unchanged⟩
    next r _ => exact ⟨.delete, [r], rfl⟩
  | updateAll values clauses =>
    simp only [perform, updateAll]
    split
    · exact ⟨_, _, unchanged⟩
    · split
      · exact ⟨_, _, unchanged⟩
      next merged _ => exact ⟨.update, merged, rfl⟩
  | deleteAll clauses =>
    simp only [perform, deleteAll]
    split
    · exact ⟨_, _, unchanged⟩
    next selected _ => exact ⟨.delete, selected, rfl⟩

section Consistency

variable [Std.TransOrd κ]

theorem Touched.consistent {store : Store κ ρ} {entries changed : Entries κ ρ} {r : ρ}
    (before : Consistent store entries) (touched : Touched store entries r changed) :
    Consistent store changed := by
  cases touched with
  | nothing => exact before
  | stored keyed =>
    refine ⟨before.ascending.insert _ r, fun entry mem => ?_⟩
    rcases Assoc.eq_or_mem_of_mem_insert mem with rfl | old
    · exact keyed
    · exact before.keyed entry old
  | removed keyed =>
    refine ⟨before.ascending.erase _, fun entry mem => ?_⟩
    exact before.keyed entry ((Assoc.erase_sublist _ entries).subset mem)

/-- A batch keeps the invariant, also where it stops half way. -/
theorem Consistent.changeAll {store : Store κ ρ} {entries : Entries κ ρ}
    (before : Consistent store entries) (change : Change) (records : List ρ) :
    Consistent store (store.changeAll change entries records).entries := by
  induction records generalizing entries with
  | nil => exact before
  | cons r rest ih =>
    have first := (changeOne_touched store change entries r).consistent before
    simp only [Store.changeAll]
    split
    · exact first
    · exact ih first

theorem load_consistent {store : Store κ ρ} {records : List ρ} {entries loaded : Entries κ ρ}
    (before : Consistent store entries) (success : load store.keyOf records entries = .ok loaded) :
    Consistent store loaded := by
  induction records generalizing entries with
  | nil =>
    cases success
    exact before
  | cons r rest ih =>
    obtain ⟨key, keyed, success⟩ := bind_eq_ok.mp success
    exact ih (Touched.consistent before (.stored keyed)) success

theorem Reachable.consistent {store : Store κ ρ} {entries : Entries κ ρ}
    (reached : Reachable store entries) : Consistent store entries := by
  induction reached with
  | start success => exact load_consistent ⟨List.Pairwise.nil, by simp⟩ success
  | @perform store entries operation _ ih =>
    obtain ⟨change, records, same⟩ := perform_eq_changeAll store entries operation
    rw [same]
    exact ih.changeAll change records
  | configure hook? options _ ih => exact ⟨ih.ascending, ih.keyed⟩

end Consistency

/-- The hooks of a change accept a record. -/
def HooksAccept (store : Store κ ρ) (change : Change) (r : ρ) : Prop :=
  ∀ moment hook, store.hook? moment change = some hook → hook r = .ok ()

omit [Ord κ] in
theorem runHook_of_accept {store : Store κ ρ} {change : Change} {r : ρ}
    (accept : store.HooksAccept change r) (moment : Moment) :
    (store.runHook moment change r).2 = .ok () := by
  simp only [runHook]
  split
  next hook found => exact accept moment hook found
  next => rfl

/-- The deletion of a stored record that no hook refuses. -/
theorem delete_of_accept {store : Store κ ρ} {entries : Entries κ ρ} {key : κ} {r : ρ}
    (keyed : store.keyOf r = .ok key) (stored : entries.find? key = some r)
    (accept : store.HooksAccept .delete r) :
    (store.delete entries [r]).result = .ok () ∧
      (store.delete entries [r]).entries = entries.erase key := by
  have one : (store.changeOne .delete entries r).result = .ok () ∧
      (store.changeOne .delete entries r).entries = entries.erase key := by
    simp [changeOne, runHook_of_accept accept, keyed, changeEntry, stored]
  simp [delete, changeAll, one]

/-- In every state that a store reaches, each record is stored under its own key. So the record
of a key can be erased, and unless a hook refuses that, exactly its entry is gone. -/
theorem reachable_keyed [Std.TransOrd κ] [Std.LawfulEqOrd κ] {store : Store κ ρ}
    {entries : Entries κ ρ} (reached : Reachable store entries) :
    (∀ key r, (key, r) ∈ entries → store.keyOf r = .ok key) ∧
    ∀ key r, (key, r) ∈ entries → store.HooksAccept .delete r →
      (store.erase entries key).result = .ok () ∧
      ∀ entry, entry ∈ (store.erase entries key).entries ↔ entry ∈ entries ∧ entry.1 ≠ key := by
  have consistent := reached.consistent
  refine ⟨fun key r mem => consistent.keyed (key, r) mem, fun key r mem accept => ?_⟩
  have keyed := consistent.keyed (key, r) mem
  have stored := consistent.ascending.find?_eq_some.mpr mem
  obtain ⟨result, left⟩ := delete_of_accept keyed stored accept
  simp only [erase, obtainOne, stored, result, left, true_and]
  exact fun entry => consistent.ascending.mem_erase

/-- Items with a number for key, a name and perhaps a price. -/
def sampleColumns : List ColumnSpec :=
  [⟨"id", "u8", .int .uint8, .field, true⟩, ⟨"name", "String", .string, .field, true⟩,
    ⟨"price", "Option<u8>", .option (.int .uint8), .field, true⟩]

def sampleKeyType : KeyType := .int .uint8

def sampleNumber (n : UInt8) : Ranged .uint8 :=
  ⟨n.toNat, by
    have := n.toNat_lt
    simp only [IntType.least, IntType.greatest]
    omega⟩

def sampleItem (id : UInt8) (name : String) (price : Option UInt8) : Row sampleColumns :=
  (sampleNumber id, name, price.map sampleNumber, ())

/-- A store of items that lets only items without a price be deleted. -/
def sampleStore : Store sampleKeyType.Carrier (Row sampleColumns) where
  schema := Row.schema "Item" sampleColumns
  keyOf := (Row.schema "Item" sampleColumns).idOf sampleKeyType.fieldType.ofValue
  keyText := sampleKeyType.text
  hook?
    | .before, .delete => some fun (_, _, price, _) =>
      if price.isSome then .error (.refused "priced") else .ok ()
    | _, _ => none

/-- What the sample store holds after a batch whose second item is stored already. -/
def sampleEntries : Entries sampleKeyType.Carrier (Row sampleColumns) :=
  [(sampleNumber 2, sampleItem 2 "b" none), (sampleNumber 3, sampleItem 3 "a" (some 5)),
    (sampleNumber 7, sampleItem 7 "a" none)]

theorem sampleEntries_reachable : Reachable sampleStore sampleEntries := by
  have started : sampleStore.start [sampleItem 7 "a" none, sampleItem 2 "b" none] =
      .ok [(sampleNumber 2, sampleItem 2 "b" none), (sampleNumber 7, sampleItem 7 "a" none)] := rfl
  exact (Reachable.start started).perform
    (.create [sampleItem 3 "a" (some 5), sampleItem 2 "c" none])

/-- An item without a price can be erased. -/
theorem reachable_keyed_sample :
    (sampleStore.erase sampleEntries (sampleNumber 7)).result = .ok () ∧
      ∀ entry, entry ∈ (sampleStore.erase sampleEntries (sampleNumber 7)).entries ↔
        entry ∈ sampleEntries ∧ entry.1 ≠ sampleNumber 7 := by
  refine (reachable_keyed sampleEntries_reachable).2 (sampleNumber 7) (sampleItem 7 "a" none)
    (.tail _ (.tail _ (.head _))) ?_
  intro moment hook found
  cases moment with
  | before =>
    cases found
    rfl
  | after => cases found

end Store

end RecordQuery
