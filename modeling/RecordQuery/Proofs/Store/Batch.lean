import Mathlib.Data.List.Induction
import RecordQuery.Proofs.Store.History

/-!
Batches of changes. A batch carries out the changes of its records one after another up to the
first record that fails. The failing record itself is left out if it fails before its entry is
changed, and counts as changed if only the hook afterwards refuses it. Entries of keys that no
changed record has stay as they are.
-/

namespace RecordQuery

/-- The operation that makes one change with each of the given records. -/
def Operation.batch {κ ρ : Type} (change : Change) (records : List ρ) : Operation κ ρ :=
  match change with
  | .create => .create records
  | .createOrUpdate => .createOrUpdate records
  | .update => .update records
  | .delete => .delete records

namespace Store

variable {κ ρ : Type} [Ord κ]

theorem perform_batch (store : Store κ ρ) (entries : Entries κ ρ) (change : Change)
    (records : List ρ) :
    store.perform entries (.batch change records) = store.changeAll change entries records := by
  cases change <;> rfl

/-- The entries after the change of one record: the record is put under its key, or the entry of
its key is left out. -/
def carryOut (store : Store κ ρ) (change : Change) (entries : Entries κ ρ) (r : ρ) :
    Entries κ ρ :=
  match store.keyOf r with
  | .error _ => entries
  | .ok key =>
    match change with
    | .create | .createOrUpdate | .update => entries.insert key r
    | .delete => entries.erase key

/-- The entries after the changes of records, one after another. -/
def carryOutAll (store : Store κ ρ) (change : Change) (entries : Entries κ ρ)
    (records : List ρ) : Entries κ ρ :=
  records.foldl (store.carryOut change) entries

section Specification

variable (store : Store κ ρ) (change : Change) (entries : Entries κ ρ)

/-- Why a record with this key cannot be changed after the earlier records of its batch. A key to
create is taken by an entry or an earlier record, and a key to update or delete has no entry, or
none that is left by the earlier records. -/
inductive KeyClash (earlier : List ρ) (key : κ) : Error → Prop
  | stored : change = .create → key ∈ entries.map (·.1) →
      KeyClash earlier key (.alreadyStored (store.keyText key))
  | created {r : ρ} : change = .create → r ∈ earlier → store.keyOf r = .ok key →
      KeyClash earlier key (.alreadyStored (store.keyText key))
  | absent : change = .update ∨ change = .delete → key ∉ entries.map (·.1) →
      KeyClash earlier key (.notStored (store.keyText key))
  | removed {r : ρ} : change = .delete → r ∈ earlier → store.keyOf r = .ok key →
      KeyClash earlier key (.notStored (store.keyText key))

/-- The record fails before its entry is changed. -/
inductive Rejected (earlier : List ρ) (r : ρ) : Error → Prop
  | hook {e : Error} : (store.runHook .before change r).2 = .error e → Rejected earlier r e
  | unkeyed {e : Error} : (store.runHook .before change r).2 = .ok () →
      store.keyOf r = .error e → Rejected earlier r e
  | clash {key : κ} {e : Error} : (store.runHook .before change r).2 = .ok () →
      store.keyOf r = .ok key → KeyClash store change entries earlier key e →
      Rejected earlier r e

/-- The record that the hook afterwards sees: the given one, or the one that was removed. -/
inductive Seen (key : κ) (r : ρ) : ρ → Prop
  | given : change ≠ .delete → Seen key r r
  | removed {old : ρ} : change = .delete → (key, old) ∈ entries → Seen key r old

/-- The entry of the record is changed, and the hook afterwards answers with the result. -/
inductive Changed (earlier : List ρ) (r : ρ) : Except Error Unit → Prop
  | intro {key : κ} {seen : ρ} {result : Except Error Unit} :
      (store.runHook .before change r).2 = .ok () → store.keyOf r = .ok key →
      (∀ e, ¬ KeyClash store change entries earlier key e) → Seen change entries key r seen →
      (store.runHook .after change seen).2 = result → Changed earlier r result

/-- Every record is changed, and no hook refuses it. -/
def AllChanged (records : List ρ) : Prop :=
  ∀ earlier r later, records = earlier ++ r :: later →
    Changed store change entries earlier r (.ok ())

/-- How many of its records a batch changes, and its result. -/
inductive BatchEnds (records : List ρ) : Nat → Except Error Unit → Prop
  | complete : AllChanged store change entries records →
      BatchEnds records records.length (.ok ())
  | rejected {earlier later : List ρ} {r : ρ} {e : Error} : records = earlier ++ r :: later →
      AllChanged store change entries earlier → Rejected store change entries earlier r e →
      BatchEnds records earlier.length (.error e)
  | refusedAfter {earlier later : List ρ} {r : ρ} {e : Error} : records = earlier ++ r :: later →
      AllChanged store change entries earlier →
      Changed store change entries earlier r (.error e) →
      BatchEnds records (earlier.length + 1) (.error e)

end Specification

section Entries

variable {store : Store κ ρ} {change : Change} {entries : Entries κ ρ}

theorem carryOut_of_error {r : ρ} {e : Error} (unkeyed : store.keyOf r = .error e) :
    store.carryOut change entries r = entries := by
  simp only [carryOut, unkeyed]

theorem carryOut_of_ne_delete {r : ρ} {key : κ} (keyed : store.keyOf r = .ok key)
    (puts : change ≠ .delete) : store.carryOut change entries r = entries.insert key r := by
  cases change with
  | create | createOrUpdate | update => simp only [carryOut, keyed]
  | delete => exact absurd rfl puts

theorem carryOut_delete {r : ρ} {key : κ} (keyed : store.keyOf r = .ok key) :
    store.carryOut .delete entries r = entries.erase key := by
  simp only [carryOut, keyed]

theorem carryOutAll_concat (earlier : List ρ) (r : ρ) :
    store.carryOutAll change entries (earlier ++ [r]) =
      store.carryOut change (store.carryOutAll change entries earlier) r := by
  simp only [carryOutAll, List.foldl_append, List.foldl_cons, List.foldl_nil]

/-- A change leaves the entries of other keys alone. -/
theorem find?_carryOut [Std.LawfulEqOrd κ] {r : ρ} {key : κ} (differ : store.keyOf r ≠ .ok key) :
    (store.carryOut change entries r).find? key = entries.find? key := by
  cases keyed : store.keyOf r with
  | error e => rw [carryOut_of_error keyed]
  | ok own =>
    have other : key ≠ own := fun same => differ (same ▸ keyed)
    by_cases removes : change = .delete
    · subst removes
      rw [carryOut_delete keyed, Assoc.find?_erase_of_ne other]
    · rw [carryOut_of_ne_delete keyed removes, Assoc.find?_insert_of_ne other]

theorem find?_carryOutAll [Std.LawfulEqOrd κ] {records : List ρ} {key : κ}
    (differ : ∀ r ∈ records, store.keyOf r ≠ .ok key) :
    (store.carryOutAll change entries records).find? key = entries.find? key := by
  induction records generalizing entries with
  | nil => rfl
  | cons r rest ih =>
    rw [List.forall_mem_cons] at differ
    change (store.carryOutAll change (store.carryOut change entries r) rest).find? key = _
    rw [ih differ.2, find?_carryOut differ.1]

variable [Std.TransOrd κ]

variable (store change) in
theorem carryOut_ascending (ascending : Assoc.Ascending entries) (r : ρ) :
    Assoc.Ascending (store.carryOut change entries r) := by
  cases keyed : store.keyOf r with
  | error e => rwa [carryOut_of_error keyed]
  | ok key =>
    by_cases removes : change = .delete
    · subst removes
      rw [carryOut_delete keyed]
      exact ascending.erase key
    · rw [carryOut_of_ne_delete keyed removes]
      exact ascending.insert key r

variable (store change) in
theorem carryOutAll_ascending (ascending : Assoc.Ascending entries) (records : List ρ) :
    Assoc.Ascending (store.carryOutAll change entries records) := by
  induction records generalizing entries with
  | nil => exact ascending
  | cons r rest ih => exact ih (carryOut_ascending store change ascending r)

variable [Std.LawfulEqOrd κ]

/-- Records that are put add their keys. -/
theorem mem_keys_carryOutAll (ascending : Assoc.Ascending entries) (puts : change ≠ .delete)
    {records : List ρ} {key : κ} :
    key ∈ (store.carryOutAll change entries records).map (·.1) ↔
      key ∈ entries.map (·.1) ∨ ∃ r ∈ records, store.keyOf r = .ok key := by
  induction records generalizing entries with
  | nil => simp [carryOutAll]
  | cons r rest ih =>
    change key ∈ (store.carryOutAll change (store.carryOut change entries r) rest).map (·.1) ↔ _
    rw [ih (carryOut_ascending store change ascending r), List.exists_mem_cons_iff, ← or_assoc]
    refine or_congr_left ?_
    cases keyed : store.keyOf r with
    | error e => simp [carryOut_of_error keyed]
    | ok own =>
      rw [carryOut_of_ne_delete keyed puts, ascending.mem_keys_insert, or_comm, Except.ok.injEq,
        eq_comm]

/-- Records that are deleted take their keys away. -/
theorem mem_keys_carryOutAll_delete (ascending : Assoc.Ascending entries) {records : List ρ}
    {key : κ} :
    key ∈ (store.carryOutAll .delete entries records).map (·.1) ↔
      key ∈ entries.map (·.1) ∧ ∀ r ∈ records, store.keyOf r ≠ .ok key := by
  induction records generalizing entries with
  | nil => simp [carryOutAll]
  | cons r rest ih =>
    change key ∈ (store.carryOutAll .delete (store.carryOut .delete entries r) rest).map (·.1) ↔ _
    rw [ih (carryOut_ascending store .delete ascending r), List.forall_mem_cons, ← and_assoc]
    refine and_congr_left' ?_
    cases keyed : store.keyOf r with
    | error e => simp [carryOut_of_error keyed]
    | ok own =>
      rw [carryOut_delete keyed, ascending.mem_keys_erase, ne_eq, ne_eq, Except.ok.injEq,
        eq_comm]

end Entries

section Steps

variable {store : Store κ ρ} {change : Change} {entries : Entries κ ρ} {earlier : List ρ} {r : ρ}
  {key : κ} {e : Error}

omit [Ord κ] in
theorem AllChanged.changed (all : AllChanged store change entries earlier) (mem : r ∈ earlier) :
    ∃ before, Changed store change entries before r (.ok ()) := by
  obtain ⟨before, after, split⟩ := List.append_of_mem mem
  exact ⟨before, all before r after split⟩

omit [Ord κ] in
/-- Records that are updated have stored keys. -/
theorem AllChanged.key_mem (all : AllChanged store .update entries earlier) (mem : r ∈ earlier)
    (keyed : store.keyOf r = .ok key) : key ∈ entries.map (·.1) := by
  obtain ⟨before, changed⟩ := all.changed mem
  cases changed with
  | intro _ keyed' free _ _ =>
    cases keyed.symm.trans keyed'
    by_contra unknown
    exact free _ (.absent (Or.inl rfl) unknown)

variable [Std.TransOrd κ] [Std.LawfulEqOrd κ]

/-- A key clashes exactly if the entries that the earlier records leave have it, when it is to be
created, or lack it, when it is to be updated or deleted. -/
theorem keyClash_iff (ascending : Assoc.Ascending entries)
    (all : AllChanged store change entries earlier) :
    KeyClash store change entries earlier key e ↔
      (change = .create ∧ key ∈ (store.carryOutAll change entries earlier).map (·.1) ∧
        e = .alreadyStored (store.keyText key)) ∨
      ((change = .update ∨ change = .delete) ∧
        key ∉ (store.carryOutAll change entries earlier).map (·.1) ∧
        e = .notStored (store.keyText key)) := by
  constructor
  · rintro (⟨rfl, stored⟩ | ⟨rfl, mem, keyed⟩ | ⟨rfl | rfl, unknown⟩ | ⟨rfl, mem, keyed⟩)
    · exact Or.inl ⟨rfl, (mem_keys_carryOutAll ascending (by decide)).mpr (Or.inl stored), rfl⟩
    · refine Or.inl ⟨rfl, ?_, rfl⟩
      exact (mem_keys_carryOutAll ascending (by decide)).mpr (Or.inr ⟨_, mem, keyed⟩)
    · refine Or.inr ⟨Or.inl rfl, fun known => ?_, rfl⟩
      rcases (mem_keys_carryOutAll ascending (by decide)).mp known with stored | ⟨r, mem, keyed⟩
      · exact unknown stored
      · exact unknown (all.key_mem mem keyed)
    · exact Or.inr ⟨Or.inr rfl, fun known =>
        unknown ((mem_keys_carryOutAll_delete ascending).mp known).1, rfl⟩
    · exact Or.inr ⟨Or.inr rfl, fun known =>
        ((mem_keys_carryOutAll_delete ascending).mp known).2 _ mem keyed, rfl⟩
  · rintro (⟨rfl, known, rfl⟩ | ⟨rfl | rfl, unknown, rfl⟩)
    · rcases (mem_keys_carryOutAll ascending (by decide)).mp known with stored | ⟨r, mem, keyed⟩
      · exact .stored rfl stored
      · exact .created rfl mem keyed
    · refine .absent (Or.inl rfl) fun stored => unknown ?_
      exact (mem_keys_carryOutAll ascending (by decide)).mpr (Or.inl stored)
    · rw [mem_keys_carryOutAll_delete ascending, not_and_or] at unknown
      rcases unknown with absent | earlierOne
      · exact .absent (Or.inr rfl) absent
      · push Not at earlierOne
        obtain ⟨r, mem, keyed⟩ := earlierOne
        exact .removed rfl mem keyed

omit [Std.TransOrd κ] in
/-- What is seen after the earlier records was there before them. -/
theorem Seen.of_carryOutAll {seen : ρ}
    (after : Seen change (store.carryOutAll change entries earlier) key r seen)
    (ascending : Assoc.Ascending entries)
    (state : Assoc.Ascending (store.carryOutAll change entries earlier))
    (free : ∀ e, ¬ KeyClash store change entries earlier key e) :
    Seen change entries key r seen := by
  cases after with
  | given puts => exact .given puts
  | removed removes there =>
    refine .removed removes (ascending.find?_eq_some.mp ?_)
    rw [← state.find?_eq_some.mpr there]
    exact (find?_carryOutAll fun r' mem keyed => free _ (.removed removes mem keyed)).symm

omit [Std.TransOrd κ] in
theorem Seen.unique {seen seen' : ρ} (ascending : Assoc.Ascending entries)
    (sees : Seen change entries key r seen) (sees' : Seen change entries key r seen') :
    seen = seen' := by
  rcases sees with puts | ⟨removes, there⟩ <;> rcases sees' with puts' | ⟨removes', there'⟩
  · rfl
  · exact absurd removes' puts
  · exact absurd removes puts'
  · have found := ascending.find?_eq_some.mpr there
    exact Option.some.inj (found.symm.trans (ascending.find?_eq_some.mpr there'))

omit [Std.TransOrd κ] in
theorem changeEntry_eq_error (ascending : Assoc.Ascending entries) :
    store.changeEntry entries key r change = .error e ↔
      (change = .create ∧ key ∈ entries.map (·.1) ∧ e = .alreadyStored (store.keyText key)) ∨
      ((change = .update ∨ change = .delete) ∧ key ∉ entries.map (·.1) ∧
        e = .notStored (store.keyText key)) := by
  rw [← ascending.contains_iff]
  cases change with
  | create => cases known : entries.contains key <;> simp [changeEntry, known, eq_comm]
  | createOrUpdate => simp [changeEntry]
  | update => cases known : entries.contains key <;> simp [changeEntry, known, eq_comm]
  | delete =>
    rw [Assoc.contains]
    cases found : entries.find? key <;> simp [changeEntry, found, eq_comm]

omit [Std.TransOrd κ] in
theorem changeEntry_eq_ok (ascending : Assoc.Ascending entries) (keyed : store.keyOf r = .ok key)
    {changed : Entries κ ρ} {seen : ρ}
    (success : store.changeEntry entries key r change = .ok (changed, seen)) :
    changed = store.carryOut change entries r ∧ Seen change entries key r seen := by
  cases change with
  | create =>
    simp only [changeEntry] at success
    split at success
    · cases success
    · cases success
      exact ⟨by simp only [carryOut, keyed], .given (by decide)⟩
  | createOrUpdate =>
    cases success
    exact ⟨by simp only [carryOut, keyed], .given (by decide)⟩
  | update =>
    simp only [changeEntry] at success
    split at success
    · cases success
      exact ⟨by simp only [carryOut, keyed], .given (by decide)⟩
    · cases success
  | delete =>
    simp only [changeEntry] at success
    split at success
    next found =>
      cases success
      exact ⟨by simp only [carryOut, keyed], .removed rfl (ascending.find?_eq_some.mp found)⟩
    next => cases success

/-- The entry of a key that does not clash is changed. -/
theorem changeEntry_of_free (ascending : Assoc.Ascending entries)
    (all : AllChanged store change entries earlier) (keyed : store.keyOf r = .ok key)
    (free : ∀ e, ¬ KeyClash store change entries earlier key e) :
    ∃ seen, Seen change entries key r seen ∧
      store.changeEntry (store.carryOutAll change entries earlier) key r change =
        .ok (store.carryOut change (store.carryOutAll change entries earlier) r, seen) := by
  have state := carryOutAll_ascending store change ascending earlier
  cases result : store.changeEntry (store.carryOutAll change entries earlier) key r change with
  | error e =>
    have clash := (keyClash_iff ascending all).mpr ((changeEntry_eq_error state).mp result)
    exact absurd clash (free e)
  | ok changed =>
    obtain ⟨same, sees⟩ := changeEntry_eq_ok state keyed result
    exact ⟨changed.2, sees.of_carryOutAll ascending state free, by rw [← same]⟩

/-- A rejected record changes nothing. -/
theorem changeOne_of_rejected (ascending : Assoc.Ascending entries)
    (all : AllChanged store change entries earlier)
    (rejected : Rejected store change entries earlier r e) :
    (store.changeOne change (store.carryOutAll change entries earlier) r).result = .error e ∧
      (store.changeOne change (store.carryOutAll change entries earlier) r).entries =
        store.carryOutAll change entries earlier := by
  cases rejected with
  | hook refuses => simp [changeOne, refuses]
  | unkeyed accepts unkeyed => simp [changeOne, accepts, unkeyed]
  | clash accepts keyed clash =>
    have state := carryOutAll_ascending store change ascending earlier
    have fails := (changeEntry_eq_error (r := r) state).mpr ((keyClash_iff ascending all).mp clash)
    simp [changeOne, accepts, keyed, fails]

/-- Any other record is changed, and the hook afterwards has the last word. -/
theorem changeOne_of_changed (ascending : Assoc.Ascending entries)
    (all : AllChanged store change entries earlier) {result : Except Error Unit}
    (changed : Changed store change entries earlier r result) :
    (store.changeOne change (store.carryOutAll change entries earlier) r).result = result ∧
      (store.changeOne change (store.carryOutAll change entries earlier) r).entries =
        store.carryOut change (store.carryOutAll change entries earlier) r := by
  cases changed with
  | intro accepts keyed free sees answers =>
    obtain ⟨seen, sees', success⟩ := changeEntry_of_free ascending all keyed free
    cases sees'.unique ascending sees
    simp [changeOne, accepts, keyed, success, answers]

end Steps

section Runs

variable {store : Store κ ρ} {change : Change} {entries : Entries κ ρ} {earlier : List ρ} {r : ρ}

omit [Ord κ] in
theorem allChanged_concat : AllChanged store change entries (earlier ++ [r]) ↔
    AllChanged store change entries earlier ∧ Changed store change entries earlier r (.ok ()) := by
  constructor
  · intro all
    refine ⟨fun before x after split => all before x (after ++ [r]) ?_, all earlier r [] rfl⟩
    simp [split]
  · rintro ⟨all, last⟩ before x after split
    rcases List.eq_nil_or_concat' after with rfl | ⟨front, y, rfl⟩
    · obtain ⟨rfl, same⟩ := List.append_inj' split rfl
      cases same
      exact last
    · rw [← List.cons_append, ← List.append_assoc] at split
      obtain ⟨inFront, -⟩ := List.append_inj' split rfl
      exact all before x front inFront

variable [Std.TransOrd κ] [Std.LawfulEqOrd κ]

/-- After records that are changed, a batch goes on with the entries that they leave. -/
theorem changeAll_append (ascending : Assoc.Ascending entries)
    (all : AllChanged store change entries earlier) (later : List ρ) :
    (store.changeAll change entries (earlier ++ later)).result =
        (store.changeAll change (store.carryOutAll change entries earlier) later).result ∧
      (store.changeAll change entries (earlier ++ later)).entries =
        (store.changeAll change (store.carryOutAll change entries earlier) later).entries := by
  induction earlier using List.reverseRecOn generalizing later with
  | nil => exact ⟨rfl, rfl⟩
  | append_singleton front r ih =>
    obtain ⟨all, changed⟩ := allChanged_concat.mp all
    obtain ⟨success, left⟩ := changeOne_of_changed ascending all changed
    rw [List.append_assoc, List.singleton_append, (ih all (r :: later)).1, (ih all (r :: later)).2,
      carryOutAll_concat, changeAll]
    simp only [success, left, and_self]

/-- A batch leaves the entries as the changes of as many records leave them. -/
theorem changeAll_of_batchEnds (ascending : Assoc.Ascending entries) {records : List ρ}
    {count : Nat} {result : Except Error Unit}
    (ends : BatchEnds store change entries records count result) :
    (store.changeAll change entries records).result = result ∧
      (store.changeAll change entries records).entries =
        store.carryOutAll change entries (records.take count) := by
  cases ends with
  | complete all =>
    obtain ⟨success, left⟩ := changeAll_append ascending all []
    rw [List.append_nil] at success left
    exact ⟨success, by rw [left, List.take_length]; rfl⟩
  | @rejected earlier later r e split all rejected =>
    subst split
    obtain ⟨fails, left⟩ := changeOne_of_rejected ascending all rejected
    obtain ⟨same_result, same_entries⟩ := changeAll_append ascending all (r :: later)
    rw [same_result, same_entries, List.take_left, changeAll]
    simp only [fails, left, and_self]
  | @refusedAfter earlier later r e split all changed =>
    subst split
    obtain ⟨fails, left⟩ := changeOne_of_changed ascending all changed
    obtain ⟨same_result, same_entries⟩ := changeAll_append ascending all (r :: later)
    have taken : (earlier ++ r :: later).take (earlier.length + 1) = earlier ++ [r] := by
      rw [List.append_cons, List.take_left' (by simp)]
    rw [same_result, same_entries, taken, carryOutAll_concat, changeAll]
    simp only [fails, left, and_self]

end Runs

end Store

end RecordQuery
