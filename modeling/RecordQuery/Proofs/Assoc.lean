import RecordQuery.Assoc

/-!
Association lists whose keys ascend are finite maps: insertion and erasure keep the order, a key
is found exactly if its entry is in the list, and each of the two operations changes the entry
of its own key only.
-/

namespace RecordQuery.Assoc

variable {κ α : Type} [Ord κ]

/-- The keys ascend strictly, so that no key occurs twice. -/
def Ascending (entries : Assoc κ α) : Prop :=
  entries.Pairwise fun a b => compare a.1 b.1 = .lt

theorem eq_or_mem_of_mem_insert {key : κ} {value : α} {entries : Assoc κ α} {entry : κ × α}
    (mem : entry ∈ entries.insert key value) : entry = (key, value) ∨ entry ∈ entries := by
  induction entries with
  | nil => simpa [insert] using mem
  | cons head rest ih =>
    simp only [insert] at mem
    split at mem
    · exact List.mem_cons.mp mem
    · rcases List.mem_cons.mp mem with same | inRest
      · exact Or.inl same
      · exact Or.inr (List.mem_cons_of_mem _ inRest)
    · rcases List.mem_cons.mp mem with same | inRest
      · exact Or.inr (by simp [same])
      · exact (ih inRest).imp_right (List.mem_cons_of_mem _)

theorem erase_sublist (key : κ) (entries : Assoc κ α) :
    (entries.erase key).Sublist entries := by
  induction entries with
  | nil => exact List.Sublist.refl _
  | cons head rest ih =>
    simp only [erase]
    split
    · exact List.sublist_cons_self _ _
    · exact ih.cons_cons _

theorem Ascending.erase {entries : Assoc κ α} (ascending : entries.Ascending) (key : κ) :
    (entries.erase key).Ascending :=
  ascending.sublist (erase_sublist key entries)

section TransOrd

variable [Std.TransOrd κ]

theorem Ascending.insert {entries : Assoc κ α} (ascending : entries.Ascending) (key : κ)
    (value : α) : (entries.insert key value).Ascending := by
  induction entries with
  | nil => exact List.pairwise_singleton _ _
  | cons head rest ih =>
    obtain ⟨above, rest_ascending⟩ := List.pairwise_cons.mp ascending
    simp only [Assoc.insert]
    split
    next less =>
      refine List.pairwise_cons.mpr ⟨fun entry mem => ?_, ascending⟩
      rcases List.mem_cons.mp mem with rfl | inRest
      · exact less
      · exact Std.TransCmp.lt_trans less (above entry inRest)
    next equal =>
      refine List.pairwise_cons.mpr ⟨fun entry mem => ?_, rest_ascending⟩
      exact Std.TransCmp.lt_of_eq_of_lt equal (above entry mem)
    next greater =>
      refine List.pairwise_cons.mpr ⟨fun entry mem => ?_, ih rest_ascending⟩
      rcases eq_or_mem_of_mem_insert mem with rfl | inRest
      · exact Std.OrientedCmp.lt_of_gt greater
      · exact above entry inRest

/-- Of some entries of an ascending list, the one behind which there is no other has the greatest
key. -/
theorem Ascending.last_iff {entries : Assoc κ α} (ascending : entries.Ascending)
    (among : κ → Prop) {entry : κ × α} :
    (∃ before after, entries = before ++ entry :: after ∧ ∀ other ∈ after, ¬ among other.1) ↔
      entry ∈ entries ∧ ∀ other ∈ entries, among other.1 → compare entry.1 other.1 ≠ .lt := by
  constructor
  · rintro ⟨before, after, rfl, none_after⟩
    obtain ⟨-, -, below⟩ := List.pairwise_append.mp ascending
    refine ⟨List.mem_append_right _ List.mem_cons_self, fun other mem isAmong less => ?_⟩
    rcases List.mem_append.mp mem with earlier | rest
    · have more := Std.OrientedCmp.gt_of_lt (below other earlier entry List.mem_cons_self)
      cases less.symm.trans more
    · rcases List.mem_cons.mp rest with rfl | later
      · cases less.symm.trans Std.ReflCmp.compare_self
      · exact none_after other later isAmong
  · rintro ⟨mem, greatest⟩
    obtain ⟨before, after, rfl⟩ := List.append_of_mem mem
    obtain ⟨-, following, -⟩ := List.pairwise_append.mp ascending
    refine ⟨before, after, rfl, fun other later isAmong => ?_⟩
    have less := (List.pairwise_cons.mp following).1 other later
    exact greatest other (List.mem_append_right _ (List.mem_cons_of_mem _ later)) isAmong less

end TransOrd

section LawfulEqOrd

variable [Std.LawfulEqOrd κ]

/-- A key is found with the value of its entry. -/
theorem Ascending.find?_eq_some {entries : Assoc κ α} (ascending : entries.Ascending) {key : κ}
    {value : α} : entries.find? key = some value ↔ (key, value) ∈ entries := by
  induction entries with
  | nil => simp [find?]
  | cons head rest ih =>
    obtain ⟨above, rest_ascending⟩ := List.pairwise_cons.mp ascending
    simp only [find?, List.mem_cons]
    split
    next equal =>
      have same := Std.LawfulEqCmp.compare_beq_iff_eq.mp equal
      subst same
      constructor
      · intro found
        exact Or.inl (Prod.ext rfl (Option.some.inj found).symm)
      · rintro (here | later)
        · rw [← here]
        · simpa using above _ later
    next unequal =>
      have differ : key ≠ head.1 := mt Std.LawfulEqCmp.compare_beq_iff_eq.mpr unequal
      rw [ih rest_ascending]
      constructor
      · exact Or.inr
      · rintro (here | later)
        · exact absurd (congrArg Prod.fst here) differ
        · exact later

/-- Erasing a key leaves exactly the entries of other keys. -/
theorem Ascending.mem_erase {entries : Assoc κ α} (ascending : entries.Ascending) {key : κ}
    {entry : κ × α} : entry ∈ entries.erase key ↔ entry ∈ entries ∧ entry.1 ≠ key := by
  induction entries with
  | nil => simp [Assoc.erase]
  | cons head rest ih =>
    obtain ⟨above, rest_ascending⟩ := List.pairwise_cons.mp ascending
    simp only [Assoc.erase]
    split
    next equal =>
      have same := Std.LawfulEqCmp.compare_beq_iff_eq.mp equal
      subst same
      constructor
      · intro mem
        refine ⟨List.mem_cons_of_mem _ mem, fun same => ?_⟩
        simpa [same] using above entry mem
      · rintro ⟨mem, differ⟩
        rcases List.mem_cons.mp mem with rfl | inRest
        · exact absurd rfl differ
        · exact inRest
    next unequal =>
      have differ : key ≠ head.1 := mt Std.LawfulEqCmp.compare_beq_iff_eq.mpr unequal
      rw [List.mem_cons, ih rest_ascending, List.mem_cons]
      constructor
      · rintro (rfl | ⟨mem, other⟩)
        · exact ⟨Or.inl rfl, Ne.symm differ⟩
        · exact ⟨Or.inr mem, other⟩
      · rintro ⟨rfl | mem, other⟩
        · exact Or.inl rfl
        · exact Or.inr ⟨mem, other⟩

@[simp]
theorem find?_insert_self (key : κ) (value : α) (entries : Assoc κ α) :
    (entries.insert key value).find? key = some value := by
  induction entries with
  | nil => simp [insert, find?, Std.ReflCmp.compare_self]
  | cons head rest ih =>
    simp only [insert]
    split
    next => simp [find?, Std.ReflCmp.compare_self]
    next => simp [find?, Std.ReflCmp.compare_self]
    next greater => simp [find?, greater, ih]

/-- Putting a value under one key leaves every other key as it was. -/
theorem find?_insert_of_ne {key other : κ} (differ : other ≠ key) (value : α)
    (entries : Assoc κ α) : (entries.insert key value).find? other = entries.find? other := by
  have unequal : compare other key ≠ .eq := mt Std.LawfulEqCmp.eq_of_compare differ
  induction entries with
  | nil => simp [insert, find?, unequal]
  | cons head rest ih =>
    simp only [insert]
    split
    next => simp [find?, unequal]
    next equal =>
      simp [find?, ← Std.LawfulEqCmp.eq_of_compare equal, unequal]
    next => simp only [find?, ih]

theorem find?_insert [DecidableEq κ] (key other : κ) (value : α) (entries : Assoc κ α) :
    (entries.insert key value).find? other =
      if other = key then some value else entries.find? other := by
  split
  next same => rw [same, find?_insert_self]
  next differ => exact find?_insert_of_ne differ value entries

/-- Erasing one key leaves every other key as it was. -/
theorem find?_erase_of_ne {key other : κ} (differ : other ≠ key) (entries : Assoc κ α) :
    (entries.erase key).find? other = entries.find? other := by
  have unequal : compare other key ≠ .eq := mt Std.LawfulEqCmp.eq_of_compare differ
  induction entries with
  | nil => rfl
  | cons head rest ih =>
    simp only [erase]
    split
    next equal =>
      have same := Std.LawfulEqCmp.compare_beq_iff_eq.mp equal
      simp [find?, ← same, unequal]
    next => simp only [find?, ih]

theorem Ascending.contains_iff {entries : Assoc κ α} (ascending : entries.Ascending) {key : κ} :
    entries.contains key = true ↔ key ∈ entries.map (·.1) := by
  simp only [contains, Option.isSome_iff_exists, ascending.find?_eq_some, List.mem_map,
    Prod.exists]
  constructor
  · rintro ⟨value, mem⟩
    exact ⟨key, value, mem, rfl⟩
  · rintro ⟨_, value, mem, rfl⟩
    exact ⟨value, mem⟩

end LawfulEqOrd

section Insertion

variable [Std.TransOrd κ] [Std.LawfulEqOrd κ]

omit [Std.TransOrd κ] in
theorem ne_of_compare {a b : κ} (differ : compare a b ≠ .eq) : a ≠ b := by
  rintro rfl
  exact differ Std.ReflCmp.compare_self

/-- A key below the first one is none of the keys. -/
theorem Ascending.ne_of_lt_head {head : κ × α} {rest : Assoc κ α}
    (ascending : Ascending (head :: rest)) {key : κ} (less : compare key head.1 = .lt) :
    ∀ entry ∈ head :: rest, entry.1 ≠ key := by
  intro entry mem
  refine Ne.symm (ne_of_compare ?_)
  rcases List.mem_cons.mp mem with rfl | inRest
  · rw [less]
    decide
  · rw [Std.TransCmp.lt_trans less ((List.pairwise_cons.mp ascending).1 entry inRest)]
    decide

/-- Putting a value under a key that is there leaves the keys as they are. -/
theorem Ascending.map_fst_insert {entries : Assoc κ α} (ascending : entries.Ascending) {key : κ}
    (known : key ∈ entries.map (·.1)) (value : α) :
    (entries.insert key value).map (·.1) = entries.map (·.1) := by
  induction entries with
  | nil => cases known
  | cons head rest ih =>
    simp only [Assoc.insert]
    split
    next less =>
      obtain ⟨entry, mem, same⟩ := List.mem_map.mp known
      exact absurd same (ascending.ne_of_lt_head less entry mem)
    next equal => rw [List.map_cons, List.map_cons, Std.LawfulEqCmp.eq_of_compare equal]
    next greater =>
      have differ : key ≠ head.1 := ne_of_compare (by simp [greater])
      rw [List.map_cons, List.mem_cons] at known
      rw [List.map_cons, List.map_cons,
        ih (List.pairwise_cons.mp ascending).2 (known.resolve_left differ)]

/-- Putting a value under a key leaves exactly the entries of other keys beside it. -/
theorem Ascending.mem_insert {entries : Assoc κ α} (ascending : entries.Ascending) {key : κ}
    {value : α} {entry : κ × α} :
    entry ∈ entries.insert key value ↔
      entry = (key, value) ∨ (entry ∈ entries ∧ entry.1 ≠ key) := by
  induction entries with
  | nil => simp [Assoc.insert]
  | cons head rest ih =>
    obtain ⟨above, rest_ascending⟩ := List.pairwise_cons.mp ascending
    simp only [Assoc.insert]
    split
    next less =>
      have differ := ascending.ne_of_lt_head less entry
      rw [List.mem_cons]
      exact or_congr_right ⟨fun mem => ⟨mem, differ mem⟩, And.left⟩
    next equal =>
      have same := Std.LawfulEqCmp.eq_of_compare equal
      subst same
      have differ (mem : entry ∈ rest) : entry.1 ≠ head.1 := by
        refine Ne.symm (ne_of_compare ?_)
        rw [above entry mem]
        decide
      rw [List.mem_cons, List.mem_cons]
      constructor
      · exact Or.imp_right fun mem => ⟨Or.inr mem, differ mem⟩
      · rintro (here | ⟨rfl | mem, other⟩)
        · exact Or.inl here
        · exact absurd rfl other
        · exact Or.inr mem
    next greater =>
      have differ : head.1 ≠ key := Ne.symm (ne_of_compare (by simp [greater]))
      rw [List.mem_cons, ih rest_ascending, List.mem_cons]
      constructor
      · rintro (rfl | here | ⟨mem, other⟩)
        · exact Or.inr ⟨Or.inl rfl, differ⟩
        · exact Or.inl here
        · exact Or.inr ⟨Or.inr mem, other⟩
      · rintro (here | ⟨rfl | mem, other⟩)
        · exact Or.inr (Or.inl here)
        · exact Or.inl rfl
        · exact Or.inr (Or.inr ⟨mem, other⟩)

theorem Ascending.mem_keys_insert {entries : Assoc κ α} (ascending : entries.Ascending)
    {key other : κ} {value : α} :
    other ∈ (entries.insert key value).map (·.1) ↔ other = key ∨ other ∈ entries.map (·.1) := by
  simp only [List.mem_map, Prod.exists, exists_and_right, exists_eq_right, ascending.mem_insert,
    Prod.mk.injEq]
  by_cases same : other = key <;> simp [same]

omit [Std.TransOrd κ] in
theorem Ascending.mem_keys_erase {entries : Assoc κ α} (ascending : entries.Ascending)
    {key other : κ} :
    other ∈ (entries.erase key).map (·.1) ↔ other ∈ entries.map (·.1) ∧ other ≠ key := by
  simp only [List.mem_map, Prod.exists, exists_and_right, exists_eq_right, ascending.mem_erase]

/-- Puts entries in their places, one after another. -/
def insertAll (added : List (κ × α)) (entries : Assoc κ α) : Assoc κ α :=
  added.foldl (fun entries entry => entries.insert entry.1 entry.2) entries

omit [Std.LawfulEqOrd κ] in
theorem Ascending.insertAll {entries : Assoc κ α} (ascending : entries.Ascending)
    (added : List (κ × α)) : (insertAll added entries).Ascending := by
  induction added generalizing entries with
  | nil => exact ascending
  | cons entry rest ih => exact ih (ascending.insert entry.1 entry.2)

omit [Std.TransOrd κ] in
/-- Of the entries put under one key the last stays. -/
theorem find?_insertAll [BEq κ] [LawfulBEq κ] (key : κ) (added : List (κ × α))
    (entries : Assoc κ α) :
    (insertAll added entries).find? key = (added.reverse.lookup key).or (entries.find? key) := by
  induction added generalizing entries with
  | nil => rfl
  | cons entry rest ih =>
    have put : (entries.insert entry.1 entry.2).find? key =
        (List.lookup key [entry]).or (entries.find? key) := by
      obtain ⟨own, value⟩ := entry
      by_cases same : key = own
      · subst same
        rw [find?_insert_self, List.lookup_cons_self, Option.some_or]
      · rw [find?_insert_of_ne same, List.lookup_cons, beq_false_of_ne same]
        rfl
    change (insertAll rest (entries.insert entry.1 entry.2)).find? key = _
    rw [ih, put, List.reverse_cons, List.lookup_append, Option.or_assoc]

end Insertion

end RecordQuery.Assoc
