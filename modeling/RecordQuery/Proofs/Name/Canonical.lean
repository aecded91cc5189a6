import Mathlib.Data.List.Infix
import RecordQuery.Proofs.Assoc
import RecordQuery.Proofs.Text.Run
import RecordQuery.Value

/-!
Canonical names. The canonical form of a name loses one plural ending and not more. A relation is
always found under the name by which it was stored. Its canonical name is put into canonical form
once more when it is looked up, so it finds the relation exactly if no further ending is left.
-/

namespace RecordQuery

namespace Text

variable {α : Type} [BEq α] [LawfulBEq α]

theorem stripSuffix?_eq_some {suffix xs stem : List α} :
    stripSuffix? suffix xs = some stem ↔ xs = stem ++ suffix := by
  simp only [stripSuffix?, Option.ite_none_right_eq_some, List.isSuffixOf_iff_suffix,
    Option.some.injEq]
  constructor
  · rintro ⟨⟨front, rfl⟩, rfl⟩
    simp
  · rintro rfl
    simp

theorem stripSuffix?_eq_none {suffix xs : List α} :
    stripSuffix? suffix xs = none ↔ ¬ suffix <:+ xs := by
  simp [stripSuffix?]

end Text

namespace Name

open Text

theorem plainChars_append (cs ds : List Char) :
    plainChars (cs ++ ds) = plainChars cs ++ plainChars ds := by
  simp only [plainChars, List.flatMap_append, List.filter_append]

theorem cons_suffix_append {c : Char} {stem ending : List Char} :
    c :: ending <:+ stem ++ ending ↔ stem.getLast? = some c := by
  rw [← List.singleton_append, List.suffix_append_self_iff,
    List.singleton_suffix_iff_getLast?_eq_some]

/-- How a word ends, as far as its singular depends on that. -/
inductive Ending : List Char → Prop
  | ies (stem : List Char) : Ending (stem ++ ['i', 'e', 's'])
  | es {stem : List Char} : stem.getLast? ≠ some 'i' → Ending (stem ++ ['e', 's'])
  | s {stem : List Char} : stem.getLast? ≠ some 'e' → Ending (stem ++ ['s'])
  | other {cs : List Char} : cs.getLast? ≠ some 's' → Ending cs

theorem ending (cs : List Char) : Ending cs := by
  by_cases s : cs.getLast? = some 's'
  · obtain ⟨front, rfl⟩ := List.getLast?_eq_some_iff.mp s
    by_cases e : front.getLast? = some 'e'
    · obtain ⟨front, rfl⟩ := List.getLast?_eq_some_iff.mp e
      rw [List.append_assoc]
      by_cases i : front.getLast? = some 'i'
      · obtain ⟨stem, rfl⟩ := List.getLast?_eq_some_iff.mp i
        rw [List.append_assoc]
        exact .ies stem
      · exact .es i
    · exact .s e
  · exact .other s

theorem singularChars_ies (stem : List Char) :
    singularChars (stem ++ ['i', 'e', 's']) = stem ++ ['y'] := by
  rw [singularChars, stripSuffix?_eq_some.mpr rfl]

theorem singularChars_es {stem : List Char} (last : stem.getLast? ≠ some 'i') :
    singularChars (stem ++ ['e', 's']) = stem := by
  rw [singularChars, stripSuffix?_eq_none.mpr (mt cons_suffix_append.mp last),
    stripSuffix?_eq_some.mpr rfl]

theorem singularChars_s {stem : List Char} (last : stem.getLast? ≠ some 'e') :
    singularChars (stem ++ ['s']) = stem := by
  have not_es : ¬ ['e', 's'] <:+ stem ++ ['s'] := mt cons_suffix_append.mp last
  have not_ies : ¬ ['i', 'e', 's'] <:+ stem ++ ['s'] :=
    mt (List.suffix_cons 'i' ['e', 's']).trans not_es
  rw [singularChars, stripSuffix?_eq_none.mpr not_ies, stripSuffix?_eq_none.mpr not_es,
    stripSuffix?_eq_some.mpr rfl]

theorem singularChars_other {cs : List Char} (last : cs.getLast? ≠ some 's') :
    singularChars cs = cs := by
  have not_s : ¬ ['s'] <:+ cs := mt List.singleton_suffix_iff_getLast?_eq_some.mp last
  have not_es : ¬ ['e', 's'] <:+ cs := mt (List.suffix_cons 'e' ['s']).trans not_s
  have not_ies : ¬ ['i', 'e', 's'] <:+ cs := mt (List.suffix_cons 'i' ['e', 's']).trans not_es
  rw [singularChars, stripSuffix?_eq_none.mpr not_ies, stripSuffix?_eq_none.mpr not_es,
    stripSuffix?_eq_none.mpr not_s]

/-- Only a word without a final `s` is its own singular. -/
theorem singularChars_eq_self_iff {cs : List Char} :
    singularChars cs = cs ↔ cs.getLast? ≠ some 's' := by
  refine ⟨fun same => ?_, singularChars_other⟩
  cases ending cs with
  | ies stem => simp [singularChars_ies] at same
  | es last => simp [singularChars_es last] at same
  | s last => simp [singularChars_s last] at same
  | other last => exact last

/-- An `s` is left at the end of a singular if one precedes the plural ending `s` or `es`. -/
theorem getLast?_singularChars {cs : List Char} :
    (singularChars cs).getLast? = some 's' ↔ ['s', 's'] <:+ cs ∨ ['s', 'e', 's'] <:+ cs := by
  cases ending cs with
  | ies stem => simp [singularChars_ies, ← List.reverse_prefix]
  | @es stem last =>
    have not_ss : ¬ ['s', 's'] <:+ stem ++ ['e', 's'] := by simp [← List.reverse_prefix]
    rw [singularChars_es last, cons_suffix_append, or_iff_right not_ss]
  | @s stem last =>
    have not_ses : ¬ ['s', 'e', 's'] <:+ stem ++ ['s'] := fun ses =>
      last (cons_suffix_append.mp ((List.suffix_cons 's' ['e', 's']).trans ses))
    rw [singularChars_s last, cons_suffix_append, or_iff_left not_ses]
  | other last =>
    have not_s : ¬ ['s'] <:+ cs := mt List.singleton_suffix_iff_getLast?_eq_some.mp last
    have not_ss : ¬ ['s', 's'] <:+ cs := mt (List.suffix_cons 's' ['s']).trans not_s
    have not_ses : ¬ ['s', 'e', 's'] <:+ cs := mt (List.suffix_append ['s', 'e'] ['s']).trans not_s
    simp [singularChars_other last, last, not_ss, not_ses]

/-- The characters of canonical names. -/
def isPlain (c : Char) : Bool :=
  c.isLower || c.isDigit

/-- What holds of the first 128 code points one by one holds of every ASCII character. -/
theorem forall_ascii {p : Char → Prop} (each : ∀ n < 0x80, p (Char.ofNat n)) {c : Char}
    (ascii : c.toNat < 0x80) : p c :=
  c.ofNat_toNat ▸ each c.toNat ascii

theorem ascii_of_isPlain {c : Char} (plain : isPlain c = true) : c.toNat < 0x80 := by
  rw [isPlain, Bool.or_eq_true] at plain
  rcases plain with lower | digit
  · have letter : c.isAlpha = true := (Bool.or_eq_true _ _).mpr (Or.inr lower)
    have := toNat_of_isAlpha letter
    omega
  · have := toNat_of_isDigit digit
    omega

theorem small_of_isPlain {c : Char} (plain : isPlain c = true) : small c = [c] :=
  forall_ascii (p := fun c => isPlain c = true → small c = [c]) (by decide +kernel)
    (ascii_of_isPlain plain) plain

theorem isPlain_of_mem_plainChars {cs : List Char} {c : Char} (mem : c ∈ plainChars cs) :
    isPlain c = true :=
  (List.mem_filter.mp mem).2

theorem plainChars_eq_self {cs : List Char} (plain : ∀ c ∈ cs, isPlain c = true) :
    plainChars cs = cs := by
  have small_eq : cs.flatMap small = cs := by
    rw [List.flatMap_congr fun c mem => small_of_isPlain (plain c mem), List.flatMap_singleton']
  rw [plainChars, small_eq]
  exact List.filter_eq_self.mpr plain

theorem mem_of_mem_singularChars {cs : List Char} {c : Char} (mem : c ∈ singularChars cs) :
    c = 'y' ∨ c ∈ cs := by
  cases ending cs with
  | ies stem =>
    rw [singularChars_ies, List.mem_append, List.mem_singleton] at mem
    exact mem.symm.imp_right (List.mem_append_left _)
  | es last =>
    rw [singularChars_es last] at mem
    exact Or.inr (List.mem_append_left _ mem)
  | s last =>
    rw [singularChars_s last] at mem
    exact Or.inr (List.mem_append_left _ mem)
  | other last =>
    rw [singularChars_other last] at mem
    exact Or.inr mem

/-- A canonical name has no more to lose than its ending. -/
theorem toList_canonical (name : String) :
    plainChars (canonical name).toList = singularChars (plainChars name.toList) := by
  rw [canonical, String.toList_ofList]
  refine plainChars_eq_self fun c mem => ?_
  rcases mem_of_mem_singularChars mem with rfl | inWord
  · rfl
  · exact isPlain_of_mem_plainChars inWord

/-- An `s` is left at the end of the canonical form of the name. -/
def KeepsFinalS (name : String) : Prop :=
  ['s', 's'] <:+ plainChars name.toList ∨ ['s', 'e', 's'] <:+ plainChars name.toList

instance (name : String) : Decidable (KeepsFinalS name) :=
  inferInstanceAs (Decidable (_ ∨ _))

/-- Taking the canonical form twice is the same as once unless an `s` is left at its end. -/
theorem canonical_canonical_iff (name : String) :
    canonical (canonical name) = canonical name ↔ ¬ KeepsFinalS name := by
  rw [canonical, toList_canonical, canonical, String.ofList_inj, singularChars_eq_self_iff, ne_eq,
    getLast?_singularChars, KeepsFinalS]

end Name

namespace Snapshot

open Name

/-- A new relation is found under every name of its canonical form, and hides no other one. -/
theorem relation?_withForward (s related : Snapshot) (name other : String) :
    (s.withForward name related).relation? other =
      if canonical other = canonical name then some related else s.relation? other := by
  change ((s.forward.insert (canonical name) related).find? (canonical other)).or
    (s.back.find? (canonical other)) = _
  rw [Assoc.find?_insert]
  split
  next => exact Option.some_or
  next => rfl

/-- A new back relation is found so as well, unless a forward relation hides it. -/
theorem relation?_withBack (s related : Snapshot) (name other : String) :
    (s.withBack name related).relation? other =
      if canonical other = canonical name then (s.forward.find? (canonical name)).or (some related)
      else s.relation? other := by
  change (s.forward.find? (canonical other)).or
    ((s.back.insert (canonical name) related).find? (canonical other)) = _
  rw [Assoc.find?_insert]
  split
  next same => rw [same]
  next => rfl

/-- A relation is always found under the name that it was stored by. Its canonical name finds it,
and is its own canonical form, exactly if no `s` is left at its end. Otherwise the canonical name
finds what it found before. -/
theorem relation?_canonical (name : String) :
    (∀ s related : Snapshot, (s.withForward name related).relation? name = some related) ∧
    (∀ s related : Snapshot, (s.withForward name related).relation? (canonical name) =
      if KeepsFinalS name then s.relation? (canonical name) else some related) ∧
    (∀ s related : Snapshot, (s.withBack name related).relation? (canonical name) =
      if KeepsFinalS name then s.relation? (canonical name)
      else (s.forward.find? (canonical name)).or (some related)) ∧
    (canonical (canonical name) = canonical name ↔ ¬ KeepsFinalS name) := by
  refine ⟨fun s related => ?_, fun s related => ?_, fun s related => ?_,
    canonical_canonical_iff name⟩
  · rw [relation?_withForward, if_pos rfl]
  · simp only [relation?_withForward, canonical_canonical_iff, ite_not]
  · simp only [relation?_withBack, canonical_canonical_iff, ite_not]

/-- The relation `Addresses` is stored as `address`, a name that is looked up as `addres`. -/
theorem relation?_address :
    canonical "Addresses" = "address" ∧ canonical "address" = "addres" ∧
      (empty.withForward "Addresses" ⟨[("id", .scalar (.int 1))], [], []⟩).relation? "address" =
        none := by
  have stored : canonical "Addresses" = "address" := by decide +kernel
  have soughtAs : canonical "address" = "addres" := by decide +kernel
  refine ⟨stored, soughtAs, ?_⟩
  rw [relation?_withForward, stored, soughtAs]
  rfl

end Snapshot

end RecordQuery
