import Mathlib.Data.List.TakeWhile
import RecordQuery.Text.Blank
import RecordQuery.Text.WordChar

/-!
Runs of characters: reading a run stops where the class of its characters ends, and trimming
leaves a text alone whose ends are not blank. Blanks, letters and digits are disjoint classes,
so that each of them ends a run of another.
-/

namespace RecordQuery.Text

theorem takeWhile_run {p : Char → Bool} {run rest : List Char} (all : ∀ c ∈ run, p c = true)
    (ends : rest.head?.any p = false) : (run ++ rest).takeWhile p = run := by
  rw [List.takeWhile_append_of_pos all]
  cases rest with
  | nil => simp
  | cons c cs =>
    have stops : p c = false := by simpa using ends
    simp [stops]

theorem dropWhile_run {p : Char → Bool} {run rest : List Char} (all : ∀ c ∈ run, p c = true)
    (ends : rest.head?.any p = false) : (run ++ rest).dropWhile p = rest := by
  rw [List.dropWhile_append_of_pos all]
  cases rest with
  | nil => rfl
  | cons c cs =>
    have stops : p c = false := by simpa using ends
    simp [stops]

theorem dropWhile_eq_self {p : Char → Bool} {cs : List Char} (ends : cs.head?.any p = false) :
    cs.dropWhile p = cs := by
  have nothing : ∀ c ∈ ([] : List Char), p c = true := nofun
  exact dropWhile_run nothing ends

theorem trimChars_eq_self {cs : List Char} (first : cs.head?.any isBlank = false)
    (last : cs.getLast?.any isBlank = false) : trimChars cs = cs := by
  rw [trimChars, dropWhile_eq_self first, dropEndWhile, dropWhile_eq_self, List.reverse_reverse]
  simpa using last

/-- A text without blanks has nothing to trim. -/
theorem trimChars_tight {cs : List Char} (tight : ∀ c ∈ cs, isBlank c = false) :
    trimChars cs = cs := by
  apply trimChars_eq_self
  · rw [Option.any_eq_false]
    exact fun c head => tight c (List.mem_of_head? head)
  · rw [Option.any_eq_false]
    exact fun c last => tight c (List.mem_of_getLast? last)

theorem exists_dropEndWhile_append {α : Type} (p : α → Bool) (xs : List α) :
    ∃ trail, (∀ x ∈ trail, p x = true) ∧ xs = dropEndWhile p xs ++ trail := by
  refine ⟨(xs.reverse.takeWhile p).reverse, fun x mem => ?_, ?_⟩
  · exact List.mem_takeWhile_imp (List.mem_reverse.mp mem)
  · rw [dropEndWhile, ← List.reverse_append, List.takeWhile_append_dropWhile, List.reverse_reverse]

theorem dropEndWhile_leading {α : Type} (p : α → Bool) (xs : List α) :
    dropEndWhile p xs <+: xs := by
  obtain ⟨trail, -, whole⟩ := exists_dropEndWhile_append p xs
  exact ⟨trail, whole.symm⟩

/-- A text that begins with a character that is not blank keeps it. -/
theorem exists_trimChars_cons {c : Char} (notBlank : isBlank c = false) (cs : List Char) :
    ∃ front, trimChars (c :: cs) = c :: front ∧ front <+: cs := by
  have first : (c :: cs).dropWhile isBlank = c :: cs := dropWhile_eq_self (by simp [notBlank])
  have front := dropEndWhile_leading isBlank (c :: cs)
  rw [trimChars, first]
  rcases List.prefix_cons_iff.mp front with empty | ⟨front, same, behind⟩
  · rw [dropEndWhile, List.reverse_eq_nil_iff, List.dropWhile_eq_nil_iff] at empty
    have blank := empty c (by simp)
    rw [notBlank] at blank
    cases blank
  · exact ⟨front, same, behind⟩

theorem toNat_of_isAlpha {c : Char} (h : c.isAlpha = true) :
    (65 ≤ c.toNat ∧ c.toNat ≤ 90) ∨ (97 ≤ c.toNat ∧ c.toNat ≤ 122) := by
  change (decide (65 ≤ c.val ∧ c.val ≤ 90) || decide (97 ≤ c.val) && decide (c.val ≤ 122)) =
    true at h
  simp only [Bool.or_eq_true, Bool.and_eq_true, decide_eq_true_eq, UInt32.le_iff_toNat_le] at h
  exact h

theorem toNat_of_isDigit {c : Char} (h : c.isDigit = true) : 48 ≤ c.toNat ∧ c.toNat ≤ 57 := by
  simp only [Char.isDigit, Bool.and_eq_true, decide_eq_true_eq, UInt32.le_iff_toNat_le,
    ge_iff_le] at h
  exact h

/-- The code points of blanks, one by one. -/
def blankCodes : List Nat :=
  [0x09, 0x0A, 0x0B, 0x0C, 0x0D, 0x20, 0x85, 0xA0, 0x1680, 0x2000, 0x2001, 0x2002, 0x2003, 0x2004,
   0x2005, 0x2006, 0x2007, 0x2008, 0x2009, 0x200A, 0x2028, 0x2029, 0x202F, 0x205F, 0x3000]

theorem toNat_of_isBlank {c : Char} (h : isBlank c = true) : c.toNat ∈ blankCodes := by
  simp only [isBlank, Bool.or_eq_true, Bool.and_eq_true, decide_eq_true_eq, beq_iff_eq] at h
  simp only [blankCodes, List.mem_cons, List.not_mem_nil, or_false]
  omega

/-- No range of the set holds one of the codes. -/
def CodePoints.avoid (ranges : CodePoints) (codes : List Nat) : Bool :=
  ranges.toList.all fun (first, last) => codes.all fun n => n.blt first || last.blt n

theorem CodePoints.contains_of_avoid {ranges : CodePoints} {codes : List Nat}
    (avoid : ranges.avoid codes = true) {c : Char} (mem : c.toNat ∈ codes) :
    ranges.contains c = false := by
  rw [Bool.eq_false_iff]
  intro holds
  simp only [CodePoints.contains, Array.any_eq_true', Bool.and_eq_true, decide_eq_true_eq] at holds
  obtain ⟨⟨first, last⟩, range, lower, upper⟩ := holds
  simp only [CodePoints.avoid, List.all_eq_true] at avoid
  have outside := avoid (first, last) (Array.mem_toList_iff.mpr range) c.toNat mem
  simp only [Bool.or_eq_true, Nat.blt_eq] at outside
  omega

theorem isDecimalDigit_of_isBlank {c : Char} (h : isBlank c = true) :
    isDecimalDigit c = false := by
  have mem := toNat_of_isBlank h
  rw [isDecimalDigit]
  split
  · rw [Bool.eq_false_iff]
    intro digit
    have := toNat_of_isDigit digit
    simp only [blankCodes, List.mem_cons, List.not_mem_nil, or_false] at mem
    omega
  · exact CodePoints.contains_of_avoid (by decide +kernel) mem

theorem isWordChar_of_isBlank {c : Char} (h : isBlank c = true) : isWordChar c = false := by
  have mem := toNat_of_isBlank h
  rw [isWordChar]
  split
  · rw [Bool.eq_false_iff]
    intro word
    simp only [Char.isAlphanum, Bool.or_eq_true, beq_iff_eq] at word
    simp only [blankCodes, List.mem_cons, List.not_mem_nil, or_false] at mem
    rcases word with (alpha | digit) | rfl
    · have := toNat_of_isAlpha alpha
      omega
    · have := toNat_of_isDigit digit
      omega
    · revert mem
      decide
  · exact CodePoints.contains_of_avoid (by decide +kernel) mem

theorem isBlank_of_isAlpha {c : Char} (h : c.isAlpha = true) : isBlank c = false := by
  have range := toNat_of_isAlpha h
  rw [Bool.eq_false_iff]
  intro blank
  have code := toNat_of_isBlank blank
  simp only [blankCodes, List.mem_cons, List.not_mem_nil, or_false] at code
  omega

theorem isDecimalDigit_of_isAlpha {c : Char} (h : c.isAlpha = true) :
    isDecimalDigit c = false := by
  have range := toNat_of_isAlpha h
  have ascii : c.toNat < 0x80 := by omega
  rw [isDecimalDigit, if_pos ascii, Bool.eq_false_iff]
  intro digit
  have := toNat_of_isDigit digit
  omega

theorem isDecimalDigit_of_isDigit {c : Char} (h : c.isDigit = true) :
    isDecimalDigit c = true := by
  have range := toNat_of_isDigit h
  rw [isDecimalDigit, if_pos (by omega), h]

end RecordQuery.Text
