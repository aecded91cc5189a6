import RecordQuery.Proofs.Text.Run

/-!
Texts that are put together from parts. A list is cut into the one list of parts that has a
separator between each two of them and none inside, and what a trimming leaves is the one text
that stands between blanks and has none at its ends.
-/

namespace RecordQuery.Text

section Splits

variable {α : Type} {isSeparator : α → Bool}

/-- The list is made up of the parts, with a separator between each two of them and none inside. -/
inductive Splits (isSeparator : α → Bool) : List α → List (List α) → Prop
  | last {part : List α} (inside : ∀ x ∈ part, isSeparator x = false) :
      Splits isSeparator part [part]
  | cons {part rest : List α} {x : α} {parts : List (List α)}
      (inside : ∀ y ∈ part, isSeparator y = false) (separates : isSeparator x = true)
      (later : Splits isSeparator rest parts) : Splits isSeparator (part ++ x :: rest) (part :: parts)

theorem pieces_of_inside {part : List α} (inside : ∀ x ∈ part, isSeparator x = false) :
    pieces isSeparator part = [part] := by
  induction part with
  | nil => rfl
  | cons x part ih =>
    rw [List.forall_mem_cons] at inside
    rw [pieces, inside.1, ih inside.2]

theorem pieces_of_separator {part : List α} (inside : ∀ y ∈ part, isSeparator y = false) {x : α}
    (separates : isSeparator x = true) (rest : List α) :
    pieces isSeparator (part ++ x :: rest) = part :: pieces isSeparator rest := by
  induction part with
  | nil => rw [List.nil_append, pieces, separates]
  | cons y part ih =>
    rw [List.forall_mem_cons] at inside
    rw [List.cons_append, pieces, inside.1, ih inside.2]

/-- A first element that separates nothing joins the first part. -/
theorem Splits.join {x : α} {xs : List α} {parts : List (List α)}
    (splits : Splits isSeparator xs parts) (joins : isSeparator x = false) :
    ∃ part others, parts = part :: others ∧ Splits isSeparator (x :: xs) ((x :: part) :: others) := by
  cases splits with
  | last inside => exact ⟨_, _, rfl, .last (List.forall_mem_cons.mpr ⟨joins, inside⟩)⟩
  | cons inside separates later =>
    exact ⟨_, _, rfl, .cons (List.forall_mem_cons.mpr ⟨joins, inside⟩) separates later⟩

theorem splits_pieces (xs : List α) : Splits isSeparator xs (pieces isSeparator xs) := by
  induction xs with
  | nil => exact .last nofun
  | cons x xs ih =>
    cases kind : isSeparator x with
    | true =>
      have nothing : ∀ y ∈ ([] : List α), isSeparator y = false := nofun
      rw [pieces, kind]
      exact .cons nothing kind ih
    | false =>
      obtain ⟨part, others, same, splits⟩ := ih.join kind
      rw [pieces, kind, same]
      exact splits

/-- There is exactly one way to cut a list at its separators. -/
theorem splits_iff {xs : List α} {parts : List (List α)} :
    Splits isSeparator xs parts ↔ pieces isSeparator xs = parts := by
  constructor
  · intro splits
    induction splits with
    | last inside => exact pieces_of_inside inside
    | cons inside separates _ ih => rw [pieces_of_separator inside separates, ih]
  · rintro rfl
    exact splits_pieces xs

end Splits

/-! Trimming. -/

/-- No blank stands at either end. -/
structure Trimmed (cs : List Char) : Prop where
  begins : cs.head?.any isBlank = false
  ends : cs.getLast?.any isBlank = false

/-- A text that ends with no blank does not end with blanks. -/
theorem Trimmed.eq_nil_of_blank {front back : List Char} (trimmed : Trimmed (front ++ back))
    (blank : ∀ c ∈ back, isBlank c = true) : back = [] := by
  by_contra nonempty
  have last := trimmed.ends
  rw [List.getLast?_append, List.getLast?_eq_some_getLast nonempty, Option.some_or] at last
  have blank_last := blank _ (List.getLast_mem nonempty)
  simp [blank_last] at last

/-- The text is the other one with blanks around it. -/
def Pads (cs text : List Char) : Prop :=
  ∃ lead trail, (∀ c ∈ lead, isBlank c = true) ∧ (∀ c ∈ trail, isBlank c = true) ∧
    text = lead ++ (cs ++ trail)

theorem head?_dropWhile_any {α : Type} (p : α → Bool) (xs : List α) :
    (xs.dropWhile p).head?.any p = false := by
  have first := List.head?_dropWhile_not p xs
  cases head : (xs.dropWhile p).head? with
  | none => rfl
  | some x =>
    rw [head] at first
    simpa using first

theorem dropEndWhile_run {p : Char → Bool} {cs trail : List Char}
    (ends : cs.getLast?.any p = false) (all : ∀ c ∈ trail, p c = true) :
    dropEndWhile p (cs ++ trail) = cs := by
  have reversed : ∀ c ∈ trail.reverse, p c = true := fun c mem => all c (List.mem_reverse.mp mem)
  rw [dropEndWhile, List.reverse_append, dropWhile_run reversed, List.reverse_reverse]
  rwa [List.head?_reverse]

theorem trimmed_trimChars (text : List Char) : Trimmed (trimChars text) := by
  constructor
  · -- what is dropped at the end leaves the first character, or nothing
    have first := head?_dropWhile_any isBlank text
    rcases dropEndWhile_leading isBlank (text.dropWhile isBlank) with ⟨trail, whole⟩
    rw [← whole] at first
    rw [trimChars]
    cases left : dropEndWhile isBlank (text.dropWhile isBlank) with
    | nil => rfl
    | cons c cs =>
      rw [left] at first
      exact first
  · rw [trimChars, dropEndWhile, List.getLast?_reverse]
    exact head?_dropWhile_any isBlank _

theorem pads_trimChars (text : List Char) : Pads (trimChars text) text := by
  obtain ⟨trail, blank, whole⟩ := exists_dropEndWhile_append isBlank (text.dropWhile isBlank)
  refine ⟨text.takeWhile isBlank, trail, fun c mem => List.mem_takeWhile_imp mem, blank, ?_⟩
  rw [trimChars, ← whole, List.takeWhile_append_dropWhile]

/-- A trimming leaves what stands between the blanks at both ends. -/
theorem trimChars_eq_iff {text cs : List Char} :
    trimChars text = cs ↔ Trimmed cs ∧ Pads cs text := by
  constructor
  · rintro rfl
    exact ⟨trimmed_trimChars text, pads_trimChars text⟩
  · rintro ⟨trimmed, lead, trail, lead_blank, trail_blank, rfl⟩
    cases cs with
    | nil =>
      have blank : ∀ c ∈ lead ++ ([] ++ trail), isBlank c = true := by
        rw [List.nil_append]
        exact List.forall_mem_append.mpr ⟨lead_blank, trail_blank⟩
      rw [trimChars, List.dropWhile_eq_nil_iff.mpr blank]
      rfl
    | cons c cs =>
      have begins : (c :: cs ++ trail).head?.any isBlank = false := trimmed.begins
      rw [trimChars, dropWhile_run lead_blank begins]
      exact dropEndWhile_run trimmed.ends trail_blank

theorem trimChars_eq_nil_iff {text : List Char} :
    trimChars text = [] ↔ ∀ c ∈ text, isBlank c = true := by
  rw [trimChars_eq_iff]
  constructor
  · rintro ⟨-, lead, trail, lead_blank, trail_blank, rfl⟩
    exact List.forall_mem_append.mpr ⟨lead_blank, trail_blank⟩
  · intro blank
    exact ⟨⟨rfl, rfl⟩, text, [], blank, nofun, (List.append_nil text).symm⟩

end RecordQuery.Text
