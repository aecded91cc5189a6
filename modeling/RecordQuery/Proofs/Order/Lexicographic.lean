/-!
Comparisons part by part. Numbers compare by the cells that hold them and then by their places
within the cell, lists by the first place where they differ, and texts that begin with parts of one
length by these parts first.
-/

namespace RecordQuery

theorem compare_natCast (m n : Nat) : compare (m : Int) (n : Int) = compare m n := by
  simp only [compare, compareOfLessAndEq, Int.ofNat_lt, Int.ofNat_inj]

/-- Two numbers compare by the cells that hold them. Within one cell they compare by any places
that lie as far apart as the numbers do. -/
theorem compare_of_cells {i j x y p q : Int} (earlier : i < j → x < y) (later : j < i → y < x)
    (within : i = j → x - y = p - q) : compare x y = (compare i j).then (compare p q) := by
  cases cells : compare i j with
  | lt =>
    rw [Int.compare_eq_lt] at cells
    exact Int.compare_eq_lt.mpr (earlier cells)
  | gt =>
    rw [Int.compare_eq_gt] at cells
    exact Int.compare_eq_gt.mpr (later cells)
  | eq =>
    rw [Int.compare_eq_eq] at cells
    have distance := within cells
    have less : x < y ↔ p < q := by omega
    have greater : y < x ↔ q < p := by omega
    simp only [Ordering.eq_then, Int.compare_eq_ite_lt, less, greater]

/-- Cells of one size: numbers compare by their quotients and then by their remainders. -/
theorem compare_div_mod {size : Int} (positive : 0 < size) (m n : Int) :
    compare m n = (compare (m / size) (n / size)).then (compare (m % size) (n % size)) := by
  have parts_m := Int.mul_ediv_add_emod m size
  have parts_n := Int.mul_ediv_add_emod n size
  apply compare_of_cells
  · intro less
    exact Int.not_le.mp fun ge => Int.not_le.mpr less (Int.ediv_le_ediv positive ge)
  · intro greater
    exact Int.not_le.mp fun ge => Int.not_le.mpr greater (Int.ediv_le_ediv positive ge)
  · intro same
    rw [same] at parts_m
    omega

/-- Lists compare by the first place where they differ, and a list that ends there comes first. -/
theorem compare_lists {α : Type} [Ord α] [LT α] [DecidableLT α] [DecidableEq α]
    (members : ∀ x y : α, compare x y = compareOfLessAndEq x y) (xs ys : List α) :
    compare xs ys = compareOfLessAndEq xs ys := by
  induction xs generalizing ys with
  | nil => cases ys <;> rfl
  | cons x xs ih =>
    cases ys with
    | nil => rfl
    | cons y ys =>
      rw [List.compare_cons_cons, ih, members]
      unfold compareOfLessAndEq
      simp only [List.cons_lt_cons_iff, List.cons.injEq]
      by_cases less : x < y
      · simp [less]
      · by_cases same : x = y
        · subst same
          simp [less]
        · simp [less, same]

namespace Text

/-- Texts compare by their characters. -/
theorem compare_toList (s t : String) : compare s t = compare s.toList t.toList := by
  rw [compare_lists fun _ _ => rfl]
  change compareOfLessAndEq s t = _
  unfold compareOfLessAndEq
  simp only [String.lt_iff, String.toList_inj]

/-- Parts of one length at the front decide first. -/
theorem compare_append {p q : List Char} (same : p.length = q.length) (r s : List Char) :
    compare (p ++ r) (q ++ s) = (compare p q).then (compare r s) := by
  induction p generalizing q with
  | nil =>
    cases q with
    | nil => rfl
    | cons d q => cases same
  | cons c p ih =>
    cases q with
    | nil => cases same
    | cons d q =>
      rw [List.cons_append, List.cons_append, List.compare_cons_cons, List.compare_cons_cons,
        ih (Nat.succ.inj same), Ordering.then_assoc]

end Text

end RecordQuery
