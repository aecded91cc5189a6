import RecordQuery.Proofs.Name.Canonical

/-!
Table names and the relations that they lead to. A table is named by the plural of a record's name
in lower case, and a relation is stored under the canonical form of that name. The two meet exactly
if the canonical form drops the ending that the plural put on.
-/

namespace RecordQuery

namespace Name

open Text

/-- The characters that a capital, or any other character, becomes inside a name. -/
def snakePart (c : Char) : List Char :=
  if isCapital c then '_' :: small c else [c]

theorem plainChars_snakePart {c : Char} (ascii : c.toNat < 0x80) :
    plainChars (snakePart c) = plainChars [c] :=
  forall_ascii (p := fun c => plainChars (snakePart c) = plainChars [c]) (by decide +kernel) ascii

theorem plainChars_small {c : Char} (ascii : c.toNat < 0x80) :
    plainChars (small c) = plainChars [c] :=
  forall_ascii (p := fun c => plainChars (small c) = plainChars [c]) (by decide +kernel) ascii

theorem getLast?_snakePart {c : Char} (ascii : c.toNat < 0x80) :
    (snakePart c).getLast? = some c.toLower :=
  forall_ascii (p := fun c => (snakePart c).getLast? = some c.toLower) (by decide +kernel) ascii

/-- Words in lower case have the same letters and digits as the name that they come from. -/
theorem plainChars_snakeChars {cs : List Char} (ascii : ∀ c ∈ cs, c.toNat < 0x80) :
    plainChars (snakeChars cs) = plainChars cs := by
  have inner {cs : List Char} (ascii : ∀ c ∈ cs, c.toNat < 0x80) :
      plainChars (cs.flatMap snakePart) = plainChars cs := by
    induction cs with
    | nil => rfl
    | cons c cs ih =>
      rw [List.forall_mem_cons] at ascii
      rw [List.flatMap_cons, plainChars_append, plainChars_snakePart ascii.1, ih ascii.2,
        ← plainChars_append, List.singleton_append]
  cases cs with
  | nil => rfl
  | cons c cs =>
    rw [List.forall_mem_cons] at ascii
    change plainChars (small c ++ cs.flatMap snakePart) = _
    rw [plainChars_append, plainChars_small ascii.1, inner ascii.2, ← plainChars_append,
      List.singleton_append]

theorem getLast?_snakeChars {cs : List Char} (ascii : ∀ c ∈ cs, c.toNat < 0x80) :
    (snakeChars cs).getLast? = cs.getLast?.map Char.toLower := by
  rcases List.eq_nil_or_concat' cs with rfl | ⟨front, c, rfl⟩
  · rfl
  have last_ascii : c.toNat < 0x80 := ascii c (by simp)
  rw [List.getLast?_concat, Option.map_some]
  cases front with
  | nil =>
    change (small c ++ []).getLast? = _
    rw [List.append_nil, small, if_pos last_ascii, List.getLast?_singleton]
  | cons d front =>
    change (small d ++ (front ++ [c]).flatMap snakePart).getLast? = _
    rw [List.flatMap_append, List.flatMap_singleton, ← List.append_assoc, List.getLast?_append,
      getLast?_snakePart last_ascii, Option.some_or]

theorem plainChars_append_of_plain (cs : List Char) {ending : List Char}
    (plain : ending.all isPlain = true) :
    plainChars (cs ++ ending) = plainChars cs ++ ending := by
  rw [plainChars_append, plainChars_eq_self (List.all_eq_true.mp plain)]

/-- A word with an `s` added to it has the singular of the word itself, unless the word ends in
`e`, which is dropped with the `s`, or in `s`, which is dropped from the word itself only. -/
theorem singularChars_append_s {cs : List Char} :
    singularChars (cs ++ ['s']) = singularChars cs ↔
      cs.getLast? ≠ some 'e' ∧ cs.getLast? ≠ some 's' := by
  by_cases e : cs.getLast? = some 'e'
  · obtain ⟨front, rfl⟩ := List.getLast?_eq_some_iff.mp e
    have itself : singularChars (front ++ ['e']) = front ++ ['e'] :=
      singularChars_other (by simp)
    have shorter : singularChars (front ++ ['e', 's']) ≠ front ++ ['e'] := by
      by_cases i : front.getLast? = some 'i'
      · obtain ⟨stem, rfl⟩ := List.getLast?_eq_some_iff.mp i
        simp [singularChars_ies stem]
      · simp [singularChars_es i]
    simp [itself, shorter]
  · rw [singularChars_s e, eq_comm, singularChars_eq_self_iff]
    exact (and_iff_right e).symm

theorem singularChars_append_es {cs : List Char} (last : cs.getLast? ≠ some 'i') :
    singularChars (cs ++ ['e', 's']) = singularChars cs ↔ cs.getLast? ≠ some 's' := by
  rw [singularChars_es last, eq_comm, singularChars_eq_self_iff]

theorem singularChars_ves (stem : List Char) :
    singularChars (stem ++ ['v', 'e', 's']) = stem ++ ['v'] := by
  rw [← List.singleton_append, ← List.append_assoc]
  exact singularChars_es (by simp)

theorem getLast?_plainChars_append (stem ending : List Char) {c : Char}
    (plain : ending.all isPlain = true) (last : ending.getLast? = some c) :
    (plainChars (stem ++ ending)).getLast? = some c := by
  rw [plainChars_append_of_plain stem plain, List.getLast?_append, last, Option.some_or]

/-- A word that ends in a letter other than `s` is its own singular. -/
theorem singularChars_plainChars_append (stem ending : List Char)
    (plain : ending.all isPlain = true) (last : ∃ c, ending.getLast? = some c ∧ c ≠ 's') :
    singularChars (plainChars (stem ++ ending)) = plainChars stem ++ ending := by
  obtain ⟨c, last, not_s⟩ := last
  rw [← plainChars_append_of_plain stem plain]
  refine singularChars_other ?_
  rw [getLast?_plainChars_append stem ending plain last]
  simpa using not_s

/-- The last letter of a word that takes `es`. -/
theorem getLast?_of_sibilant {cs : List Char}
    (sibilant : ([['s'], ['x'], ['z'], ['c', 'h'], ['s', 'h']].any fun ending =>
      ending.isSuffixOf cs) = true) :
    ∃ c ∈ ['s', 'x', 'z', 'h'], cs.getLast? = some c ∧ (plainChars cs).getLast? = some c := by
  obtain ⟨ending, among, suffix⟩ := List.any_eq_true.mp sibilant
  obtain ⟨stem, rfl⟩ := List.isSuffixOf_iff_suffix.mp suffix
  have each : ∀ ending ∈ [['s'], ['x'], ['z'], ['c', 'h'], ['s', 'h']],
      ending.all isPlain = true ∧ ending.getLast? ∈ ['s', 'x', 'z', 'h'].map some := by
    decide
  obtain ⟨plain, final⟩ := each ending among
  obtain ⟨c, mem, last⟩ := List.mem_map.mp final
  refine ⟨c, mem, ?_, ?_⟩
  · rw [List.getLast?_append, ← last, Option.some_or]
  · exact getLast?_plainChars_append stem ending plain last.symm

/-- A regular plural has the singular of its word, by letters and digits, for all words but those
that end in `e`, `s` or `f`. -/
theorem singularChars_regularPlural {cs : List Char} :
    singularChars (plainChars (regularPluralChars cs)) = singularChars (plainChars cs) ↔
      (plainChars cs).getLast? ≠ some 'e' ∧ (plainChars cs).getLast? ≠ some 's' ∧
        cs.getLast? ≠ some 'f' := by
  have add_s : plainChars (cs ++ ['s']) = plainChars cs ++ ['s'] :=
    plainChars_append_of_plain cs (by decide)
  unfold regularPluralChars
  split
  next sibilant =>
    obtain ⟨c, mem, last, last_plain⟩ := getLast?_of_sibilant sibilant
    have not_i : (plainChars cs).getLast? ≠ some 'i' := by
      rw [last_plain]
      rintro ⟨⟩
      simp at mem
    rw [plainChars_append_of_plain cs (by decide), singularChars_append_es not_i, last, last_plain]
    constructor
    · intro not_s
      refine ⟨?_, not_s, ?_⟩ <;> rintro ⟨⟩ <;> simp at mem
    · exact fun both => both.2.1
  next =>
    cases y : stripSuffix? ['y'] cs with
    | some stem =>
      obtain rfl := stripSuffix?_eq_some.mp y
      have itself := singularChars_plainChars_append stem ['y'] (by decide) ⟨'y', rfl, by decide⟩
      dsimp only
      split
      · rw [plainChars_append_of_plain stem (by decide), singularChars_ies, itself]
        simp [getLast?_plainChars_append stem ['y'] (by decide) rfl]
      · rw [add_s, singularChars_append_s]
        simp
    | none =>
      cases f : stripSuffix? ['f'] cs with
      | some stem =>
        obtain rfl := stripSuffix?_eq_some.mp f
        have itself := singularChars_plainChars_append stem ['f'] (by decide) ⟨'f', rfl, by decide⟩
        rw [plainChars_append_of_plain stem (by decide), singularChars_ves, itself]
        simp
      | none =>
        cases fe : stripSuffix? ['f', 'e'] cs with
        | some stem =>
          obtain rfl := stripSuffix?_eq_some.mp fe
          have itself :=
            singularChars_plainChars_append stem ['f', 'e'] (by decide) ⟨'e', rfl, by decide⟩
          rw [plainChars_append_of_plain stem (by decide), singularChars_ves, itself]
          simp [getLast?_plainChars_append stem ['f', 'e'] (by decide) rfl]
        | none =>
          have last : cs.getLast? ≠ some 'f' := fun last =>
            stripSuffix?_eq_none.mp f (List.singleton_suffix_iff_getLast?_eq_some.mpr last)
          rw [add_s, singularChars_append_s]
          simp [last]

/-- No irregular plural leads back to its noun. -/
theorem canonical_irregularPlurals :
    ∀ entry ∈ irregularPlurals, canonical entry.2 ≠ canonical entry.1 := by
  decide +kernel

theorem canonical_snakeCase {name : String} (ascii : ∀ c ∈ name.toList, c.toNat < 0x80) :
    canonical (snakeCase name) = canonical name := by
  rw [canonical, snakeCase, String.toList_ofList, plainChars_snakeChars ascii, canonical]

/-- The table of the name leads back to the name: its plural is not one of the irregular ones, its
last letter or digit is neither `e` nor `s`, and its last character is not `f`. -/
def PluralLeadsBack (name : String) : Prop :=
  (∀ entry ∈ irregularPlurals, entry.1 ≠ snakeCase name) ∧
    (plainChars name.toList).getLast? ∉ [some 'e', some 's'] ∧
    name.toList.getLast? ∉ [some 'f', some 'F']

instance (name : String) : Decidable (PluralLeadsBack name) :=
  inferInstanceAs (Decidable (_ ∧ _))

theorem toLower_eq_f_iff {c : Char} (ascii : c.toNat < 0x80) :
    c.toLower = 'f' ↔ c = 'f' ∨ c = 'F' :=
  forall_ascii (p := fun c => c.toLower = 'f' ↔ c = 'f' ∨ c = 'F') (by decide +kernel) ascii

theorem getLast?_snakeChars_eq_f {cs : List Char} (ascii : ∀ c ∈ cs, c.toNat < 0x80) :
    (snakeChars cs).getLast? = some 'f' ↔ cs.getLast? ∈ [some 'f', some 'F'] := by
  rw [getLast?_snakeChars ascii]
  cases last : cs.getLast? with
  | none => simp
  | some c =>
    have mem : c ∈ cs := List.mem_of_getLast? last
    simp [toLower_eq_f_iff (ascii c mem)]

theorem canonical_table_iff {name : String} (ascii : ∀ c ∈ name.toList, c.toNat < 0x80) :
    canonical (table name) = canonical name ↔ PluralLeadsBack name := by
  unfold table plural
  cases found : irregularPlurals.find? fun entry => entry.1 == snakeCase name with
  | some entry =>
    have among := List.mem_of_find?_eq_some found
    have same : entry.1 = snakeCase name := by simpa using List.find?_some found
    constructor
    · intro leadsBack
      rw [← canonical_snakeCase ascii, ← same] at leadsBack
      exact absurd leadsBack (canonical_irregularPlurals entry among)
    · exact fun leadsBack => absurd same (leadsBack.1 entry among)
  | none =>
    have regular : ∀ entry ∈ irregularPlurals, entry.1 ≠ snakeCase name := by
      simpa using List.find?_eq_none.mp found
    simp only [canonical, snakeCase, String.toList_ofList, String.ofList_inj]
    rw [← plainChars_snakeChars ascii, singularChars_regularPlural, plainChars_snakeChars ascii,
      ne_eq _ (some 'f'), getLast?_snakeChars_eq_f ascii, PluralLeadsBack, and_iff_right regular]
    simp [and_assoc]

end Name

namespace Snapshot

open Name

/-- The table of a name finds the relation stored under the name exactly for the names whose plural
leads back to them. For all other names it finds what it found before. -/
theorem relation?_table (name : String) (ascii : ∀ c ∈ name.toList, c.toNat < 0x80) :
    (∀ s related : Snapshot, (s.withForward name related).relation? (table name) =
      if PluralLeadsBack name then some related else s.relation? (table name)) ∧
    (canonical (table name) = canonical name ↔ PluralLeadsBack name) := by
  refine ⟨fun s related => ?_, canonical_table_iff ascii⟩
  simp only [relation?_withForward, canonical_table_iff ascii]

/-- The relation `DailyCategory` is found under its table. -/
theorem relation?_dailyCategories :
    table "DailyCategory" = "daily_categories" ∧
      (empty.withForward "DailyCategory" ⟨[("id", .scalar (.int 1))], [], []⟩).relation?
        "daily_categories" = some ⟨[("id", .scalar (.int 1))], [], []⟩ := by
  have named : table "DailyCategory" = "daily_categories" := by decide +kernel
  have found := (relation?_table "DailyCategory" (by simp)).1 empty
    ⟨[("id", .scalar (.int 1))], [], []⟩
  rw [named, if_pos (by decide +kernel)] at found
  exact ⟨named, found⟩

/-- The relation `House` is not found under its table, whose canonical form is `hous`. -/
theorem relation?_houses :
    table "House" = "houses" ∧ canonical "houses" = "hous" ∧
      (empty.withForward "House" ⟨[("id", .scalar (.int 1))], [], []⟩).relation? "houses" =
        none := by
  have named : table "House" = "houses" := by decide +kernel
  have soughtAs : canonical "houses" = "hous" := by decide +kernel
  have stored : canonical "House" = "house" := by decide +kernel
  refine ⟨named, soughtAs, ?_⟩
  rw [relation?_withForward, soughtAs, stored]
  rfl

end Snapshot

end RecordQuery
