import RecordQuery.Proofs.Name.Table

/-!
Spellings of one table. A statement names a table by the lower-case form of a name, so it sees two
names as one exactly if they differ in the case of the first letter and in how their inner words
begin, and in nothing else. No name is spelled like its own plural.
-/

namespace RecordQuery.Name

open Text

/-- Inside a name a word begins with a capital, or with an underscore and the small letter. -/
inductive RestAlike : List Char → List Char → Prop
  | nil : RestAlike [] []
  | same (c : Char) {cs ds : List Char} : RestAlike cs ds → RestAlike (c :: cs) (c :: ds)
  | capitalLeft {c : Char} {cs ds : List Char} :
      c.isUpper = true → RestAlike cs ds → RestAlike (c :: cs) ('_' :: c.toLower :: ds)
  | capitalRight {c : Char} {cs ds : List Char} :
      c.isUpper = true → RestAlike cs ds → RestAlike ('_' :: c.toLower :: cs) (c :: ds)

/-- Two names with the same words, up to the case of the first letter and to how the words inside
begin. -/
inductive SpelledAlike : List Char → List Char → Prop
  | intro {c d : Char} {cs ds : List Char} :
      c.toLower = d.toLower → RestAlike cs ds → SpelledAlike (c :: cs) (d :: ds)

theorem ascii_of_isUpper {c : Char} (capital : c.isUpper = true) : c.toNat < 0x80 := by
  have letter : c.isAlpha = true := (Bool.or_eq_true _ _).mpr (Or.inl capital)
  have := toNat_of_isAlpha letter
  omega

theorem snakePart_of_isUpper {c : Char} (capital : c.isUpper = true) :
    snakePart c = ['_', c.toLower] :=
  forall_ascii (p := fun c => c.isUpper = true → snakePart c = ['_', c.toLower])
    (by decide +kernel) (ascii_of_isUpper capital) capital

theorem snakePart_of_not_isUpper {c : Char} (ascii : c.toNat < 0x80)
    (plain : c.isUpper = false) : snakePart c = [c] :=
  forall_ascii (p := fun c => c.isUpper = false → snakePart c = [c]) (by decide +kernel) ascii plain

/-- The small letter of a capital is not mistaken for the beginning of another word. -/
theorem toLower_of_isUpper {c : Char} (capital : c.isUpper = true) :
    c.toLower ≠ '_' ∧ c.toLower.isUpper = false ∧ c.toLower.toUpper = c :=
  forall_ascii (p := fun c => c.isUpper = true →
    c.toLower ≠ '_' ∧ c.toLower.isUpper = false ∧ c.toLower.toUpper = c)
    (by decide +kernel) (ascii_of_isUpper capital) capital

theorem isUpper_underscore : '_'.isUpper = false := by decide

theorem snakePart_ne_nil (c : Char) : snakePart c ≠ [] := by
  unfold snakePart
  split <;> exact List.cons_ne_nil _ _

theorem flatMap_snakePart_cons_plain {c : Char} (ascii : c.toNat < 0x80)
    (plain : c.isUpper = false) (cs : List Char) :
    (c :: cs).flatMap snakePart = c :: cs.flatMap snakePart := by
  rw [List.flatMap_cons, snakePart_of_not_isUpper ascii plain, List.singleton_append]

theorem flatMap_snakePart_cons_capital {c : Char} (capital : c.isUpper = true) (cs : List Char) :
    (c :: cs).flatMap snakePart = '_' :: c.toLower :: cs.flatMap snakePart := by
  rw [List.flatMap_cons, snakePart_of_isUpper capital]
  rfl

/-- A character that marks no word is written by itself only. -/
theorem exists_of_flatMap_snakePart {c : Char} (notMark : c ≠ '_') {cs ds : List Char}
    (ascii : ∀ d ∈ ds, d.toNat < 0x80) (same : ds.flatMap snakePart = c :: cs) :
    ∃ rest, ds = c :: rest ∧ rest.flatMap snakePart = cs := by
  cases ds with
  | nil => cases same
  | cons d ds =>
    rw [List.forall_mem_cons] at ascii
    by_cases capital : d.isUpper = true
    · rw [flatMap_snakePart_cons_capital capital] at same
      exact absurd (List.cons.inj same).1.symm notMark
    · rw [flatMap_snakePart_cons_plain ascii.1 (by simpa using capital)] at same
      obtain ⟨rfl, rest⟩ := List.cons.inj same
      exact ⟨ds, rfl, rest⟩

/-- A word inside comes from a capital, or from an underscore and the small letter. -/
theorem exists_of_flatMap_snakePart_word {c : Char} (capital : c.isUpper = true)
    {cs ds : List Char} (ascii : ∀ d ∈ ds, d.toNat < 0x80)
    (same : ds.flatMap snakePart = '_' :: c.toLower :: cs) :
    ∃ rest, (ds = c :: rest ∨ ds = '_' :: c.toLower :: rest) ∧ rest.flatMap snakePart = cs := by
  obtain ⟨notMark, -, back⟩ := toLower_of_isUpper capital
  cases ds with
  | nil => cases same
  | cons d ds =>
    rw [List.forall_mem_cons] at ascii
    by_cases capital' : d.isUpper = true
    · rw [flatMap_snakePart_cons_capital capital'] at same
      obtain ⟨letter, rest⟩ := List.cons.inj (List.cons.inj same).2
      have itself : d = c := by rw [← (toLower_of_isUpper capital').2.2, letter, back]
      exact ⟨ds, Or.inl (by rw [itself]), rest⟩
    · rw [flatMap_snakePart_cons_plain ascii.1 (by simpa using capital')] at same
      obtain ⟨rfl, small⟩ := List.cons.inj same
      obtain ⟨rest, rfl, rest_eq⟩ := exists_of_flatMap_snakePart notMark ascii.2 small
      exact ⟨rest, Or.inr rfl, rest_eq⟩

theorem RestAlike.flatMap_eq {cs ds : List Char} (alike : RestAlike cs ds)
    (ascii : ∀ c ∈ cs, c.toNat < 0x80) (ascii' : ∀ d ∈ ds, d.toNat < 0x80) :
    cs.flatMap snakePart = ds.flatMap snakePart := by
  induction alike with
  | nil => rfl
  | same c rest ih =>
    rw [List.forall_mem_cons] at ascii ascii'
    rw [List.flatMap_cons, List.flatMap_cons, ih ascii.2 ascii'.2]
  | @capitalLeft c cs ds capital rest ih =>
    rw [List.forall_mem_cons] at ascii
    rw [List.forall_mem_cons, List.forall_mem_cons] at ascii'
    have small := (toLower_of_isUpper capital).2.1
    rw [flatMap_snakePart_cons_capital capital,
      flatMap_snakePart_cons_plain ascii'.1 isUpper_underscore,
      flatMap_snakePart_cons_plain ascii'.2.1 small, ih ascii.2 ascii'.2.2]
  | @capitalRight c cs ds capital rest ih =>
    rw [List.forall_mem_cons, List.forall_mem_cons] at ascii
    rw [List.forall_mem_cons] at ascii'
    have small := (toLower_of_isUpper capital).2.1
    rw [flatMap_snakePart_cons_capital capital,
      flatMap_snakePart_cons_plain ascii.1 isUpper_underscore,
      flatMap_snakePart_cons_plain ascii.2.1 small, ih ascii.2.2 ascii'.2]

/-- The converse reads both names from the left. A capital stands for two characters, so the
induction is on the length and not on the characters of one name. -/
theorem restAlike_of_flatMap_eq {cs ds : List Char} (ascii : ∀ c ∈ cs, c.toNat < 0x80)
    (ascii' : ∀ d ∈ ds, d.toNat < 0x80)
    (same : cs.flatMap snakePart = ds.flatMap snakePart) : RestAlike cs ds := by
  induction len : cs.length using Nat.strong_induction_on generalizing cs ds with
  | _ n ih =>
    subst len
    cases cs with
    | nil =>
      cases ds with
      | nil => exact .nil
      | cons d ds =>
        have empty := List.append_eq_nil_iff.mp (same.symm.trans List.flatMap_nil)
        exact absurd empty.1 (snakePart_ne_nil d)
    | cons c cs =>
      have shorter : cs.length < (c :: cs).length := Nat.lt_succ_self _
      by_cases capital : c.isUpper = true
      · rw [flatMap_snakePart_cons_capital capital] at same
        obtain ⟨rest, rfl | rfl, rest_eq⟩ :=
          exists_of_flatMap_snakePart_word capital ascii' same.symm
        · rw [List.forall_mem_cons] at ascii ascii'
          exact .same c (ih _ shorter ascii.2 ascii'.2 rest_eq.symm rfl)
        · rw [List.forall_mem_cons] at ascii
          rw [List.forall_mem_cons, List.forall_mem_cons] at ascii'
          exact .capitalLeft capital (ih _ shorter ascii.2 ascii'.2.2 rest_eq.symm rfl)
      · cases ds with
        | nil =>
          have empty := List.append_eq_nil_iff.mp same
          exact absurd empty.1 (snakePart_ne_nil c)
        | cons d ds =>
          rw [List.forall_mem_cons] at ascii'
          by_cases capital' : d.isUpper = true
          · rw [flatMap_snakePart_cons_capital capital'] at same
            obtain ⟨rest, itself | word, rest_eq⟩ :=
              exists_of_flatMap_snakePart_word capital' ascii same
            · cases itself
              exact absurd capital' capital
            · cases word
              rw [List.forall_mem_cons, List.forall_mem_cons] at ascii
              have nearer : rest.length < ('_' :: d.toLower :: rest).length :=
                Nat.lt_trans (Nat.lt_succ_self _) shorter
              exact .capitalRight capital' (ih _ nearer ascii.2.2 ascii'.2 rest_eq rfl)
          · rw [List.forall_mem_cons] at ascii
            rw [flatMap_snakePart_cons_plain ascii.1 (by simpa using capital),
              flatMap_snakePart_cons_plain ascii'.1 (by simpa using capital')] at same
            obtain ⟨rfl, rest_eq⟩ := List.cons.inj same
            exact .same c (ih _ shorter ascii.2 ascii'.2 rest_eq rfl)

theorem small_of_ascii {c : Char} (ascii : c.toNat < 0x80) : small c = [c.toLower] := by
  rw [small, if_pos ascii]

theorem snakeCase_eq_iff {a b : String} (notEmpty : a ≠ "") (notEmpty' : b ≠ "")
    (ascii : ∀ c ∈ a.toList, c.toNat < 0x80) (ascii' : ∀ c ∈ b.toList, c.toNat < 0x80) :
    snakeCase a = snakeCase b ↔ SpelledAlike a.toList b.toList := by
  obtain ⟨c, cs, chars⟩ := List.exists_cons_of_ne_nil (mt String.toList_eq_nil_iff.mp notEmpty)
  obtain ⟨d, ds, chars'⟩ := List.exists_cons_of_ne_nil (mt String.toList_eq_nil_iff.mp notEmpty')
  rw [snakeCase, snakeCase, String.ofList_inj]
  rw [chars] at ascii ⊢
  rw [chars'] at ascii' ⊢
  rw [List.forall_mem_cons] at ascii ascii'
  change small c ++ cs.flatMap snakePart = small d ++ ds.flatMap snakePart ↔ _
  rw [small_of_ascii ascii.1, small_of_ascii ascii'.1, List.singleton_append,
    List.singleton_append, List.cons.injEq]
  constructor
  · intro same
    exact .intro same.1 (restAlike_of_flatMap_eq ascii.2 ascii'.2 same.2)
  · intro alike
    cases alike with
    | intro letter rest => exact ⟨letter, rest.flatMap_eq ascii.2 ascii'.2⟩

/-! The plural of a table name. -/

/-- What a regular plural changes in its word, whatever the rule that it goes by. -/
inductive RegularPlural : List Char → List Char → Prop
  | s (cs : List Char) : RegularPlural cs (cs ++ ['s'])
  | es (cs : List Char) : RegularPlural cs (cs ++ ['e', 's'])
  | ies (stem : List Char) : RegularPlural (stem ++ ['y']) (stem ++ ['i', 'e', 's'])
  | ves (stem : List Char) : RegularPlural (stem ++ ['f']) (stem ++ ['v', 'e', 's'])
  | vesOfFe (stem : List Char) : RegularPlural (stem ++ ['f', 'e']) (stem ++ ['v', 'e', 's'])

theorem regularPlural (cs : List Char) : RegularPlural cs (regularPluralChars cs) := by
  unfold regularPluralChars
  split
  · exact .es cs
  · split
    next ends =>
      obtain rfl := stripSuffix?_eq_some.mp ends
      split
      · exact .ies _
      · exact .s _
    next ends =>
      obtain rfl := stripSuffix?_eq_some.mp ends
      exact .ves _
    next ends =>
      obtain rfl := stripSuffix?_eq_some.mp ends
      exact .vesOfFe _
    next => exact .s cs

theorem plural_cases (word : String) :
    (∃ entry ∈ irregularPlurals, entry.1 = word ∧ plural word = entry.2) ∨
      RegularPlural word.toList (plural word).toList := by
  unfold plural
  cases found : irregularPlurals.find? fun entry => entry.1 == word with
  | some entry =>
    have same : entry.1 = word := by simpa using List.find?_some found
    exact Or.inl ⟨entry, List.mem_of_find?_eq_some found, same, rfl⟩
  | none =>
    rw [String.toList_ofList]
    exact Or.inr (regularPlural word.toList)

theorem RegularPlural.mem_iff {word other : List Char} (plural : RegularPlural word other)
    {c : Char} (notSmall : c.isLower = false) : c ∈ other ↔ c ∈ word := by
  have ne (d : Char) (smallLetter : d.isLower = true) : c ≠ d := by
    intro same
    rw [same, smallLetter] at notSmall
    cases notSmall
  have e := ne 'e' rfl
  have s := ne 's' rfl
  cases plural with
  | s | es => simp [e, s]
  | ies stem => simp [e, s, ne 'i' rfl, ne 'y' rfl]
  | ves stem | vesOfFe stem => simp [e, s, ne 'f' rfl, ne 'v' rfl]

theorem RegularPlural.length_lt {word other : List Char} (plural : RegularPlural word other) :
    word.length < other.length := by
  cases plural <;> simp

/-- A plural differs from its word in small letters only. -/
theorem mem_plural_iff {c : Char} (notSmall : c.isLower = false) {word : String} :
    c ∈ (plural word).toList ↔ c ∈ word.toList := by
  rcases plural_cases word with ⟨entry, among, rfl, same⟩ | regular
  · have each : (irregularPlurals.all fun entry =>
        entry.1.toList.all Char.isLower && entry.2.toList.all Char.isLower) = true := by
      decide +kernel
    have absent {cs : List Char} (letters : cs.all Char.isLower = true) : c ∉ cs := by
      intro mem
      rw [List.all_eq_true.mp letters c mem] at notSmall
      cases notSmall
    obtain ⟨noun, other⟩ := (Bool.and_eq_true _ _).mp (List.all_eq_true.mp each entry among)
    rw [same]
    exact iff_of_false (absent other) (absent noun)
  · exact regular.mem_iff notSmall

theorem plural_ne (word : String) : plural word ≠ word := by
  rcases plural_cases word with ⟨entry, among, rfl, same⟩ | regular
  · have each : ∀ entry ∈ irregularPlurals, entry.2 ≠ entry.1 := by decide +kernel
    rw [same]
    exact each entry among
  · intro itself
    have longer := regular.length_lt
    rw [itself] at longer
    exact Nat.lt_irrefl _ longer

theorem plural_ne_empty (word : String) : plural word ≠ "" := by
  rcases plural_cases word with ⟨entry, among, rfl, same⟩ | regular
  · have each : ∀ entry ∈ irregularPlurals, entry.2 ≠ "" := by decide +kernel
    rw [same]
    exact each entry among
  · intro empty
    have longer := regular.length_lt
    rw [empty] at longer
    exact Nat.not_lt_zero _ longer

/-- An ASCII character that is no capital. -/
def Uncapital (c : Char) : Prop :=
  c.toNat < 0x80 ∧ c.isUpper = false

theorem uncapital_of_isLower {c : Char} (smallLetter : c.isLower = true) : Uncapital c := by
  have plain : isPlain c = true := (Bool.or_eq_true _ _).mpr (Or.inl smallLetter)
  have ascii := ascii_of_isPlain plain
  exact ⟨ascii, forall_ascii (p := fun c => c.isLower = true → c.isUpper = false)
    (by decide +kernel) ascii smallLetter⟩

theorem snakeChars_eq_self {cs : List Char} (uncapital : ∀ c ∈ cs, Uncapital c) :
    snakeChars cs = cs := by
  have inner {cs : List Char} (uncapital : ∀ c ∈ cs, Uncapital c) :
      cs.flatMap snakePart = cs := by
    rw [List.flatMap_congr fun c mem =>
      snakePart_of_not_isUpper (uncapital c mem).1 (uncapital c mem).2, List.flatMap_singleton']
  cases cs with
  | nil => rfl
  | cons c cs =>
    rw [List.forall_mem_cons] at uncapital
    have itself : c.toLower = c :=
      forall_ascii (p := fun c => c.isUpper = false → c.toLower = c) (by decide +kernel)
        uncapital.1.1 uncapital.1.2
    change small c ++ cs.flatMap snakePart = _
    rw [small_of_ascii uncapital.1.1, itself, inner uncapital.2, List.singleton_append]

theorem snakeChars_uncapital {cs : List Char} (ascii : ∀ c ∈ cs, c.toNat < 0x80) :
    ∀ c ∈ snakeChars cs, Uncapital c := by
  have part {c : Char} (ascii : c.toNat < 0x80) : ∀ d ∈ snakePart c ++ small c, Uncapital d := by
    have each := forall_ascii
      (p := fun c => ((snakePart c ++ small c).all fun d => d.toNat < 0x80 && !d.isUpper) = true)
      (by decide +kernel) ascii
    intro d mem
    simpa [Uncapital] using List.all_eq_true.mp each d mem
  cases cs with
  | nil => exact nofun
  | cons c cs =>
    rw [List.forall_mem_cons] at ascii
    change ∀ d ∈ small c ++ cs.flatMap snakePart, Uncapital d
    intro d mem
    rcases List.mem_append.mp mem with first | later
    · exact part ascii.1 d (List.mem_append_right _ first)
    · obtain ⟨e, among, inPart⟩ := List.mem_flatMap.mp later
      exact part (ascii.2 e among) d (List.mem_append_left _ inPart)

/-- A table name has the form of table names already. -/
theorem snakeCase_table {name : String} (ascii : ∀ c ∈ name.toList, c.toNat < 0x80) :
    snakeCase (table name) = table name := by
  have uncapital : ∀ c ∈ (table name).toList, Uncapital c := by
    intro c mem
    by_cases smallLetter : c.isLower = true
    · exact uncapital_of_isLower smallLetter
    · have inWord := (mem_plural_iff (by simpa using smallLetter)).mp mem
      rw [snakeCase, String.toList_ofList] at inWord
      exact snakeChars_uncapital ascii c inWord
  rw [snakeCase, snakeChars_eq_self uncapital, String.ofList_toList]

/-- No name is spelled like its table. -/
theorem snakeCase_table_ne {name : String} (ascii : ∀ c ∈ name.toList, c.toNat < 0x80) :
    snakeCase (table name) ≠ snakeCase name := by
  rw [snakeCase_table ascii]
  exact plural_ne (snakeCase name)

end RecordQuery.Name
