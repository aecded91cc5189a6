import RecordQuery.Proofs.Attempt
import RecordQuery.Proofs.Text.Separated
import RecordQuery.Request.OrderBy

/-!
Order-by texts entry by entry. A text is cut at its commas, and a colon in an entry counts as a
blank. Whatever stands before the first blank of an entry is its reference, and the first letter of
what follows is its direction. Only this letter can be wrong, and the first entry with another one
is the error. Sort keys of the record's own columns read back from their texts.
-/

namespace RecordQuery

namespace Reference

open Text

/-- The reference that a word gives. It is cut at its first dot, and an empty table is none. -/
inductive Reads : List Char → Reference → Prop
  | own {column : List Char} (undotted : '.' ∉ column) : Reads column ⟨none, String.ofList column⟩
  | unnamed (column : List Char) : Reads ('.' :: column) ⟨none, String.ofList column⟩
  | foreign {table : List Char} (column : List Char) (named : table ≠ []) (undotted : '.' ∉ table) :
      Reads (table ++ '.' :: column) ⟨some (String.ofList table), String.ofList column⟩

theorem cutAtFirst?_eq_none {cs : List Char} (undotted : '.' ∉ cs) :
    cutAtFirst? (· == '.') cs = none := by
  induction cs with
  | nil => rfl
  | cons c cs ih =>
    rw [List.mem_cons, not_or] at undotted
    have notDot : (c == '.') = false := by simpa using Ne.symm undotted.1
    rw [cutAtFirst?, notDot, ih undotted.2]
    rfl

theorem cutAtFirst?_append {before : List Char} (undotted : '.' ∉ before) (after : List Char) :
    cutAtFirst? (· == '.') (before ++ '.' :: after) = some (before, after) := by
  induction before with
  | nil => rfl
  | cons c before ih =>
    rw [List.mem_cons, not_or] at undotted
    have notDot : (c == '.') = false := by simpa using Ne.symm undotted.1
    rw [List.cons_append, cutAtFirst?, notDot, ih undotted.2]
    rfl

theorem Reads.ofDotted {word : List Char} {target : Reference} (reads : Reads word target) :
    Reference.ofDotted (String.ofList word) = target := by
  unfold Reference.ofDotted Name.splitReference
  rw [String.toList_ofList]
  cases reads with
  | own undotted =>
    rw [cutAtFirst?_eq_none undotted]
    rfl
  | unnamed column => rfl
  | @foreign table column named undotted =>
    have nonempty : String.ofList table ≠ "" := by simpa using named
    simp [cutAtFirst?_append undotted, Reference.of, nonempty]

theorem exists_reads (word : List Char) : ∃ target, Reads word target := by
  by_cases dotted : '.' ∈ word
  · obtain ⟨table, column, rfl, undotted⟩ := List.eq_append_cons_of_mem dotted
    cases table with
    | nil => exact ⟨_, .unnamed column⟩
    | cons c table => exact ⟨_, .foreign column (List.cons_ne_nil c table) undotted⟩
  · exact ⟨_, .own dotted⟩

theorem reads_iff {word : List Char} {target : Reference} :
    Reads word target ↔ Reference.ofDotted (String.ofList word) = target := by
  refine ⟨Reads.ofDotted, ?_⟩
  rintro rfl
  obtain ⟨target, reads⟩ := exists_reads word
  rwa [reads.ofDotted]

end Reference

/-- The direction that the text behind a reference gives. -/
inductive Direction.Reads : List Char → Direction → Prop
  | nothing : Reads [] .unspecified
  | ascending {c : Char} (letter : c = 'a' ∨ c = 'A') (rest : List Char) :
      Reads (c :: rest) .ascending
  | descending {c : Char} (letter : c = 'd' ∨ c = 'D') (rest : List Char) :
      Reads (c :: rest) .descending

namespace OrderBy

open Text

/-- The text of an entry with blanks for its colons. -/
def spaced (part : List Char) : List Char :=
  part.map fun c => if c == ':' then ' ' else c

/-- An entry between the blanks around it: its first word and what follows. -/
structure Entry where
  first : List Char
  gap : List Char
  following : List Char
  first_ne_nil : first ≠ []
  first_tight : ∀ c ∈ first, isBlank c = false
  gap_blank : ∀ c ∈ gap, isBlank c = true
  gap_eq_nil_iff : gap = [] ↔ following = []
  following_trimmed : Trimmed following

namespace Entry

def chars (e : Entry) : List Char :=
  e.first ++ (e.gap ++ e.following)

theorem chars_ne_nil (e : Entry) : e.chars ≠ [] := by
  simp [chars, e.first_ne_nil]

theorem chars_trimmed (e : Entry) : Trimmed e.chars := by
  constructor
  · cases first : e.first with
    | nil => exact absurd first e.first_ne_nil
    | cons c cs =>
      have tight := e.first_tight c (by simp [first])
      simp [chars, first, tight]
  · rw [chars]
    by_cases nothing : e.following = []
    · rw [nothing, e.gap_eq_nil_iff.mpr nothing, List.append_nil, List.append_nil,
        Option.any_eq_false]
      intro c last
      simp [e.first_tight c (List.mem_of_getLast? last)]
    · rw [← List.append_assoc, List.getLast?_append_of_ne_nil _ nothing]
      exact e.following_trimmed.ends

/-- The first word of an entry ends where its gap begins. -/
theorem gap_head (e : Entry) : (e.gap ++ e.following).head?.any (fun c => !isBlank c) = false := by
  cases gap : e.gap with
  | nil => simp [e.gap_eq_nil_iff.mp gap]
  | cons c cs => simp [e.gap_blank c (by simp [gap])]

theorem takeWhile_chars (e : Entry) : e.chars.takeWhile (fun c => !isBlank c) = e.first := by
  have tight : ∀ c ∈ e.first, (!isBlank c) = true := fun c mem => by simp [e.first_tight c mem]
  exact takeWhile_run tight e.gap_head

theorem trimChars_dropWhile_chars (e : Entry) :
    trimChars (e.chars.dropWhile fun c => !isBlank c) = e.following := by
  have tight : ∀ c ∈ e.first, (!isBlank c) = true := fun c mem => by simp [e.first_tight c mem]
  have behind : e.chars.dropWhile (fun c => !isBlank c) = e.gap ++ e.following :=
    dropWhile_run tight e.gap_head
  rw [behind, trimChars_eq_iff]
  exact ⟨e.following_trimmed, e.gap, [], e.gap_blank, List.forall_mem_nil _, by rw [List.append_nil]⟩

/-- A text that is not empty and has no blank at its ends is an entry. -/
theorem exists_chars_eq {cs : List Char} (nonempty : cs ≠ []) (trimmed : Trimmed cs) :
    ∃ e : Entry, e.chars = cs := by
  have whole : cs.takeWhile (fun c => !isBlank c) ++ cs.dropWhile (fun c => !isBlank c) = cs :=
    List.takeWhile_append_dropWhile
  have begins := head?_dropWhile_any (fun c => !isBlank c) cs
  obtain ⟨gap, trail, gap_blank, trail_blank, split⟩ :=
    pads_trimChars (cs.dropWhile fun c => !isBlank c)
  have following := trimmed_trimChars (cs.dropWhile fun c => !isBlank c)
  generalize trimChars (cs.dropWhile fun c => !isBlank c) = behind at split following
  rw [split] at whole begins
  obtain rfl : trail = [] := by
    rw [← whole, ← List.append_assoc, ← List.append_assoc] at trimmed
    exact trimmed.eq_nil_of_blank trail_blank
  rw [List.append_nil] at whole begins
  have first_tight : ∀ c ∈ cs.takeWhile (fun c => !isBlank c), isBlank c = false :=
    fun c mem => by simpa using List.mem_takeWhile_imp mem
  refine ⟨⟨cs.takeWhile fun c => !isBlank c, gap, behind, ?_, first_tight, gap_blank, ?_, following⟩,
    whole⟩
  · obtain ⟨c, rest, rfl⟩ := List.exists_cons_of_ne_nil nonempty
    have notBlank : isBlank c = false := by simpa using trimmed.begins
    simp [notBlank]
  · constructor
    · rintro rfl
      -- what comes next would be a blank, but `behind` begins with none
      cases behind with
      | nil => rfl
      | cons c rest =>
        have blank : isBlank c = true := by simpa using begins
        have tight : isBlank c = false := by simpa using following.begins
        exact absurd blank (by rw [tight]; exact Bool.false_ne_true)
    · rintro rfl
      rw [List.append_nil] at whole
      rw [← whole] at trimmed
      exact trimmed.eq_nil_of_blank gap_blank

end Entry

/-- The part holds an entry, between blanks and with its colons read as blanks. -/
def Holds (part : List Char) (e : Entry) : Prop :=
  Pads e.chars (spaced part)

/-- The part holds nothing but blanks and colons. -/
def Vacant (part : List Char) : Prop :=
  ∀ c ∈ part, isBlank c = true ∨ c = ':'

/-- The sort key that a part states. -/
def States (part : List Char) (key : SortKey) : Prop :=
  ∃ e : Entry, Holds part e ∧ Reference.Reads e.first key.target ∧
    Direction.Reads e.following key.direction

/-- The error of a part whose reference is followed by something that is no direction. -/
def Refuses (part : List Char) (error : Error) : Prop :=
  ∃ e : Entry, Holds part e ∧ ∃ c rest, e.following = c :: rest ∧ c ∉ ['a', 'A', 'd', 'D'] ∧
    error = .badFragment .orderBy (String.ofList e.chars)
      ("unknown direction " ++ String.ofList e.following)

theorem entryChars_of_holds {part : List Char} {e : Entry} (holds : Holds part e) :
    entryChars part = e.chars :=
  trimChars_eq_iff.mpr ⟨e.chars_trimmed, holds⟩

theorem exists_holds {part : List Char} (nonempty : entryChars part ≠ []) :
    ∃ e : Entry, Holds part e ∧ entryChars part = e.chars := by
  obtain ⟨e, same⟩ := Entry.exists_chars_eq nonempty (trimmed_trimChars (spaced part))
  have holds : Holds part e := by
    rw [Holds, same]
    exact pads_trimChars (spaced part)
  exact ⟨e, holds, same.symm⟩

theorem vacant_iff {part : List Char} : Vacant part ↔ entryChars part = [] := by
  have colons (c : Char) : isBlank (if c == ':' then ' ' else c) = true ↔
      isBlank c = true ∨ c = ':' := by
    by_cases colon : c = ':'
    · subst colon
      decide
    · simp [colon]
  change _ ↔ trimChars (spaced part) = []
  simp only [trimChars_eq_nil_iff, spaced, List.forall_mem_map, colons, Vacant]

theorem ofWord?_cons (c : Char) (rest : List Char) :
    Direction.ofWord? (String.ofList (c :: rest)) =
      if c = 'a' ∨ c = 'A' then some .ascending
      else if c = 'd' ∨ c = 'D' then some .descending
      else none := by
  unfold Direction.ofWord?
  rw [String.toList_ofList]
  split <;> simp_all

theorem direction_reads_cons {c : Char} {rest : List Char} {direction : Direction} :
    Direction.Reads (c :: rest) direction ↔
      Direction.ofWord? (String.ofList (c :: rest)) = some direction := by
  rw [ofWord?_cons]
  constructor
  · intro reads
    cases reads with
    | ascending letter => rw [if_pos letter]
    | descending letter => rcases letter with rfl | rfl <;> rfl
  · intro found
    split_ifs at found with ascending descending
    · cases found
      exact .ascending ascending rest
    · cases found
      exact .descending descending rest

theorem ofWord?_eq_none {c : Char} {rest : List Char} :
    Direction.ofWord? (String.ofList (c :: rest)) = none ↔ c ∉ ['a', 'A', 'd', 'D'] := by
  rw [ofWord?_cons]
  split_ifs with ascending descending
  · exact iff_of_false nofun (by rcases ascending with rfl | rfl <;> decide)
  · exact iff_of_false nofun (by rcases descending with rfl | rfl <;> decide)
  · exact iff_of_true rfl (by simp_all)

/-- An entry is read by its first word and what follows it. -/
theorem readEntry_chars (e : Entry) : readEntry e.chars =
    if String.ofList e.following == "" then
      .ok ⟨Reference.ofDotted (String.ofList e.first), .unspecified⟩
    else
      (Direction.ofWord? (String.ofList e.following)).elim
        (.error (.badFragment .orderBy (String.ofList e.chars)
          ("unknown direction " ++ String.ofList e.following)))
        fun direction => .ok ⟨Reference.ofDotted (String.ofList e.first), direction⟩ := by
  simp only [readEntry, e.takeWhile_chars, e.trimChars_dropWhile_chars]
  cases Direction.ofWord? (String.ofList e.following) <;> rfl

theorem readEntry_eq_ok {e : Entry} {key : SortKey} : readEntry e.chars = .ok key ↔
    Reference.Reads e.first key.target ∧ Direction.Reads e.following key.direction := by
  obtain ⟨target, direction⟩ := key
  rw [readEntry_chars, Reference.reads_iff]
  cases e.following with
  | nil =>
    have alone : Direction.Reads [] direction ↔ direction = .unspecified := by
      refine ⟨fun reads => ?_, fun same => same ▸ .nothing⟩
      cases reads
      rfl
    simp [alone, eq_comm]
  | cons c rest =>
    have nonempty : (String.ofList (c :: rest) == "") = false := by simp
    rw [nonempty, if_neg Bool.false_ne_true, direction_reads_cons]
    cases Direction.ofWord? (String.ofList (c :: rest)) <;> simp

theorem readEntry_eq_error {e : Entry} {error : Error} : readEntry e.chars = .error error ↔
    ∃ c rest, e.following = c :: rest ∧ c ∉ ['a', 'A', 'd', 'D'] ∧
      error = .badFragment .orderBy (String.ofList e.chars)
        ("unknown direction " ++ String.ofList e.following) := by
  rw [readEntry_chars]
  cases e.following with
  | nil => simp
  | cons c rest =>
    have nonempty : (String.ofList (c :: rest) == "") = false := by simp
    rw [nonempty, if_neg Bool.false_ne_true]
    cases found : Direction.ofWord? (String.ofList (c :: rest)) with
    | none =>
      have unknown := ofWord?_eq_none.mp found
      exact ⟨fun refused => ⟨c, rest, rfl, unknown, (Except.error.inj refused).symm⟩,
        fun ⟨_, _, _, _, refused⟩ => congrArg Except.error refused.symm⟩
    | some direction =>
      refine iff_of_false nofun ?_
      rintro ⟨_, _, ⟨⟩, unknown, -⟩
      rw [ofWord?_eq_none.mpr unknown] at found
      cases found

/-! A part of the text is vacant, states a sort key or is refused. -/

theorem entryChars_ne_nil_of_holds {part : List Char} {e : Entry} (holds : Holds part e) :
    entryChars part ≠ [] := by
  rw [entryChars_of_holds holds]
  exact e.chars_ne_nil

theorem states_iff {part : List Char} {key : SortKey} :
    States part key ↔ entryChars part ≠ [] ∧ readEntry (entryChars part) = .ok key := by
  constructor
  · rintro ⟨e, holds, reads⟩
    refine ⟨entryChars_ne_nil_of_holds holds, ?_⟩
    rwa [entryChars_of_holds holds, readEntry_eq_ok]
  · rintro ⟨nonempty, read⟩
    obtain ⟨e, holds, same⟩ := exists_holds nonempty
    rw [same, readEntry_eq_ok] at read
    exact ⟨e, holds, read⟩

theorem refuses_iff {part : List Char} {error : Error} :
    Refuses part error ↔ entryChars part ≠ [] ∧ readEntry (entryChars part) = .error error := by
  constructor
  · rintro ⟨e, holds, refused⟩
    refine ⟨entryChars_ne_nil_of_holds holds, ?_⟩
    rwa [entryChars_of_holds holds, readEntry_eq_error]
  · rintro ⟨nonempty, read⟩
    obtain ⟨e, holds, same⟩ := exists_holds nonempty
    rw [same, readEntry_eq_error] at read
    exact ⟨e, holds, read⟩

/-- The sort keys that the parts state, one for each part that is not vacant. -/
inductive Lists : List (List Char) → List SortKey → Prop
  | nil : Lists [] []
  | skip {part : List Char} {parts : List (List Char)} {keys : List SortKey} (vacant : Vacant part)
      (later : Lists parts keys) : Lists (part :: parts) keys
  | state {part : List Char} {parts : List (List Char)} {key : SortKey} {keys : List SortKey}
      (states : States part key) (later : Lists parts keys) : Lists (part :: parts) (key :: keys)

/-- The part is refused, and every part before it is vacant or states a sort key. -/
def FirstRefusal (parts : List (List Char)) (error : Error) : Prop :=
  ∃ before part after, parts = before ++ part :: after ∧
    (∀ other ∈ before, Vacant other ∨ ∃ key, States other key) ∧ Refuses part error

/-- The sort keys of parts, where those that are vacant do not count. -/
def readParts (parts : List (List Char)) : Except Error (List SortKey) :=
  ((parts.map entryChars).filter fun entry => !entry.isEmpty).mapM readEntry

theorem readParts_cons_of_vacant {part : List Char} (vacant : Vacant part)
    (parts : List (List Char)) : readParts (part :: parts) = readParts parts := by
  rw [vacant_iff] at vacant
  simp [readParts, vacant]

theorem readParts_cons {part : List Char} (nonempty : entryChars part ≠ [])
    (parts : List (List Char)) : readParts (part :: parts) =
      (entryChars part :: (parts.map entryChars).filter fun entry => !entry.isEmpty).mapM readEntry := by
  simp [readParts, nonempty]

theorem readParts_eq_ok {parts : List (List Char)} {keys : List SortKey} :
    readParts parts = .ok keys ↔ Lists parts keys := by
  induction parts generalizing keys with
  | nil =>
    constructor
    · rintro ⟨⟩
      exact .nil
    · rintro ⟨⟩
      rfl
  | cons part parts ih =>
    by_cases vacant : Vacant part
    · rw [readParts_cons_of_vacant vacant, ih]
      refine ⟨.skip vacant, fun lists => ?_⟩
      cases lists with
      | skip _ later => exact later
      | state states _ => exact absurd (vacant_iff.mp vacant) (states_iff.mp states).1
    · have nonempty : entryChars part ≠ [] := fun empty => vacant (vacant_iff.mpr empty)
      rw [readParts_cons nonempty, mapM_cons_eq_ok]
      constructor
      · rintro ⟨key, keys, states, later, rfl⟩
        exact .state (states_iff.mpr ⟨nonempty, states⟩) (ih.mp later)
      · intro lists
        cases lists with
        | skip skipped _ => exact absurd skipped vacant
        | state states later => exact ⟨_, _, (states_iff.mp states).2, ih.mpr later, rfl⟩

theorem readParts_eq_error {parts : List (List Char)} {error : Error} :
    readParts parts = .error error ↔ FirstRefusal parts error := by
  induction parts with
  | nil =>
    refine iff_of_false nofun ?_
    rintro ⟨before, part, after, split, -⟩
    simp at split
  | cons part parts ih =>
    rw [FirstRefusal, exists_split_cons, ← FirstRefusal, ← ih]
    by_cases vacant : Vacant part
    · have unrefused : ¬ Refuses part error := fun refuses =>
        (refuses_iff.mp refuses).1 (vacant_iff.mp vacant)
      rw [readParts_cons_of_vacant vacant, or_iff_right unrefused, and_iff_right (Or.inl vacant)]
    · have nonempty : entryChars part ≠ [] := fun empty => vacant (vacant_iff.mpr empty)
      simp only [readParts_cons nonempty, mapM_cons_eq_error, refuses_iff, states_iff, nonempty,
        vacant, ne_eq, not_false_eq_true, true_and, false_or]
      rfl

theorem exists_readParts_eq_error {parts : List (List Char)} :
    (∃ error, readParts parts = .error error) ↔ ∃ part ∈ parts, ∃ error, Refuses part error := by
  rw [readParts, exists_mapM_eq_error]
  simp only [refuses_iff, List.mem_filter, List.mem_map, Bool.not_eq_true', List.isEmpty_eq_false_iff]
  constructor
  · rintro ⟨_, ⟨⟨part, mem, rfl⟩, nonempty⟩, error, read⟩
    exact ⟨part, mem, error, nonempty, read⟩
  · rintro ⟨part, mem, error, nonempty, read⟩
    exact ⟨_, ⟨⟨part, mem, rfl⟩, nonempty⟩, error, read⟩

theorem read_of_splits {s : String} {parts : List (List Char)}
    (splits : Splits (· == ',') s.toList parts) : read s = readParts parts := by
  rw [← splits_iff.mp splits]
  rfl

/-! Sort keys read back from their texts. -/

/-- The key sorts by a column of the record itself whose name nothing in an entry would cut. -/
structure Plain (key : SortKey) : Prop where
  own : key.target.table = none
  named : key.target.column ≠ ""
  uncut : ∀ c ∈ key.target.column.toList, c ≠ ',' ∧ c ≠ ':' ∧ c ≠ '.' ∧ isBlank c = false

theorem plain_of_all {column : String} {direction : Direction} (named : column.isEmpty = false)
    (uncut : (column.toList.all fun c => !List.contains [',', ':', '.'] c && !isBlank c) = true) :
    Plain ⟨⟨none, column⟩, direction⟩ := by
  refine ⟨rfl, by simpa using named, fun c mem => ?_⟩
  simpa [and_assoc] using List.all_eq_true.mp uncut c mem

/-- What follows the column in the text of a sort key. -/
def directionText : Direction → List Char
  | .unspecified => []
  | .ascending => ['A', 'S', 'C']
  | .descending => ['D', 'E', 'S', 'C']

theorem direction_reads_text (direction : Direction) :
    Direction.Reads (directionText direction) direction := by
  cases direction with
  | unspecified => exact .nothing
  | ascending => exact .ascending (Or.inr rfl) _
  | descending => exact .descending (Or.inr rfl) _

/-- The text of a plain sort key as an entry. -/
def Plain.entry {key : SortKey} (plain : Plain key) : Entry where
  first := key.target.column.toList
  gap := if key.direction = .unspecified then [] else [' ']
  following := directionText key.direction
  first_ne_nil := by simpa using plain.named
  first_tight c mem := (plain.uncut c mem).2.2.2
  gap_blank := by
    split
    · exact nofun
    · exact List.forall_mem_singleton.mpr rfl
  gap_eq_nil_iff := by cases key.direction <;> decide
  following_trimmed := by cases key.direction <;> exact ⟨rfl, rfl⟩

theorem Plain.text_toList {key : SortKey} (plain : Plain key) :
    key.text.toList = plain.entry.chars := by
  obtain ⟨⟨table, column⟩, direction⟩ := key
  obtain rfl : table = none := plain.own
  cases direction with
  | unspecified => simp [SortKey.text, Reference.text, Entry.chars, Plain.entry, directionText]
  | ascending | descending =>
    simp [SortKey.text, Reference.text, Entry.chars, Plain.entry, directionText, Direction.keyword]

theorem Plain.not_mem_text {key : SortKey} (plain : Plain key) {c : Char}
    (separates : c = ',' ∨ c = ':') : c ∉ key.text.toList := by
  have column : c ∉ key.target.column.toList := by
    intro mem
    obtain ⟨notComma, notColon, -⟩ := plain.uncut c mem
    exact separates.elim notComma notColon
  have behind : c ∉ plain.entry.gap ++ plain.entry.following := by
    simp only [Plain.entry]
    rcases separates with rfl | rfl <;> cases key.direction <;> decide
  rw [plain.text_toList, Entry.chars, List.mem_append]
  exact not_or.mpr ⟨column, behind⟩

/-- A plain sort key is stated by its text, also with blanks before it. -/
theorem Plain.states {key : SortKey} (plain : Plain key) {lead : List Char}
    (blank : ∀ c ∈ lead, c = ' ') : States (lead ++ key.text.toList) key := by
  have noColon : ':' ∉ lead ++ key.text.toList := by
    rw [List.mem_append, not_or]
    exact ⟨fun mem => absurd (blank _ mem) (by decide), plain.not_mem_text (Or.inr rfl)⟩
  have unchanged : spaced (lead ++ key.text.toList) = lead ++ key.text.toList := by
    refine (List.map_congr_left fun c mem => ?_).trans (List.map_id _)
    have notColon : c ≠ ':' := by
      rintro rfl
      exact noColon mem
    simp [notColon]
  refine ⟨plain.entry, ?_, ?_, direction_reads_text key.direction⟩
  · refine ⟨lead, [], fun c mem => ?_, nofun, ?_⟩
    · rw [blank c mem]
      decide
    · rw [unchanged, plain.text_toList, List.append_nil]
  · obtain ⟨⟨table, column⟩, direction⟩ := key
    obtain rfl : table = none := plain.own
    have undotted : '.' ∉ column.toList := fun mem => (plain.uncut '.' mem).2.2.1 rfl
    have reads := Reference.Reads.own undotted
    rwa [String.ofList_toList] at reads

/-- A listing is cut into its parts, each but the first with the blank before it. -/
theorem splits_intercalate {front part : List Char} {parts : List (List Char)}
    (free : ',' ∉ front) (inside : ∀ p ∈ part :: parts, ',' ∉ p) :
    Splits (· == ',') (front ++ [',', ' '].intercalate (part :: parts))
      ((front ++ part) :: parts.map (' ' :: ·)) := by
  have noComma {cs : List Char} (outside : ',' ∉ cs) : ∀ c ∈ cs, (c == ',') = false := by
    intro c mem
    rw [beq_eq_false_iff_ne]
    rintro rfl
    exact outside mem
  induction parts generalizing front part with
  | nil =>
    rw [List.intercalate_singleton]
    refine .last (noComma ?_)
    simpa [free] using inside
  | cons next parts ih =>
    rw [List.forall_mem_cons] at inside
    have here : ',' ∉ front ++ part := by simp [free, inside.1]
    have blankFree : ',' ∉ [' '] := by decide
    have later := ih blankFree inside.2
    have split : front ++ [',', ' '].intercalate (part :: next :: parts) =
        (front ++ part) ++ ',' :: ([' '] ++ [',', ' '].intercalate (next :: parts)) := by
      rw [List.intercalate_cons_cons]
      simp
    rw [split]
    exact .cons (noComma here) rfl later

theorem Lists.of_plain {keys : List SortKey} (plain : ∀ key ∈ keys, Plain key) :
    Lists (keys.map fun key => ' ' :: key.text.toList) keys := by
  induction keys with
  | nil => exact .nil
  | cons key keys ih =>
    rw [List.forall_mem_cons] at plain
    have blank : ∀ c ∈ [' '], c = ' ' := fun c mem => List.mem_singleton.mp mem
    exact .state (plain.1.states blank) (ih plain.2)

/-- Sort keys of the record's own columns are read back from their texts. -/
theorem read_texts {keys : List SortKey} (plain : ∀ key ∈ keys, Plain key) :
    read (", ".intercalate (keys.map SortKey.text)) = .ok keys := by
  cases keys with
  | nil => rfl
  | cons key keys =>
    have inside : ∀ part ∈ (key :: keys).map fun key => key.text.toList, ',' ∉ part := by
      rw [List.forall_mem_map]
      exact fun key mem => (plain key mem).not_mem_text (Or.inl rfl)
    rw [List.forall_mem_cons] at plain
    have text : (", ".intercalate ((key :: keys).map SortKey.text)).toList =
        [] ++ [',', ' '].intercalate ((key :: keys).map fun key => key.text.toList) := by
      rw [String.toList_intercalate, List.map_map]
      rfl
    have splits : Splits (· == ',') (", ".intercalate ((key :: keys).map SortKey.text)).toList
        (key.text.toList :: keys.map fun key => ' ' :: key.text.toList) := by
      have nothing : ',' ∉ ([] : List Char) := nofun
      have cut := splits_intercalate nothing inside
      rw [List.map_map] at cut
      rw [text]
      exact cut
    have first : States ([] ++ key.text.toList) key := plain.1.states nofun
    rw [read_of_splits splits, readParts_eq_ok]
    exact .state first (Lists.of_plain plain.2)

/-- An order-by text is cut at its commas. It is read as the sort keys that its parts state, in
their order and without those parts that are vacant, and it is refused with the error of the first
part that is refused, if there is one. Sort keys of the record's own columns, written one after
another, are read back. -/
theorem read_entries :
    (∀ s : String, ∃ parts, Splits (· == ',') s.toList parts ∧
      (∀ keys, read s = .ok keys ↔ Lists parts keys) ∧
      (∀ error, read s = .error error ↔ FirstRefusal parts error) ∧
      ((∃ error, read s = .error error) ↔ ∃ part ∈ parts, ∃ error, Refuses part error)) ∧
    ∀ keys : List SortKey, (∀ key ∈ keys, Plain key) →
      read (", ".intercalate (keys.map SortKey.text)) = .ok keys := by
  refine ⟨fun s => ?_, fun keys plain => read_texts plain⟩
  have splits : Splits (· == ',') s.toList (pieces (· == ',') s.toList) := splits_pieces s.toList
  refine ⟨_, splits, ?_⟩
  rw [read_of_splits splits]
  exact ⟨fun keys => readParts_eq_ok, fun error => readParts_eq_error, exists_readParts_eq_error⟩

def sampleKeys : List SortKey :=
  [⟨⟨none, "âge"⟩, .descending⟩, ⟨⟨none, "a\"b"⟩, .unspecified⟩, ⟨⟨none, "id"⟩, .ascending⟩]

/-- Keys that are read back, and a text whose third entry is refused before its last one could
be. -/
theorem read_entries_sample :
    (∀ key ∈ sampleKeys, Plain key) ∧
      read "âge DESC, a\"b, id ASC" = .ok sampleKeys ∧
      ∃ parts, Splits (· == ',') ".id:Ascending order,: ,y::up ,z x".toList parts ∧
        FirstRefusal parts (.badFragment .orderBy "y  up" "unknown direction up") := by
  obtain ⟨entries, texts⟩ := read_entries
  have plain : ∀ key ∈ sampleKeys, Plain key := by
    simp only [sampleKeys, List.forall_mem_cons]
    exact ⟨plain_of_all rfl rfl, plain_of_all rfl rfl, plain_of_all rfl rfl, nofun⟩
  obtain ⟨parts, splits, -, refusal, -⟩ := entries ".id:Ascending order,: ,y::up ,z x"
  exact ⟨plain, texts sampleKeys plain, parts, splits, (refusal _).mp rfl⟩

end OrderBy

end RecordQuery
