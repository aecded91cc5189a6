import RecordQuery.Proofs.Name.Spelling
import RecordQuery.Proofs.Record.Relations

/-!
Relations by the spelling of their names. Snapshots are made by additions, one after another. A
relation goes under the letters and digits of its name, so whichever case and punctuation a table is
written in, the same relation is found. It is the one that was added last in its direction under the
canonical name, and a relation in the forward direction is taken before any other.
-/

namespace RecordQuery

namespace Name

/-- The letters and digits of a name, in lower case. -/
def letters (name : String) : List Char :=
  (name.toList.map Char.toLower).filter Char.isAlphanum

/-- The name is ASCII and has a letter or a digit. -/
structure IsTable (name : String) : Prop where
  ascii : ∀ c ∈ name.toList, c.toNat < 0x80
  named : ∃ c ∈ name.toList, c.isAlphanum = true

/-- Two tables have the same letters and digits, whatever their case and their punctuation. -/
structure Alike (table other : String) : Prop where
  left : IsTable table
  right : IsTable other
  same : letters table = letters other

theorem isAlphanum_toLower {c : Char} (ascii : c.toNat < 0x80) :
    c.toLower.isAlphanum = c.isAlphanum :=
  forall_ascii (p := fun c => c.toLower.isAlphanum = c.isAlphanum) (by decide +kernel) ascii

theorem plainChars_singleton {c : Char} (ascii : c.toNat < 0x80) :
    plainChars [c] = [c.toLower].filter Char.isAlphanum :=
  forall_ascii (p := fun c => plainChars [c] = [c.toLower].filter Char.isAlphanum)
    (by decide +kernel) ascii

theorem plainChars_eq_letters {name : String} (ascii : ∀ c ∈ name.toList, c.toNat < 0x80) :
    plainChars name.toList = letters name := by
  unfold letters
  generalize name.toList = cs at ascii ⊢
  induction cs with
  | nil => rfl
  | cons c cs ih =>
    rw [List.forall_mem_cons] at ascii
    rw [← List.singleton_append, plainChars_append, plainChars_singleton ascii.1, ih ascii.2,
      ← List.filter_append]
    rfl

theorem letters_ne_nil_iff {name : String} (ascii : ∀ c ∈ name.toList, c.toNat < 0x80) :
    letters name ≠ [] ↔ ∃ c ∈ name.toList, c.isAlphanum = true := by
  simp only [letters, ne_eq, List.filter_eq_nil_iff, List.mem_map, forall_exists_index, and_imp,
    forall_apply_eq_imp_iff₂, not_forall, not_not]
  constructor
  · rintro ⟨c, mem, letter⟩
    exact ⟨c, mem, isAlphanum_toLower (ascii c mem) ▸ letter⟩
  · rintro ⟨c, mem, letter⟩
    exact ⟨c, mem, (isAlphanum_toLower (ascii c mem)).trans letter⟩

theorem Alike.canonical_eq {table other : String} (alike : Alike table other) :
    canonical table = canonical other := by
  rw [canonical, canonical, plainChars_eq_letters alike.left.ascii,
    plainChars_eq_letters alike.right.ascii, alike.same]

/-- A name is like its form in lower case, whose words are joined by underscores. -/
theorem IsTable.alike_snakeCase {name : String} (isTable : IsTable name) :
    Alike name (snakeCase name) := by
  have ascii : ∀ c ∈ (snakeCase name).toList, c.toNat < 0x80 := by
    intro c mem
    rw [snakeCase, String.toList_ofList] at mem
    exact (snakeChars_uncapital isTable.ascii c mem).1
  have same : letters name = letters (snakeCase name) := by
    rw [← plainChars_eq_letters ascii, ← plainChars_eq_letters isTable.ascii, snakeCase,
      String.toList_ofList, plainChars_snakeChars isTable.ascii]
  have named : letters (snakeCase name) ≠ [] := by
    rw [← same]
    exact (letters_ne_nil_iff isTable.ascii).mpr isTable.named
  exact ⟨isTable, ⟨ascii, (letters_ne_nil_iff ascii).mp named⟩, same⟩

end Name

namespace Snapshot

/-- What is added to a snapshot. -/
inductive Addition where
  | field (column : String) (value : Value)
  | forward (name : String) (related : Snapshot)
  | back (name : String) (related : Snapshot)
  deriving DecidableEq, Repr

namespace Addition

def addTo (s : Snapshot) : Addition → Snapshot
  | field column value => s.withField column value
  | forward name related => s.withForward name related
  | back name related => s.withBack name related

/-- The relation that is added in the direction under the canonical name, if there is one. -/
def under (role : Role) (key : String) : Addition → Option Snapshot
  | field _ _ => none
  | forward name related =>
    if role = .forward ∧ Name.canonical name = key then some related else none
  | back name related => if role = .back ∧ Name.canonical name = key then some related else none

end Addition

/-- The snapshot that additions make, one after another. -/
def ofAdditions (additions : List Addition) : Snapshot :=
  additions.foldl Addition.addTo empty

/-- Of the relations that are added in the direction under the canonical name, the last one. -/
def AddedLast (additions : List Addition) (role : Role) (key : String) (related : Snapshot) :
    Prop :=
  ∃ before addition after, additions = before ++ addition :: after ∧
    addition.under role key = some related ∧ ∀ later ∈ after, later.under role key = none

/-- An addition changes what is found under its own canonical name in its own direction, and
nothing else. -/
theorem find?_related_addTo (s : Snapshot) (addition : Addition) (role : Role) (key : String) :
    ((addition.addTo s).related role).find? key =
      (addition.under role key).or ((s.related role).find? key) := by
  cases addition with
  | field column value => cases role <;> rfl
  | forward name related =>
    cases role with
    | field | back => rfl
    | forward =>
      change (s.forward.insert (Name.canonical name) related).find? key = _
      rw [Assoc.find?_insert]
      by_cases same : key = Name.canonical name
      · simp [Addition.under, same]
      · simp [Addition.under, same, Ne.symm same, Snapshot.related]
  | back name related =>
    cases role with
    | field | forward => rfl
    | back =>
      change (s.back.insert (Name.canonical name) related).find? key = _
      rw [Assoc.find?_insert]
      by_cases same : key = Name.canonical name
      · simp [Addition.under, same]
      · simp [Addition.under, same, Ne.symm same, Snapshot.related]

theorem find?_related_foldl (additions : List Addition) (s : Snapshot) (role : Role)
    (key : String) : ((additions.foldl Addition.addTo s).related role).find? key =
      (additions.reverse.findSome? (Addition.under role key)).or ((s.related role).find? key) := by
  induction additions generalizing s with
  | nil => rfl
  | cons addition rest ih =>
    rw [List.foldl_cons, ih, find?_related_addTo, List.reverse_cons, List.findSome?_append,
      List.findSome?_singleton, Option.or_assoc]

/-- What is found in a direction is what was added last. -/
theorem find?_related_eq_some {additions : List Addition} {role : Role} {key : String}
    {related : Snapshot} : ((ofAdditions additions).related role).find? key = some related ↔
      AddedLast additions role key related := by
  have nothing : (empty.related role).find? key = none := by cases role <;> rfl
  rw [ofAdditions, find?_related_foldl, nothing, Option.or_none]
  exact findSome?_reverse_eq_some

theorem find?_related_eq_none {additions : List Addition} {role : Role} {key : String} :
    ((ofAdditions additions).related role).find? key = none ↔
      ∀ addition ∈ additions, addition.under role key = none := by
  have nothing : (empty.related role).find? key = none := by cases role <;> rfl
  rw [ofAdditions, find?_related_foldl, nothing, Option.or_none, List.findSome?_eq_none_iff]
  simp only [List.mem_reverse]

/-- The relation that a name finds after additions: the last one in the forward direction under its
canonical name, or if there is none the last one in the other direction. -/
def Prevails (additions : List Addition) (name : String) (related : Snapshot) : Prop :=
  AddedLast additions .forward (Name.canonical name) related ∨
    (∀ addition ∈ additions, addition.under .forward (Name.canonical name) = none) ∧
      AddedLast additions .back (Name.canonical name) related

theorem relation?_ofAdditions {additions : List Addition} {name : String} {related : Snapshot} :
    (ofAdditions additions).relation? name = some related ↔ Prevails additions name related := by
  rw [relation?_eq_related, Option.or_eq_some_iff, find?_related_eq_some, find?_related_eq_some,
    find?_related_eq_none, Prevails]

theorem relation?_of_alike {table other : String} (alike : Name.Alike table other) (s : Snapshot) :
    s.relation? table = s.relation? other := by
  rw [relation?, relation?, alike.canonical_eq]

/-- The columns of a table are those of the relation that its name finds. -/
theorem get?_of_isTable {table : String} (isTable : Name.IsTable table) (s : Snapshot)
    (column : String) : s.get? (some table) column =
      (s.relation? table).bind fun related => related.fields.find? column := by
  simp [get?, holder?, isOwnTable_eq_false isTable.named]

theorem get?_of_alike {table other : String} (alike : Name.Alike table other) (s : Snapshot)
    (column : String) : s.get? (some table) column = s.get? (some other) column := by
  rw [get?_of_isTable alike.left, get?_of_isTable alike.right, relation?_of_alike alike]

/-- Relations are found by the letters and digits of their names, whatever the case and the
punctuation of a table, and so are their columns. What is found is the last relation that was added
under the canonical name, where one in the forward direction is taken before all in the other. -/
theorem relation?_any_spelling (additions : List Addition) :
    (∀ table other, Name.Alike table other →
      (ofAdditions additions).relation? table = (ofAdditions additions).relation? other ∧
      ∀ column, (ofAdditions additions).get? (some table) column =
        (ofAdditions additions).get? (some other) column) ∧
    (∀ name, Name.IsTable name → Name.Alike name (Name.snakeCase name)) ∧
    (∀ name related, (ofAdditions additions).relation? name = some related ↔
      Prevails additions name related) ∧
    ∀ table, Name.IsTable table → ∀ column, (ofAdditions additions).get? (some table) column =
      ((ofAdditions additions).relation? table).bind fun related =>
        related.fields.find? column := by
  refine ⟨fun table other alike => ⟨?_, fun column => ?_⟩, ?_, ?_, ?_⟩
  · exact relation?_of_alike alike _
  · exact get?_of_alike alike _ column
  · exact fun name isTable => isTable.alike_snakeCase
  · exact fun name related => relation?_ofAdditions
  · exact fun table isTable column => get?_of_isTable isTable _ column

/-- One column, and three relations that have one canonical name. -/
def sampleAdditions : List Addition :=
  [.forward "Task_Lists" (Schema.namedSnapshot "first"), .field "id" (.scalar (.int 7)),
    .forward "task list" (Schema.namedSnapshot "second"),
    .back "TaskList" (Schema.namedSnapshot "third")]

/-- A name and its form in lower case find the forward relation that was added last, though one in
the other direction was added after it. -/
theorem relation?_any_spelling_taskLists :
    Name.snakeCase "TaskLists" = "task_lists" ∧
      (ofAdditions sampleAdditions).relation? "TaskLists" =
        some (Schema.namedSnapshot "second") ∧
      (ofAdditions sampleAdditions).relation? "TaskLists" =
        (ofAdditions sampleAdditions).relation? "task_lists" ∧
      (ofAdditions sampleAdditions).get? (some "TaskLists") "name" =
        (ofAdditions sampleAdditions).get? (some "task_lists") "name" := by
  obtain ⟨spelled, snake, found, -⟩ := relation?_any_spelling sampleAdditions
  have lower : Name.snakeCase "TaskLists" = "task_lists" := by decide +kernel
  have isTable : Name.IsTable "TaskLists" := ⟨by simp, 'T', by simp, by decide⟩
  have alike : Name.Alike "TaskLists" "task_lists" := lower ▸ snake "TaskLists" isTable
  obtain ⟨relation, columns⟩ := spelled "TaskLists" "task_lists" alike
  have sought : Name.canonical "TaskLists" = "tasklist" := by decide +kernel
  have stored : Name.canonical "task list" = "tasklist" := by decide +kernel
  refine ⟨lower, (found _ _).mpr (Or.inl ?_), relation, columns "name"⟩
  rw [sought]
  refine ⟨sampleAdditions.take 2, .forward "task list" (Schema.namedSnapshot "second"),
    sampleAdditions.drop 3, rfl, ?_, ?_⟩
  · simp [Addition.under, stored]
  · simp [sampleAdditions, Addition.under]

end Snapshot

end RecordQuery
