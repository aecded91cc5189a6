import RecordQuery.Proofs.Query.Pages
import RecordQuery.Proofs.Sorting.KeyByKey
import RecordQuery.Request.Fragments

/-!
Requests from their parameters. Each text of a request is the last value under the name of its
parameter, whatever stands under other names. The four texts are read one after another, and the
first that cannot be read is the error. What they say becomes the clauses of a query, which cuts
the requested page, or else the default one, out of the answer to its conditions and sort keys.
-/

namespace RecordQuery

/-- The name of the parameter for a part of the request. -/
def ParameterNames.of (names : ParameterNames) : Fragment → String
  | .filter => names.filter
  | .orderBy => names.orderBy
  | .limit => names.limit
  | .offset => names.offset

namespace Fragments

def text (fragments : Fragments) : Fragment → String
  | .filter => fragments.filter
  | .orderBy => fragments.orderBy
  | .limit => fragments.limit
  | .offset => fragments.offset

def set (fragments : Fragments) (value : String) : Fragment → Fragments
  | .filter => { fragments with filter := value }
  | .orderBy => { fragments with orderBy := value }
  | .limit => { fragments with limit := value }
  | .offset => { fragments with offset := value }

theorem text_set (fragments : Fragments) (value : String) (changed fragment : Fragment) :
    (fragments.set value changed).text fragment =
      if changed = fragment then value else fragments.text fragment := by
  cases changed <;> cases fragment <;> rfl

/-- The value that a list of parameters gives under a name: that of the last parameter with this
name, and an empty text if there is none. -/
inductive Gives (name : String) : List (String × String) → String → Prop
  | nothing {parameters : List (String × String)} (absent : ∀ p ∈ parameters, p.1 ≠ name) :
      Gives name parameters ""
  | last (before : List (String × String)) (value : String) {after : List (String × String)}
      (absent : ∀ p ∈ after, p.1 ≠ name) : Gives name (before ++ (name, value) :: after) value

/-- The parameters with a name, in their order. -/
def under (name : String) (parameters : List (String × String)) : List (String × String) :=
  parameters.filter fun p => p.1 == name

theorem under_eq_nil {name : String} {parameters : List (String × String)}
    (absent : ∀ p ∈ parameters, p.1 ≠ name) : under name parameters = [] := by
  rw [under, List.filter_eq_nil_iff]
  intro p mem
  rw [beq_iff_eq]
  exact absent p mem

theorem under_append (name : String) (before after : List (String × String)) :
    under name (before ++ after) = under name before ++ under name after :=
  List.filter_append before after

theorem under_cons (name : String) (p : String × String) (rest : List (String × String)) :
    under name (p :: rest) = if p.1 = name then p :: under name rest else under name rest := by
  simp only [under, List.filter_cons, beq_iff_eq]

theorem Gives.last_under {name value : String} {parameters : List (String × String)}
    (gives : Gives name parameters value) :
    ((under name parameters).getLast?.map Prod.snd).getD "" = value := by
  cases gives with
  | nothing absent =>
    rw [under_eq_nil absent]
    rfl
  | last before value absent =>
    rw [under_append, under_cons, if_pos rfl, under_eq_nil absent, List.getLast?_concat]
    rfl

theorem exists_gives (name : String) (parameters : List (String × String)) :
    ∃ value, Gives name parameters value := by
  induction parameters with
  | nil => exact ⟨"", .nothing nofun⟩
  | cons p rest ih =>
    obtain ⟨value, gives⟩ := ih
    cases gives with
    | last before value absent => exact ⟨value, .last (p :: before) value absent⟩
    | nothing absent =>
      obtain ⟨other, value⟩ := p
      by_cases same : other = name
      · subst same
        exact ⟨value, .last [] value absent⟩
      · exact ⟨"", .nothing (List.forall_mem_cons.mpr ⟨same, absent⟩)⟩

section Names

variable {names : ParameterNames}

theorem assign_eq (fragments : Fragments) (name value : String) :
    assign names fragments (name, value) =
      if name = names.of .filter then fragments.set value .filter
      else if name = names.of .orderBy then fragments.set value .orderBy
      else if name = names.of .limit then fragments.set value .limit
      else if name = names.of .offset then fragments.set value .offset
      else fragments := by
  simp only [assign, beq_iff_eq]
  rfl

/-- A parameter changes the text with its name and leaves the others. -/
theorem text_assign (distinct : Function.Injective names.of) (fragments : Fragments)
    (parameter : String × String) (fragment : Fragment) :
    (assign names fragments parameter).text fragment =
      if parameter.1 = names.of fragment then parameter.2 else fragments.text fragment := by
  obtain ⟨name, value⟩ := parameter
  rw [assign_eq]
  by_cases named : ∃ changed, names.of changed = name
  · obtain ⟨changed, rfl⟩ := named
    simp only [distinct.eq_iff]
    rw [← text_set]
    cases changed <;> rfl
  · have other (f : Fragment) : name ≠ names.of f := fun same => named ⟨f, same.symm⟩
    simp only [other, if_false]

/-- After any parameters a text is the last value under its name, and what it was without one. -/
theorem text_foldl (distinct : Function.Injective names.of) (fragments : Fragments)
    (parameters : List (String × String)) (fragment : Fragment) :
    (parameters.foldl (assign names) fragments).text fragment =
      ((under (names.of fragment) parameters).getLast?.map Prod.snd).getD
        (fragments.text fragment) := by
  induction parameters generalizing fragments with
  | nil => rfl
  | cons p rest ih =>
    rw [List.foldl_cons, ih, text_assign distinct, under_cons]
    by_cases same : p.1 = names.of fragment
    · rw [if_pos same, if_pos same, List.getLast?_cons]
      cases (under (names.of fragment) rest).getLast? <;> rfl
    · rw [if_neg same, if_neg same]

theorem text_ofParameters (distinct : Function.Injective names.of)
    (parameters : List (String × String)) (fragment : Fragment) :
    (ofParameters names parameters).text fragment =
      ((under (names.of fragment) parameters).getLast?.map Prod.snd).getD "" := by
  rw [ofParameters, text_foldl distinct]
  cases fragment <;> rfl

theorem text_ofParameters_iff (distinct : Function.Injective names.of)
    {parameters : List (String × String)} {fragment : Fragment} {value : String} :
    (ofParameters names parameters).text fragment = value ↔
      Gives (names.of fragment) parameters value := by
  rw [text_ofParameters distinct]
  refine ⟨?_, Gives.last_under⟩
  rintro rfl
  obtain ⟨value, gives⟩ := exists_gives (names.of fragment) parameters
  rwa [gives.last_under]

end Names

/-- What the four texts of a request say. -/
structure Meaning where
  limit : Option Nat
  offset : Option Nat
  conditions : List Condition
  keys : List SortKey

/-- Every text of the request can be read. -/
structure Reads (fragments : Fragments) (m : Meaning) : Prop where
  limit : Request.readLimit fragments.limit = .ok m.limit
  offset : Request.readOffset fragments.offset = .ok m.offset
  conditions : Filter.read fragments.filter = .ok m.conditions
  keys : OrderBy.read fragments.orderBy = .ok m.keys

/-- The error of the first text that cannot be read. The limit is read first, then the offset, the
filter and the order. -/
inductive FailsFirst (fragments : Fragments) : Error → Prop
  | limit {e : Error} (fails : Request.readLimit fragments.limit = .error e) :
      FailsFirst fragments e
  | offset {limit : Option Nat} {e : Error}
      (limit_ok : Request.readLimit fragments.limit = .ok limit)
      (fails : Request.readOffset fragments.offset = .error e) : FailsFirst fragments e
  | filter {limit offset : Option Nat} {e : Error}
      (limit_ok : Request.readLimit fragments.limit = .ok limit)
      (offset_ok : Request.readOffset fragments.offset = .ok offset)
      (fails : Filter.read fragments.filter = .error e) : FailsFirst fragments e
  | orderBy {limit offset : Option Nat} {conditions : List Condition} {e : Error}
      (limit_ok : Request.readLimit fragments.limit = .ok limit)
      (offset_ok : Request.readOffset fragments.offset = .ok offset)
      (filter_ok : Filter.read fragments.filter = .ok conditions)
      (fails : OrderBy.read fragments.orderBy = .error e) : FailsFirst fragments e

namespace Meaning

variable (m : Meaning) (page : DefaultPage)

/-- The clauses without a page. -/
def unpaged : List Clause :=
  m.conditions.map .condition ++ m.keys.map .sort

/-- The clauses with the requested page. What the request does not say is as in the default. -/
def clauses : List Clause :=
  ((m.limit.or page.limit).map .limit).toList ++ ((m.offset.or page.offset).map .offset).toList ++
    m.unpaged

/-- The part of an answer on the requested page. -/
def window {α : Type} (answer : List α) : List α :=
  let rest := answer.drop ((m.offset.or page.offset).getD 0)
  match m.limit.or page.limit with
  | none => rest
  | some n => rest.take n

theorem no_offset (n : Nat) : .offset n ∉ m.unpaged := by
  simp [unpaged]

theorem no_limit (n : Nat) : .limit n ∉ m.unpaged := by
  simp [unpaged]

theorem firstOffset_unpaged : Query.firstOffset m.unpaged = 0 := by
  rw [← Query.ofClauses_offset, ← Query.unpaged_ofClauses m.no_offset m.no_limit]
  rfl

theorem firstLimit_unpaged : Query.firstLimit m.unpaged = none := by
  rw [← Query.ofClauses_limit, ← Query.unpaged_ofClauses m.no_offset m.no_limit]
  rfl

theorem firstOffset_clauses :
    Query.firstOffset (m.clauses page) = (m.offset.or page.offset).getD 0 := by
  rw [clauses]
  cases m.offset.or page.offset with
  | some k => cases m.limit.or page.limit <;> rfl
  | none => cases m.limit.or page.limit <;> exact m.firstOffset_unpaged

theorem firstLimit_clauses : Query.firstLimit (m.clauses page) = m.limit.or page.limit := by
  rw [clauses]
  cases m.limit.or page.limit with
  | some n => rfl
  | none => cases m.offset.or page.offset <;> exact m.firstLimit_unpaged

theorem unpaged_clauses :
    (Query.ofClauses (m.clauses page)).unpaged = Query.ofClauses m.unpaged := by
  rw [← Query.unpaged_ofClauses m.no_offset m.no_limit, clauses]
  cases m.limit.or page.limit <;> cases m.offset.or page.offset <;> rfl

/-- The clauses show the part of an answer that is on the requested page. -/
theorem page_clauses {α : Type} (answer : List α) :
    (Query.ofClauses (m.clauses page)).page answer = m.window page answer := by
  rw [Query.page_eq_window, Query.window, m.firstOffset_clauses, m.firstLimit_clauses]
  rfl

/-- The page is cut out of the answer to the clauses without it. -/
theorem run_clauses {ρ : Type} (schema : Schema ρ) (options : EvaluationOptions)
    (records : List ρ) :
    (Query.ofClauses (m.clauses page)).run schema options records =
      ((Query.ofClauses m.unpaged).run schema options records).map (m.window page) := by
  rw [Query.run_eq_map_page, m.unpaged_clauses, funext (m.page_clauses page)]

theorem no_group (target : Reference) : .group target ∉ m.clauses page := by
  simp [clauses, unpaged]

theorem conditions_clauses : (Query.ofClauses (m.clauses page)).conditions = m.conditions := by
  calc
    (Query.ofClauses (m.clauses page)).conditions =
        (Query.ofClauses (m.clauses page)).unpaged.conditions := rfl
    _ = (Query.ofClauses m.unpaged).conditions := by rw [unpaged_clauses]
    _ = m.conditions := by
      simp [Query.ofClauses, unpaged, Query.condition?, List.filterMap_append, List.filterMap_map,
        Function.comp_def]

theorem keys_clauses : (Query.ofClauses (m.clauses page)).keys = m.keys := by
  calc
    (Query.ofClauses (m.clauses page)).keys =
        (Query.ofClauses (m.clauses page)).unpaged.keys := rfl
    _ = (Query.ofClauses m.unpaged).keys := by rw [unpaged_clauses]
    _ = m.keys := by
      simp [Query.ofClauses, unpaged, Query.key?, List.filterMap_append, List.filterMap_map,
        Function.comp_def]

/-! What a request selects. -/

section Selecting

variable {options : EvaluationOptions} {snapshots : Array Snapshot} {sorted : Selection snapshots}

/-- The positions of the snapshots that satisfy the conditions, in ascending order. -/
def kept (options : EvaluationOptions) (snapshots : Array Snapshot) : Selection snapshots :=
  List.filter (Selection.passes options.nullSemantics m.conditions) (Selection.all snapshots)

/-- The selection is what the conditions keep, arranged by the keys. Every snapshot can be decided,
and those that are kept can be compared by every key. -/
structure Arranges (options : EvaluationOptions) (sorted : Selection snapshots) : Prop where
  decided : ∀ i : Fin snapshots.size, ∃ decision, Selection.satisfies options.nullSemantics
    (Selection.snapshotAt i) m.conditions = .ok decision
  uniform : ∀ key ∈ m.keys, Selection.Uniform key.target (m.kept options snapshots)
  sorted : Selection.SortedFrom options.nulls m.keys (m.kept options snapshots) sorted

theorem arranges_iff : m.Arranges options sorted ↔ ∃ kept,
    (Selection.all snapshots).filter options.nullSemantics m.conditions = .ok kept ∧
    Selection.sort options.nulls m.keys kept = .ok sorted := by
  simp only [Selection.filter_eq_ok, Selection.sort_eq_ok_iff]
  constructor
  · intro arranges
    exact ⟨m.kept options snapshots, ⟨fun i _ => arranges.decided i, rfl⟩, arranges.uniform,
      arranges.sorted⟩
  · rintro ⟨_, ⟨decided, rfl⟩, uniform, sorted⟩
    exact ⟨fun i => decided i (List.mem_finRange i), uniform, sorted⟩

end Selecting

variable {ρ : Type} {schema : Schema ρ} {options : EvaluationOptions} {records answer : List ρ}

/-- What a request answers with. All records can be reflected, and the records whose snapshots
satisfy the conditions are arranged by the keys. Those on the requested page are the answer. -/
def Answers (schema : Schema ρ) (options : EvaluationOptions) (records answer : List ρ) : Prop :=
  ∃ snapshots, List.Forall₂ (fun r s => schema.reflect r = .ok s) records snapshots ∧
    ∃ sorted : Selection snapshots.toArray, m.Arranges options sorted ∧
      answer = (m.window page sorted).filterMap fun i => records[i.val]?

theorem answers_iff : (Query.ofClauses (m.clauses page)).run schema options records = .ok answer ↔
    m.Answers page schema options records answer := by
  have ungrouped := Query.groups_eq_nil (m.no_group page)
  simp only [Answers, arranges_iff, Query.run_eq_ok, Query.select_eq_ok ungrouped,
    conditions_clauses, keys_clauses, page_clauses]
  constructor
  · rintro ⟨snapshots, reflected, _, ⟨kept, sorted, filtered, sorts, rfl⟩, same⟩
    exact ⟨snapshots, reflected, sorted, ⟨kept, filtered, sorts⟩, same⟩
  · rintro ⟨snapshots, reflected, sorted, ⟨kept, filtered, sorts⟩, same⟩
    exact ⟨snapshots, reflected, _, ⟨kept, sorted, filtered, sorts, rfl⟩, same⟩

end Meaning

theorem clauses_eq_ok {fragments : Fragments} {page : DefaultPage} {clauses : List Clause} :
    fragments.clauses page = .ok clauses ↔
      ∃ m : Meaning, fragments.Reads m ∧ clauses = m.clauses page := by
  unfold Fragments.clauses
  simp only [bind_eq_ok, Meaning.clauses, Meaning.unpaged, ← List.append_assoc]
  constructor
  · rintro ⟨limit, limit_ok, offset, offset_ok, conditions, filter_ok, keys, orderBy_ok, done⟩
    exact ⟨⟨limit, offset, conditions, keys⟩, ⟨limit_ok, offset_ok, filter_ok, orderBy_ok⟩,
      (Except.ok.inj done).symm⟩
  · rintro ⟨m, reads, rfl⟩
    exact ⟨m.limit, reads.limit, m.offset, reads.offset, m.conditions, reads.conditions, m.keys,
      reads.keys, rfl⟩

theorem clauses_eq_error {fragments : Fragments} {page : DefaultPage} {e : Error} :
    fragments.clauses page = .error e ↔ fragments.FailsFirst e := by
  unfold Fragments.clauses
  simp only [bind_eq_error]
  constructor
  · rintro (fails | ⟨limit, limit_ok, fails | ⟨offset, offset_ok, fails |
      ⟨conditions, filter_ok, fails | ⟨keys, orderBy_ok, done⟩⟩⟩⟩)
    · exact .limit fails
    · exact .offset limit_ok fails
    · exact .filter limit_ok offset_ok fails
    · exact .orderBy limit_ok offset_ok filter_ok fails
    · cases done
  · intro first
    cases first with
    | limit fails => exact Or.inl fails
    | offset limit_ok fails => exact Or.inr ⟨_, limit_ok, Or.inl fails⟩
    | filter limit_ok offset_ok fails =>
      exact Or.inr ⟨_, limit_ok, Or.inr ⟨_, offset_ok, Or.inl fails⟩⟩
    | orderBy limit_ok offset_ok filter_ok fails =>
      exact Or.inr ⟨_, limit_ok, Or.inr ⟨_, offset_ok, Or.inr ⟨_, filter_ok, Or.inl fails⟩⟩⟩

/-- With a different name for each parameter, the texts of a request are the last values under
these names, and nothing else among the parameters changes them. The clauses are what the four
texts say if all of them can be read, and otherwise the error is that of the first that cannot be.
A query of these clauses filters the records by the conditions, sorts them by the keys and answers
with the requested page of them, or else the default one. That is this page of the answer to the
conditions and sort keys alone, or the same error. -/
theorem request_of_parameters {names : ParameterNames} (distinct : Function.Injective names.of) :
    (∀ parameters fragment value, (ofParameters names parameters).text fragment = value ↔
      Gives (names.of fragment) parameters value) ∧
    (∀ parameters others fragment,
      under (names.of fragment) parameters = under (names.of fragment) others →
      (ofParameters names parameters).text fragment = (ofParameters names others).text fragment) ∧
    ∀ (fragments : Fragments) (page : DefaultPage),
      (∀ clauses, fragments.clauses page = .ok clauses ↔
        ∃ m : Meaning, fragments.Reads m ∧ clauses = m.clauses page) ∧
      (∀ e, fragments.clauses page = .error e ↔ fragments.FailsFirst e) ∧
      ∀ clauses, fragments.clauses page = .ok clauses → ∀ m : Meaning, fragments.Reads m →
        ∀ {ρ : Type} (schema : Schema ρ) (options : EvaluationOptions) (records : List ρ),
          (∀ answer, (Query.ofClauses clauses).run schema options records = .ok answer ↔
            m.Answers page schema options records answer) ∧
          (Query.ofClauses clauses).run schema options records =
            ((Query.ofClauses m.unpaged).run schema options records).map (m.window page) := by
  refine ⟨fun parameters fragment value => text_ofParameters_iff distinct, ?_, ?_⟩
  · intro parameters others fragment same
    rw [text_ofParameters distinct, text_ofParameters distinct, same]
  · intro fragments page
    refine ⟨fun clauses => clauses_eq_ok, fun e => clauses_eq_error, ?_⟩
    intro clauses succeeds m reads ρ schema options records
    have stated : fragments.clauses page = .ok (m.clauses page) := clauses_eq_ok.mpr ⟨m, reads, rfl⟩
    cases succeeds.symm.trans stated
    exact ⟨fun answer => m.answers_iff page, m.run_clauses page schema options records⟩

/-- A request for people by their age but the first. Its limit is taken back at last. -/
def sampleParameters : List (String × String) :=
  [("$limit", "2"), ("$sort", "age desc"), ("page", "7"), ("$offset", " 1"), ("$limit", " ")]

def sampleFragments : Fragments :=
  { orderBy := "age desc", limit := " ", offset := " 1" }

def sampleMeaning : Meaning :=
  ⟨none, some 1, [], [⟨⟨none, "age"⟩, .descending⟩]⟩

/-- The rank of the visitors by age, null first and the greatest age next. -/
def visitorRank : Fin 4 → Nat
  | 0 => 0
  | 2 => 1
  | _ => 2

theorem visitors_order : ∀ i j : Fin Query.visitorSnapshots.toArray.size,
    (Selection.order .first sampleMeaning.keys (Selection.snapshotAt i)
      (Selection.snapshotAt j)).isLE = decide (visitorRank i ≤ visitorRank j) := by
  decide +kernel

/-- The visitor without an age is before the others, who follow from the eldest on. -/
theorem sample_answers : sampleMeaning.Answers { limit := some 9 } Query.peopleSchema {}
    Query.visitors [some 5, some 2, some 2] := by
  have sorts : Selection.sort .first sampleMeaning.keys (Query.visitorSelection [0, 1, 2, 3]) =
      .ok (Query.visitorSelection [0, 2, 1, 3]) := by
    have ranked : [0, 2, 1, 3] =
        ([0, 1, 2, 3] : List (Fin 4)).mergeSort fun i j => visitorRank i ≤ visitorRank j := by
      simp [visitorRank, List.mergeSort]
    exact Selection.sort_of_ranked (by rfl) visitors_order ranked
  have arranges : sampleMeaning.Arranges {} (Query.visitorSelection [0, 2, 1, 3]) :=
    sampleMeaning.arranges_iff.mpr ⟨Query.visitorSelection [0, 1, 2, 3], by rfl, sorts⟩
  exact ⟨Query.visitorSnapshots, .cons rfl (.cons rfl (.cons rfl (.cons rfl .nil))), _, arranges,
    by rfl⟩

/-- The blank limit at the end leaves the default one. A negative offset is the error, whatever the
filter is. -/
theorem request_of_parameters_sample :
    Function.Injective ({} : ParameterNames).of ∧
      Gives "$limit" sampleParameters " " ∧
      sampleFragments.clauses { limit := some 9 } =
        .ok [.limit 9, .offset 1, .sort ⟨⟨none, "age"⟩, .descending⟩] ∧
      (Query.ofClauses [.limit 9, .offset 1, .sort ⟨⟨none, "age"⟩, .descending⟩]).run
          Query.peopleSchema {} Query.visitors = .ok [some 5, some 2, some 2] ∧
      FailsFirst { sampleFragments with offset := "-1", filter := "age near 1" }
        (.badFragment .offset "-1" "must not be negative") := by
  have distinct : Function.Injective ({} : ParameterNames).of := by
    intro f g same
    revert same
    cases f <;> cases g <;> decide
  obtain ⟨texts, -, requests⟩ := request_of_parameters distinct
  have picked : ofParameters {} sampleParameters = sampleFragments := by decide
  have reads : sampleFragments.Reads sampleMeaning := ⟨rfl, rfl, rfl, rfl⟩
  obtain ⟨accepts, -, answers⟩ := requests sampleFragments { limit := some 9 }
  have accepted := (accepts _).mpr ⟨sampleMeaning, reads, rfl⟩
  obtain ⟨answered, -⟩ := answers _ accepted _ reads Query.peopleSchema {} Query.visitors
  refine ⟨distinct, ?_, accepted, (answered _).mpr sample_answers, ?_⟩
  · exact (texts sampleParameters .limit " ").mp (by rw [picked]; rfl)
  · exact ((requests _ {}).2.1 _).mp rfl

end Fragments

end RecordQuery
