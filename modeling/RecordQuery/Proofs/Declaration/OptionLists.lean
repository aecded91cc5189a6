import Mathlib.Data.List.Induction
import RecordQuery.Proofs.Declaration.Columns
import RecordQuery.Proofs.Text.Separated

/-!
Lists of column options. A name is refused while the list is read, if it is empty or comes after
another one, and options that may not stand together are refused at its end. Where the options stand
does not matter for either: they are accepted in every order or in none, and what they amount to is
the same.
-/

namespace RecordQuery

theorem Text.Splits.ne_nil {α : Type} {isSeparator : α → Bool} {xs : List α}
    {parts : List (List α)} (splits : Splits isSeparator xs parts) : parts ≠ [] := by
  cases splits <;> exact List.cons_ne_nil _ _

namespace Declaration

namespace ColumnOption

/-- The tokens write the option. A name stands alone or after the word for it. -/
inductive Writes : List Token → ColumnOption → Prop
  | literal (text s : String) : Writes [.literal text (some s)] (.name s)
  | rename (isJoint : Bool) (text s : String) :
      Writes [.word ⟨"rename", false⟩, .mark '=' isJoint, .literal text (some s)] (.name s)
  | skip : Writes [.word ⟨"skip", false⟩] .skip
  | relations : Writes [.word ⟨"relations", false⟩] .relations
  | backRelations : Writes [.word ⟨"back_relations", false⟩] .backRelations

theorem Writes.readFirst_eq {ts : List Token} {option : ColumnOption} (writes : Writes ts option) :
    readFirst ts = .ok (option, []) := by
  cases writes <;> rfl

theorem Writes.ne_nil {ts : List Token} {option : ColumnOption} (writes : Writes ts option) :
    ts ≠ [] := by
  cases writes <;> exact List.cons_ne_nil _ _

theorem Writes.no_comma {ts : List Token} {option : ColumnOption} (writes : Writes ts option) :
    ∀ t ∈ ts, Token.isMark ',' t = false := by
  cases writes <;> simp [Token.isMark]

/-- The name that an option gives. -/
def given? : ColumnOption → Option String
  | .name s => some s
  | .skip | .relations | .backRelations => none

/-- The names that options give, in their order. -/
def names (options : List ColumnOption) : List String :=
  options.filterMap given?

theorem mem_names {options : List ColumnOption} {s : String} :
    s ∈ names options ↔ .name s ∈ options := by
  simp only [names, List.mem_filterMap]
  constructor
  · rintro ⟨option, mem, gives⟩
    cases option with
    | name s' => exact Option.some.inj gives ▸ mem
    | skip | relations | backRelations => cases gives
  · exact fun mem => ⟨.name s, mem, rfl⟩

end ColumnOption

open ColumnOption (Writes names mem_names)

namespace ColumnOptions

/-- The tokens list the options, with commas between them. A comma may stand after the last one. -/
inductive Lists : List Token → List ColumnOption → Prop
  | nil : Lists [] []
  | last {ts : List Token} {option : ColumnOption} (writes : Writes ts option) : Lists ts [option]
  | cons {ts rest : List Token} {option : ColumnOption} {options : List ColumnOption}
      (isJoint : Bool) (writes : Writes ts option) (later : Lists rest options) :
      Lists (ts ++ .mark ',' isJoint :: rest) (option :: options)

/-- The first `column` attribute lists the options. -/
inductive ListedBy : List Attribute → List ColumnOption → Prop
  | intro {before : List Attribute} {a : Attribute} (after : List Attribute) {body : List Token}
      {options : List ColumnOption} (absent : ∀ b ∈ before, b.path.isWord "column" = false)
      (column : a.path.isWord "column" = true) (argument : a.argument = .list body)
      (lists : Lists body options) : ListedBy (before ++ a :: after) options

/-- The options give at most one name, and that is not empty. -/
structure NamesFit (options : List ColumnOption) : Prop where
  once : (names options).length ≤ 1
  nonempty : "" ∉ names options

/-- The options may stand together. -/
structure Compatible (options : List ColumnOption) : Prop where
  namesFit : NamesFit options
  oneDirection : ¬ (.relations ∈ options ∧ .backRelations ∈ options)
  skipsAlone : .skip ∈ options →
    names options = [] ∧ .relations ∉ options ∧ .backRelations ∉ options

/-- What options amount to. -/
structure Combines (options : List ColumnOption) (result : ColumnOptions) : Prop where
  skips : result.skips = true ↔ .skip ∈ options
  name : ∀ s, result.name? = some s ↔ .name s ∈ options
  relations : result.relations = true ↔ .relations ∈ options
  backRelations : result.backRelations = true ↔ .backRelations ∈ options

/-! Reading. The tokens are cut at the commas, and each part is one option. -/

theorem addParts_last {ts : List Token} {option : ColumnOption} (writes : Writes ts option)
    (soFar : ColumnOptions) : soFar.addParts [ts] = soFar.add option >>= check := by
  rw [addParts.eq_3 soFar ts writes.ne_nil, writes.readFirst_eq]
  rfl

theorem addParts_cons {ts : List Token} {option : ColumnOption} (writes : Writes ts option)
    (soFar : ColumnOptions) {parts : List (List Token)} (notLast : parts ≠ []) :
    soFar.addParts (ts :: parts) = soFar.add option >>= fun soFar => soFar.addParts parts := by
  rw [addParts.eq_4 soFar ts parts (fun _ => notLast) notLast, writes.readFirst_eq]
  rfl

theorem addParts_pieces {ts : List Token} {options : List ColumnOption} (lists : Lists ts options)
    (soFar : ColumnOptions) :
    soFar.addParts (Text.pieces (Token.isMark ',') ts) = options.foldlM add soFar >>= check := by
  induction lists generalizing soFar with
  | nil => rfl
  | last writes =>
    rw [Text.pieces_of_inside writes.no_comma, addParts_last writes, List.foldlM_cons]
    simp only [List.foldlM_nil, bind_pure]
  | @cons ts rest option options isJoint writes later ih =>
    have others : Text.pieces (Token.isMark ',') rest ≠ [] := (Text.splits_pieces rest).ne_nil
    rw [Text.pieces_of_separator writes.no_comma rfl, addParts_cons writes soFar others,
      List.foldlM_cons, bind_assoc]
    exact congrArg _ (funext ih)

/-- A list is read as the options that it states. -/
theorem ofAttributes_eq {attributes : List Attribute} {options : List ColumnOption}
    (listed : ListedBy attributes options) : ofAttributes attributes = ofList options := by
  cases listed with
  | intro after absent column argument lists =>
    rw [ofAttributes_first after absent column argument]
    exact addParts_pieces lists {}

/-! What options amount to, as far as they are read. -/

theorem combines_nil : Combines [] {} := by
  constructor <;> simp

theorem Combines.unique {options : List ColumnOption} {result result' : ColumnOptions}
    (combines : Combines options result) (combines' : Combines options result') :
    result = result' := by
  obtain ⟨skips, name?, relations, backRelations⟩ := result
  obtain ⟨skips', name?', relations', backRelations'⟩ := result'
  have sameSkips : skips = skips' := Bool.eq_iff_iff.mpr (combines.skips.trans combines'.skips.symm)
  have sameName : name? = name?' :=
    Option.ext fun s => (combines.name s).trans (combines'.name s).symm
  have sameRelations : relations = relations' :=
    Bool.eq_iff_iff.mpr (combines.relations.trans combines'.relations.symm)
  have sameBack : backRelations = backRelations' :=
    Bool.eq_iff_iff.mpr (combines.backRelations.trans combines'.backRelations.symm)
  rw [sameSkips, sameName, sameRelations, sameBack]

theorem Combines.name_eq_none {options : List ColumnOption} {result : ColumnOptions}
    (combines : Combines options result) : result.name? = none ↔ names options = [] := by
  rw [Option.eq_none_iff_forall_ne_some, List.eq_nil_iff_forall_not_mem]
  exact forall_congr' fun s => not_congr ((combines.name s).trans mem_names.symm)

/-- The next option may be added: it is no name, or the first one and not empty. -/
def Admits (options : List ColumnOption) (option : ColumnOption) : Prop :=
  ∀ s, option = .name s → names options = [] ∧ s ≠ ""

/-- An option is added to what the options before it amount to exactly if it may follow them. -/
theorem add_eq_ok {options : List ColumnOption} {soFar : ColumnOptions}
    (combines : Combines options soFar) {option : ColumnOption} {result : ColumnOptions} :
    soFar.add option = .ok result ↔
      Admits options option ∧ Combines (options ++ [option]) result := by
  have added (admits : Admits options option) : ∃ next, soFar.add option = .ok next ∧
      Combines (options ++ [option]) next := by
    cases option with
    | name s =>
      obtain ⟨first, notEmpty⟩ := admits s rfl
      have unnamed := combines.name_eq_none.mpr first
      refine ⟨{ soFar with name? := some s }, by simp [add, unnamed, notEmpty], ?_⟩
      have fresh (t : String) : .name t ∉ options := fun mem => by
        have given := mem_names.mpr mem
        rw [first] at given
        cases given
      constructor <;>
        simp [combines.skips, combines.relations, combines.backRelations, fresh, eq_comm]
    | skip | relations | backRelations =>
      refine ⟨_, rfl, ?_⟩
      constructor <;>
        simp [combines.skips, combines.name, combines.relations, combines.backRelations]
  constructor
  · intro accepted
    have admits : Admits options option := by
      rintro s rfl
      rw [← combines.name_eq_none]
      simp only [add] at accepted
      split at accepted
      next => cases accepted
      next unnamed =>
        split at accepted
        next => cases accepted
        next notEmpty => exact ⟨by simpa using unnamed, by simpa using notEmpty⟩
    obtain ⟨next, accepted', combined⟩ := added admits
    cases accepted.symm.trans accepted'
    exact ⟨admits, combined⟩
  · rintro ⟨admits, combined⟩
    obtain ⟨next, accepted, combined'⟩ := added admits
    rw [accepted, combined.unique combined']

theorem namesFit_concat {options : List ColumnOption} {option : ColumnOption} :
    NamesFit (options ++ [option]) ↔ NamesFit options ∧ Admits options option := by
  have given : names (options ++ [option]) = names options ++ option.given?.toList := by
    rw [names, List.filterMap_append]
    cases option <;> rfl
  cases option with
  | name s =>
    constructor
    · rintro ⟨once, nonempty⟩
      rw [given] at once nonempty
      have first : names options = [] := by simpa [ColumnOption.given?] using once
      refine ⟨⟨by simp [first], by simp [first]⟩, ?_⟩
      rintro t ⟨⟩
      exact ⟨first, by simpa [first, ColumnOption.given?, eq_comm] using nonempty⟩
    · rintro ⟨-, admits⟩
      obtain ⟨first, notEmpty⟩ := admits s rfl
      constructor <;> rw [given, first] <;> simp [ColumnOption.given?, notEmpty, eq_comm]
  | skip | relations | backRelations =>
    have same : names (options ++ [_]) = names options := given.trans (List.append_nil _)
    constructor
    · rintro ⟨once, nonempty⟩
      rw [same] at once nonempty
      exact ⟨⟨once, nonempty⟩, nofun⟩
    · rintro ⟨⟨once, nonempty⟩, -⟩
      exact ⟨same ▸ once, same ▸ nonempty⟩

theorem exists_combines {options : List ColumnOption} (fit : NamesFit options) :
    ∃ result, Combines options result := by
  refine ⟨⟨decide (.skip ∈ options), (names options).head?, decide (.relations ∈ options),
    decide (.backRelations ∈ options)⟩, decide_eq_true_iff, fun s => ?_, decide_eq_true_iff,
    decide_eq_true_iff⟩
  have once := fit.once
  rw [← mem_names]
  cases given : names options with
  | nil => simp
  | cons t rest =>
    rw [given, List.length_cons] at once
    have last : rest = [] := List.eq_nil_of_length_eq_zero (by omega)
    simp [last, eq_comm]

/-- Options are read to the end exactly if the names fit. -/
theorem foldlM_add_eq_ok {options : List ColumnOption} {result : ColumnOptions} :
    options.foldlM add {} = .ok result ↔ NamesFit options ∧ Combines options result := by
  induction options using List.reverseRecOn generalizing result with
  | nil =>
    constructor
    · rintro ⟨⟩
      exact ⟨⟨Nat.zero_le _, List.not_mem_nil⟩, combines_nil⟩
    · rintro ⟨-, combines⟩
      rw [combines_nil.unique combines]
      rfl
  | append_singleton options option ih =>
    have step (soFar : ColumnOptions) : [option].foldlM add soFar = soFar.add option := by
      rw [List.foldlM_cons]
      exact bind_pure _
    rw [List.foldlM_append, bind_eq_ok, namesFit_concat]
    simp only [step, ih]
    constructor
    · rintro ⟨soFar, ⟨fit, combines⟩, accepted⟩
      obtain ⟨admits, combines'⟩ := (add_eq_ok combines).mp accepted
      exact ⟨⟨fit, admits⟩, combines'⟩
    · rintro ⟨⟨fit, admits⟩, combines'⟩
      obtain ⟨soFar, combines⟩ := exists_combines fit
      exact ⟨soFar, ⟨fit, combines⟩, (add_eq_ok combines).mpr ⟨admits, combines'⟩⟩

/-- A list of options is accepted exactly if they may stand together, as what they amount to. -/
theorem ofList_eq_ok {options : List ColumnOption} {result : ColumnOptions} :
    ofList options = .ok result ↔ Compatible options ∧ Combines options result := by
  rw [ofList, bind_eq_ok]
  simp only [foldlM_add_eq_ok, check_eq_ok]
  constructor
  · rintro ⟨_, ⟨fit, combines⟩, rfl, oneDirection, skipsAlone⟩
    refine ⟨⟨fit, ?_, ?_⟩, combines⟩
    · rwa [← combines.relations, ← combines.backRelations]
    · intro skips
      obtain ⟨noRelations, noBack, unnamed⟩ := skipsAlone (combines.skips.mpr skips)
      refine ⟨combines.name_eq_none.mp unnamed, ?_, ?_⟩
      · rw [← combines.relations, noRelations]
        exact Bool.false_ne_true
      · rw [← combines.backRelations, noBack]
        exact Bool.false_ne_true
  · rintro ⟨⟨fit, oneDirection, skipsAlone⟩, combines⟩
    refine ⟨result, ⟨fit, combines⟩, rfl, ?_, ?_⟩
    · rwa [combines.relations, combines.backRelations]
    · intro skips
      obtain ⟨unnamed, noRelations, noBack⟩ := skipsAlone (combines.skips.mp skips)
      rw [← combines.relations, Bool.not_eq_true] at noRelations
      rw [← combines.backRelations, Bool.not_eq_true] at noBack
      exact ⟨noRelations, noBack, combines.name_eq_none.mpr unnamed⟩

/-! The order of the options. -/

theorem Combines.congr {options options' : List ColumnOption} {result : ColumnOptions}
    (combines : Combines options result) (same : ∀ option, option ∈ options ↔ option ∈ options') :
    Combines options' result where
  skips := combines.skips.trans (same .skip)
  name s := (combines.name s).trans (same (.name s))
  relations := combines.relations.trans (same .relations)
  backRelations := combines.backRelations.trans (same .backRelations)

theorem Compatible.perm {options options' : List ColumnOption} (compatible : Compatible options)
    (perm : options.Perm options') : Compatible options' := by
  have given : (names options).Perm (names options') := perm.filterMap _
  refine ⟨⟨?_, ?_⟩, ?_, fun skips => ?_⟩
  · rw [← given.length_eq]
    exact compatible.namesFit.once
  · rw [← given.mem_iff]
    exact compatible.namesFit.nonempty
  · rw [← perm.mem_iff, ← perm.mem_iff]
    exact compatible.oneDirection
  · obtain ⟨unnamed, noRelations, noBack⟩ := compatible.skipsAlone (perm.mem_iff.mpr skips)
    rw [unnamed] at given
    exact ⟨given.nil_eq.symm, mt perm.mem_iff.mpr noRelations, mt perm.mem_iff.mpr noBack⟩

/-- A permutation of the options is accepted as what they amount to, or is refused with them. -/
theorem ofList_perm {options options' : List ColumnOption} (perm : options.Perm options')
    {result : ColumnOptions} (accepted : ofList options = .ok result) :
    ofList options' = .ok result := by
  obtain ⟨compatible, combines⟩ := ofList_eq_ok.mp accepted
  exact ofList_eq_ok.mpr ⟨compatible.perm perm, combines.congr fun _ => perm.mem_iff⟩

/-- A list of column options is accepted exactly if it gives at most one name, which is not empty,
does not hold relations in both directions, and skips the field only if nothing else is said. What
it amounts to depends on the set of the options only, so every permutation of the list is accepted
with the same outcome, or refused as well. -/
theorem options_in_any_order {attributes : List Attribute} {options : List ColumnOption}
    (listed : ListedBy attributes options) :
    ((∃ result, ofAttributes attributes = .ok result) ↔ Compatible options) ∧
    (∀ result, ofAttributes attributes = .ok result → Combines options result) ∧
    (∀ attributes' options', ListedBy attributes' options' →
      (∀ option, option ∈ options ↔ option ∈ options') →
      ∀ result result', ofAttributes attributes = .ok result →
        ofAttributes attributes' = .ok result' → result = result') ∧
    ∀ attributes' options', ListedBy attributes' options' → options.Perm options' →
      ∀ result, ofAttributes attributes = .ok result ↔ ofAttributes attributes' = .ok result := by
  rw [ofAttributes_eq listed]
  refine ⟨⟨?_, fun compatible => ?_⟩, ?_, ?_, ?_⟩
  · rintro ⟨result, accepted⟩
    exact (ofList_eq_ok.mp accepted).1
  · obtain ⟨result, combines⟩ := exists_combines compatible.namesFit
    exact ⟨result, ofList_eq_ok.mpr ⟨compatible, combines⟩⟩
  · intro result accepted
    exact (ofList_eq_ok.mp accepted).2
  · intro attributes' options' listed' same result result' accepted accepted'
    rw [ofAttributes_eq listed'] at accepted'
    have combines := (ofList_eq_ok.mp accepted).2.congr same
    exact combines.unique (ofList_eq_ok.mp accepted').2
  · intro attributes' options' listed' perm result
    rw [ofAttributes_eq listed']
    exact ⟨ofList_perm perm, ofList_perm perm.symm⟩

/-- A field with a documentation comment and a `column` attribute that lists the tokens. -/
def sampleAttributes (body : List Token) : List Attribute :=
  [⟨⟨false, [⟨"doc", false⟩]⟩, .value (some " The tasks of a user.")⟩,
    ⟨⟨false, [⟨"column", false⟩]⟩, .list body⟩]

theorem sampleAttributes_listedBy {body : List Token} {options : List ColumnOption}
    (lists : Lists body options) : ListedBy (sampleAttributes body) options :=
  .intro [] (List.forall_mem_singleton.mpr rfl) rfl rfl lists

/-- A name may come before or after a direction, with and without a comma at the end. A field that
is skipped has no name. -/
theorem options_in_any_order_sample :
    let first := sampleAttributes
      [.literal "\"R\"" (some "R"), .mark ',' false, .word ⟨"relations", false⟩, .mark ',' false]
    let swapped := sampleAttributes
      [.word ⟨"relations", false⟩, .mark ',' false, .word ⟨"rename", false⟩, .mark '=' false,
        .literal "\"R\"" (some "R")]
    let skipped := sampleAttributes
      [.literal "\"R\"" (some "R"), .mark ',' false, .word ⟨"skip", false⟩]
    ofAttributes first = .ok ⟨false, some "R", true, false⟩ ∧
      ofAttributes swapped = .ok ⟨false, some "R", true, false⟩ ∧
      ¬ ∃ result, ofAttributes skipped = .ok result := by
  intro first swapped skipped
  have first_listed : ListedBy first [.name "R", .relations] :=
    sampleAttributes_listedBy (.cons false (.literal _ _) (.cons false .relations .nil))
  have swapped_listed : ListedBy swapped [.relations, .name "R"] :=
    sampleAttributes_listedBy (.cons false .relations (.last (.rename false _ _)))
  have skipped_listed : ListedBy skipped [.name "R", .skip] :=
    sampleAttributes_listedBy (.cons false (.literal _ _) (.last .skip))
  have accepted : ofAttributes first = .ok ⟨false, some "R", true, false⟩ := rfl
  obtain ⟨-, -, -, permuted⟩ := options_in_any_order first_listed
  obtain ⟨accepts, -⟩ := options_in_any_order skipped_listed
  refine ⟨accepted, (permuted _ _ swapped_listed (.swap ..) _).mp accepted, fun result => ?_⟩
  obtain ⟨unnamed, -⟩ := (accepts.mp result).skipsAlone (.tail _ (.head _))
  cases unnamed

end ColumnOptions

end Declaration

end RecordQuery
