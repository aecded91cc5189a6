import RecordQuery.Proofs.Filter.PieceText
import RecordQuery.Proofs.Filter.RoundTrip
import RecordQuery.Proofs.Name.Spelling
import RecordQuery.Proofs.Sql.Token
import RecordQuery.Request.OrderBy
import RecordQuery.Sql

/-!
Requests and the quotes of their names. The fragments of a clause put table and column between
quotes as they are, so a fragment reads back as the tokens that are meant exactly if the reference
of the clause has no quote. A filter only accepts identifiers as names. An order-by text takes
whatever stands before the first blank or colon of an entry, quotes included.
-/

namespace RecordQuery.Sql

open Name Text

/-! The fragments of a clause and the tokens that are meant by them. -/

/-- The text of a part that goes into the statement. -/
def Part.text? : Part → Option String
  | .condition text _ | .join text | .order text | .group text => some text
  | .limit _ | .offset _ | .load _ | .select _ => none

/-- The fragments of a clause. -/
def fragments (clause : Clause) : List String :=
  (ofClause clause).filterMap Part.text?

/-- Operator and placeholder of a condition. -/
def comparisonWords : Operator → List (List Char)
  | .eq => [['='], ['?']]
  | .ne => [['<', '>'], ['?']]
  | .gt => [['>'], ['?']]
  | .ge => [['>', '='], ['?']]
  | .lt => [['<'], ['?']]
  | .le => [['<', '='], ['?']]
  | .isIn => [['I', 'N'], ['?']]
  | .notIn => [['N', 'O', 'T'], ['I', 'N'], ['?']]
  | .contains | .startsWith | .endsWith => [['L', 'I', 'K', 'E'], ['?']]
  | .isNull => [['I', 'S'], ['N', 'U', 'L', 'L']]
  | .isNotNull => [['I', 'S'], ['N', 'O', 'T'], ['N', 'U', 'L', 'L']]

def directionWords : Direction → List (List Char)
  | .unspecified => []
  | .ascending => [['A', 'S', 'C']]
  | .descending => [['D', 'E', 'S', 'C']]

/-- The column of a reference, with its table if it is another one. -/
def columnTokens (target : Reference) : List Token :=
  match foreignTable? target with
  | none => [.name target.column.toList]
  | some singular => [.name (plural singular).toList, .dot, .name target.column.toList]

/-- The join on a table: its name and the condition on its `id`. -/
def joinTokens (singular : String) : List Token :=
  [.name (plural singular).toList, .word ['O', 'N'], .name (plural singular).toList, .dot,
    .name ['i', 'd'], .word ['='], .name (singular ++ "_id").toList]

/-- The reference of a clause and the words after its column. -/
def said? : Clause → Option (Reference × List (List Char))
  | .condition c => some (c.target, comparisonWords c.op)
  | .sort k => some (k.target, directionWords k.direction)
  | .group target => some (target, [])
  | .limit _ | .offset _ | .relations _ | .select _ => none

/-- The tokens of what is said of a reference: the join on its table, if it has one, and its
column with the words after it. -/
def saidTokens (target : Reference) (words : List (List Char)) : List (List Token) :=
  (foreignTable? target).toList.map joinTokens ++ [columnTokens target ++ words.map .word]

/-- The tokens that are meant by each fragment of a clause. -/
def intended (clause : Clause) : List (List Token) :=
  match said? clause with
  | none => []
  | some (target, words) => saidTokens target words

theorem joins_written (target : Reference) :
    ((joins target).filterMap Part.text?).map String.toList =
      ((foreignTable? target).toList.map joinTokens).map written := by
  unfold joins
  cases foreignTable? target with
  | none => rfl
  | some singular => simp [Part.text?, quotedName, joinTokens, written, Token.chars]

theorem column_written (target : Reference) :
    (column target).toList = written (columnTokens target) := by
  unfold column columnTokens
  cases foreignTable? target with
  | none => simp [quotedName, written, Token.chars]
  | some singular => simp [quotedName, written, Token.chars]

/-- Words after the column stand apart from it by a blank. -/
theorem written_column_append (target : Reference) (word : List Char)
    (words : List (List Char)) :
    written (columnTokens target ++ (word :: words).map .word) =
      (column target).toList ++ ' ' :: written ((word :: words).map .word) := by
  rw [column_written]
  unfold columnTokens
  cases foreignTable? target with
  | none => simp [written]
  | some singular => simp [written]

theorem comparison_written (op : Operator) :
    ∃ word words, comparisonWords op = word :: words ∧
      (comparison op).toList = written ((word :: words).map .word) := by
  cases op <;> exact ⟨_, _, rfl, by decide⟩

theorem condition_written (target : Reference) (op : Operator) :
    (column target ++ " " ++ comparison op).toList =
      written (columnTokens target ++ (comparisonWords op).map .word) := by
  obtain ⟨word, words, tokens, text⟩ := comparison_written op
  rw [String.toList_append, String.toList_append, tokens, written_column_append, text]
  simp

theorem sortKey_written (target : Reference) (direction : Direction) :
    (if direction.keyword == "" then column target
      else column target ++ " " ++ direction.keyword).toList =
      written (columnTokens target ++ (directionWords direction).map .word) := by
  cases direction with
  | unspecified =>
    rw [directionWords, List.map_nil, List.append_nil]
    exact column_written target
  | ascending | descending =>
    rw [directionWords, written_column_append]
    simp [Direction.keyword, written, Token.chars]

theorem parts_written {target : Reference} {part : Part} {text : String}
    {words : List (List Char)} (own : part.text? = some text)
    (same : text.toList = written (columnTokens target ++ words.map .word)) :
    ((joins target ++ [part]).filterMap Part.text?).map String.toList =
      (saidTokens target words).map written := by
  rw [saidTokens, List.filterMap_append, List.map_append, List.map_append, joins_written,
    List.filterMap_cons_some own, List.filterMap_nil, List.map_singleton, same, List.map_singleton]

/-- The fragments of a clause are the texts of its tokens. -/
theorem fragments_written (clause : Clause) :
    (fragments clause).map String.toList = (intended clause).map written := by
  cases clause with
  | condition c => exact parts_written rfl (condition_written c.target c.op)
  | sort k => exact parts_written rfl (sortKey_written k.target k.direction)
  | group target =>
    apply parts_written rfl
    rw [List.map_nil, List.append_nil]
    exact column_written target
  | limit n | offset n | relations tables | select columns => rfl

/-! Quotes in names of tables. Neither lower case nor the plural adds or removes one. -/

theorem quote_mem_small {c : Char} : '"' ∈ small c ↔ '"' = c := by
  by_cases ascii : c.toNat < 0x80
  · exact forall_ascii (p := fun c => '"' ∈ small c ↔ '"' = c) (by decide +kernel) ascii
  · have beyond : 0x80 ≤ c.toNat := Nat.le_of_not_lt ascii
    refine iff_of_false (fun mem => ne_quote_of_mem_small beyond mem rfl) ?_
    intro quote
    subst quote
    exact absurd beyond (by decide)

theorem quote_mem_snakePart {c : Char} : '"' ∈ snakePart c ↔ '"' = c := by
  unfold snakePart
  split
  · rw [List.mem_cons, quote_mem_small, or_iff_right (by decide)]
  · exact List.mem_singleton

theorem quote_mem_snakeChars {cs : List Char} : '"' ∈ snakeChars cs ↔ '"' ∈ cs := by
  cases cs with
  | nil => rfl
  | cons c cs =>
    change '"' ∈ small c ++ cs.flatMap snakePart ↔ _
    simp only [List.mem_append, List.mem_flatMap, quote_mem_small, quote_mem_snakePart,
      List.mem_cons, exists_eq_right']

theorem quote_mem_plural {word : String} : '"' ∈ (plural word).toList ↔ '"' ∈ word.toList :=
  mem_plural_iff rfl

/-! Which clauses keep to their quotes. -/

/-- Neither the table nor the column has a quote. -/
structure QuoteFree (target : Reference) : Prop where
  table : ∀ table ∈ target.table, '"' ∉ table.toList
  column : '"' ∉ target.column.toList

/-- No name that a fragment of the clause puts between quotes has a quote of its own, and every
fragment reads back as the tokens that are meant by it. -/
structure Sealed (clause : Clause) : Prop where
  names : ∀ ts ∈ intended clause, ∀ t ∈ ts, t.QuoteFree
  reads : (fragments clause).map tokens? = (intended clause).map some

theorem foreignTable?_quoteFree {target : Reference} :
    (∀ singular ∈ foreignTable? target, '"' ∉ singular.toList) ↔
      ∀ table ∈ target.table, '"' ∉ table.toList := by
  unfold foreignTable?
  cases target.table with
  | none => simp
  | some table =>
    by_cases empty : table = ""
    · simp [empty]
    · simp [empty, snakeCase, quote_mem_snakeChars]

theorem joinTokens_wellFormed (singular : String) : ∀ t ∈ joinTokens singular, t.WellFormed := by
  simp [joinTokens, Token.WellFormed, IsWord, Scan.endsWord]

theorem joinTokens_quoteFree {singular : String} :
    (∀ t ∈ joinTokens singular, t.QuoteFree) ↔ '"' ∉ singular.toList := by
  simp [joinTokens, Token.QuoteFree, quote_mem_plural]

theorem said?_words {clause : Clause} {target : Reference} {words : List (List Char)}
    (said : said? clause = some (target, words)) : ∀ word ∈ words, IsWord word := by
  have plain : ∀ words : List (List Char),
      (words.all fun word => !word.isEmpty && word.all fun c => !Scan.endsWord c) = true →
        ∀ word ∈ words, IsWord word := by
    intro words each word mem
    simpa [IsWord] using List.all_eq_true.mp each word mem
  cases clause with
  | condition c =>
    cases said
    exact plain _ (by cases c.op <;> rfl)
  | sort k =>
    cases said
    exact plain _ (by cases k.direction <;> rfl)
  | group target =>
    cases said
    exact nofun
  | limit n | offset n | relations tables | select columns => cases said

theorem saidTokens_wellFormed (target : Reference) {words : List (List Char)}
    (each : ∀ word ∈ words, IsWord word) :
    ∀ ts ∈ saidTokens target words, ∀ t ∈ ts, t.WellFormed := by
  have after : ∀ t ∈ words.map Token.word, t.WellFormed := List.forall_mem_map.mpr each
  unfold saidTokens columnTokens
  cases foreignTable? target with
  | none => simpa [Token.WellFormed] using after
  | some singular => simpa [Token.WellFormed] using And.intro (joinTokens_wellFormed singular) after

theorem saidTokens_quoteFree {target : Reference} {words : List (List Char)} :
    (∀ ts ∈ saidTokens target words, ∀ t ∈ ts, t.QuoteFree) ↔ QuoteFree target := by
  have after : ∀ t ∈ words.map Token.word, t.QuoteFree :=
    List.forall_mem_map.mpr fun word mem => trivial
  have parts : QuoteFree target ↔
      (∀ singular ∈ foreignTable? target, '"' ∉ singular.toList) ∧
        '"' ∉ target.column.toList := by
    rw [foreignTable?_quoteFree]
    exact ⟨fun free => ⟨free.table, free.column⟩, fun free => ⟨free.1, free.2⟩⟩
  rw [parts]
  unfold saidTokens columnTokens
  cases foreignTable? target with
  | none =>
    simp only [Option.toList_none, List.map_nil, List.nil_append, List.forall_mem_singleton,
      List.forall_mem_append, iff_true_intro after]
    simp [Token.QuoteFree]
  | some singular =>
    simp only [Option.toList_some, List.map_cons, List.map_nil, List.forall_mem_singleton,
      List.forall_mem_append, iff_true_intro after, joinTokens_quoteFree]
    simp [Token.QuoteFree, quote_mem_plural]

theorem reads_iff (clause : Clause) :
    (fragments clause).map tokens? = (intended clause).map some ↔
      ∀ ts ∈ intended clause, ∀ t ∈ ts, t.QuoteFree := by
  have read : (fragments clause).map tokens? =
      (intended clause).map fun ts => scan .between (written ts) := by
    change (fragments clause).map (scan .between ∘ String.toList) = _
    rw [← List.map_map, fragments_written, List.map_map]
    rfl
  -- only names can go wrong: what a fragment has besides them is words and dots
  have wellFormed : ∀ ts ∈ intended clause, ∀ t ∈ ts, t.WellFormed := by
    unfold intended
    cases said : said? clause with
    | none => exact nofun
    | some parts => exact saidTokens_wellFormed parts.1 (said?_words said)
  rw [read, List.map_inj_left]
  exact forall₂_congr fun ts mem => scan_written_iff (wellFormed ts mem)

/-- A clause keeps to its quotes exactly if its reference has none. -/
theorem sealed_iff {clause : Clause} {target : Reference} {words : List (List Char)}
    (said : said? clause = some (target, words)) : Sealed clause ↔ QuoteFree target := by
  have names : Sealed clause ↔ ∀ ts ∈ intended clause, ∀ t ∈ ts, t.QuoteFree :=
    ⟨Sealed.names, fun free => ⟨free, (reads_iff clause).mpr free⟩⟩
  rw [names, intended, said]
  exact saidTokens_quoteFree

end RecordQuery.Sql

/-! The names of requests. -/

namespace RecordQuery.Filter

/-- Table and column are identifiers. -/
structure IsReference (target : Reference) : Prop where
  table : ∀ table ∈ target.table, IsName table
  column : IsName target.column

theorem reference?_isReference {cs rest : List Char} {target : Reference}
    (found : reference? cs = some (target, rest)) : IsReference target := by
  obtain ⟨table, column, rfl, -⟩ := chars_of_reference? found
  refine ⟨fun name mem => ?_, column, rfl⟩
  obtain ⟨n, -, rfl⟩ := Option.mem_map.mp mem
  exact ⟨n, rfl⟩

theorem piece?_isReference {cs : List Char} {p : Piece} (found : piece? cs = some p) :
    IsReference p.target := by
  simp only [piece?, Option.bind_eq_bind, Option.bind_eq_some_iff] at found
  obtain ⟨⟨target, after⟩, target_found, blank, -, said, -, made⟩ := found
  cases made
  exact reference?_isReference target_found

/-- The names of a filter that is accepted are identifiers. -/
theorem read_isReference {s : String} {conditions : List Condition}
    (accepted : read s = .ok conditions) : ∀ c ∈ conditions, IsReference c.target := by
  intro c mem
  obtain ⟨text, p, found, states⟩ := exists_piece?_of_read accepted mem
  rw [condition_target states]
  exact piece?_isReference found

theorem IsName.quote_free {name : String} (named : IsName name) : '"' ∉ name.toList := by
  obtain ⟨n, rfl⟩ := named
  rw [String.toList_ofList]
  intro mem
  exact absurd (isNameRest_of_mem n _ mem) (by decide)

end RecordQuery.Filter

namespace RecordQuery.OrderBy

/-- The characters of the reference of an entry. -/
def referenceChars (entry : List Char) : List Char :=
  entry.takeWhile fun c => !Text.isBlank c

theorem readEntry_target {entry : List Char} {key : SortKey} (read : readEntry entry = .ok key) :
    key.target = Reference.ofDotted (String.ofList (referenceChars entry)) := by
  unfold readEntry at read
  dsimp only at read
  split at read
  · cases read
    rfl
  · split at read
    · cases read
      rfl
    · cases read

end RecordQuery.OrderBy

namespace RecordQuery.Sql

open Text

theorem cutAtFirst?_eq_some {separates : Char → Bool} {cs before after : List Char}
    (cut : cutAtFirst? separates cs = some (before, after)) :
    ∃ c, separates c = true ∧ cs = before ++ c :: after := by
  induction cs generalizing before with
  | nil => cases cut
  | cons c cs ih =>
    unfold cutAtFirst? at cut
    split at cut
    next separates_c =>
      cases cut
      exact ⟨c, separates_c, rfl⟩
    next =>
      obtain ⟨⟨front, back⟩, found, made⟩ := Option.map_eq_some_iff.mp cut
      cases made
      obtain ⟨d, separates_d, rfl⟩ := ih found
      exact ⟨d, separates_d, rfl⟩

theorem ofDotted_quoteFree {path : String} :
    QuoteFree (Reference.ofDotted path) ↔ '"' ∉ path.toList := by
  unfold Reference.ofDotted Name.splitReference
  cases cut : cutAtFirst? (· == '.') path.toList with
  | none =>
    exact ⟨QuoteFree.column, fun free => ⟨nofun, free⟩⟩
  | some parts =>
    obtain ⟨before, after⟩ := parts
    obtain ⟨c, dot, whole⟩ := cutAtFirst?_eq_some cut
    obtain rfl : c = '.' := by simpa using dot
    have table : (∀ table ∈ (some (String.ofList before)).filter (· != ""), '"' ∉ table.toList) ↔
        '"' ∉ before := by
      cases before <;> simp
    rw [whole]
    have split : '"' ∉ before ++ '.' :: after ↔ '"' ∉ before ∧ '"' ∉ after := by simp
    rw [split, ← table]
    constructor
    · intro free
      exact ⟨free.table, by simpa [Reference.of] using free.column⟩
    · intro free
      exact ⟨free.1, by simpa [Reference.of] using free.2⟩

/-- If the text is accepted as a filter, every condition of it keeps to its quotes. If it is
accepted as an order-by text, the sort keys stand for its entries one by one, and each keeps to its
quotes exactly if the reference of its entry has none. -/
theorem sealed_of_request (s : String) :
    (∀ conditions, Filter.read s = .ok conditions → ∀ c ∈ conditions, Sealed (.condition c)) ∧
    (∀ keys, OrderBy.read s = .ok keys →
      List.Forall₂ (fun entry key => Sealed (.sort key) ↔ '"' ∉ OrderBy.referenceChars entry)
        (OrderBy.entries s.toList) keys) := by
  constructor
  · intro conditions accepted c mem
    have named := Filter.read_isReference accepted c mem
    apply (sealed_iff rfl).mpr
    exact ⟨fun table mem => (named.table table mem).quote_free, named.column.quote_free⟩
  · intro keys accepted
    refine (mapM_eq_ok.mp accepted).imp fun entry key read => ?_
    rw [sealed_iff rfl, OrderBy.readEntry_target read, ofDotted_quoteFree, String.toList_ofList]

/-- A filter and an order-by text whose names are plain identifiers. -/
theorem sealed_of_request_plain :
    Filter.read "users.age gt 30" = .ok [⟨⟨some "users", "age"⟩, .gt, some (.single (.int 30))⟩] ∧
      Sealed (.condition ⟨⟨some "users", "age"⟩, .gt, some (.single (.int 30))⟩) ∧
      OrderBy.read "users.name:desc" = .ok [⟨⟨some "users", "name"⟩, .descending⟩] ∧
      Sealed (.sort ⟨⟨some "users", "name"⟩, .descending⟩) := by
  have filter : Filter.read "users.age gt 30" =
      .ok [⟨⟨some "users", "age"⟩, .gt, some (.single (.int 30))⟩] := rfl
  have order : OrderBy.read "users.name:desc" =
      .ok [⟨⟨some "users", "name"⟩, .descending⟩] := rfl
  have plain := (sealed_of_request "users.name:desc").2 _ order
  refine ⟨filter, (sealed_of_request "users.age gt 30").1 _ filter _ List.mem_cons_self, order, ?_⟩
  cases plain with
  | cons exactly rest => exact exactly.mpr (by decide +kernel)

/-- An entry with quotes in its reference is accepted, and its fragment reads as a comparison of
two columns. -/
theorem sort_reads_as_comparison :
    OrderBy.read "age\"<\"limit" = .ok [⟨⟨none, "age\"<\"limit"⟩, .unspecified⟩] ∧
      fragments (.sort ⟨⟨none, "age\"<\"limit"⟩, .unspecified⟩) = ["\"age\"<\"limit\""] ∧
      tokens? "\"age\"<\"limit\"" =
        some [.name "age".toList, .word ['<'], .name "limit".toList] ∧
      ¬ Sealed (.sort ⟨⟨none, "age\"<\"limit"⟩, .unspecified⟩) := by
  refine ⟨rfl, rfl, rfl, fun keeps => ?_⟩
  have free := (sealed_iff rfl).mp keeps
  exact free.column (by decide)

end RecordQuery.Sql
