import RecordQuery.Proofs.Sorting.RangeFilter

/-!
Pages of an answer. Of a list of clauses a query reads the conditions, the groups and the sort
keys, each kind in its order, and the first offset and limit. An offset and a limit cut the answer
only once it is complete, so the pages of one size, put together up to the first that is empty,
are the whole answer.
-/

namespace RecordQuery.Query

/-- The same conditions, groups and sort keys, each kind in the same order, and the same first
offset and limit. How the kinds are mixed does not matter, nor what else is among them. -/
structure Alike (clauses other : List Clause) : Prop where
  conditions : clauses.filterMap condition? = other.filterMap condition?
  groups : clauses.filterMap group? = other.filterMap group?
  keys : clauses.filterMap key? = other.filterMap key?
  offset : firstOffset clauses = firstOffset other
  limit : firstLimit clauses = firstLimit other

theorem Alike.ofClauses_eq {clauses other : List Clause} (alike : Alike clauses other) :
    ofClauses clauses = ofClauses other := by
  have offset := (ofClauses_offset clauses).trans (alike.offset.trans (ofClauses_offset other).symm)
  have limit := (ofClauses_limit clauses).trans (alike.limit.trans (ofClauses_limit other).symm)
  simp only [ofClauses] at offset limit ⊢
  rw [alike.conditions, alike.groups, alike.keys, offset, limit]

/-- The clauses with the page of a number and a size in front of them. -/
def paged (clauses : List Clause) (size number : Nat) : List Clause :=
  .offset (number * size) :: .limit size :: clauses

/-- What is put together from the pages from a number on, up to the first that is empty. -/
inductive Collects {α : Type} (page : Nat → Except Error (List α)) : Nat → List α → Prop
  | last {number : Nat} : page number = .ok [] → Collects page number []
  | next {number : Nat} {shown rest : List α} : page number = .ok shown → shown ≠ [] →
      Collects page (number + 1) rest → Collects page number (shown ++ rest)

section Collecting

variable {α : Type} {page : Nat → Except Error (List α)}

theorem Collects.unique {number : Nat} {whole other : List α}
    (collects : Collects page number whole) (collects' : Collects page number other) :
    other = whole := by
  induction collects generalizing other with
  | last empty =>
    cases collects' with
    | last _ => rfl
    | next shows nonempty _ =>
      cases empty.symm.trans shows
      exact absurd rfl nonempty
  | next shows nonempty _ ih =>
    cases collects' with
    | last empty =>
      cases shows.symm.trans empty
      exact absurd rfl nonempty
    | next shows' _ rest' =>
      cases shows.symm.trans shows'
      rw [ih rest']

/-- Windows of one size that follow one another make up the list. -/
theorem collects_windows {size : Nat} (positive : 0 < size) {whole : List α}
    (windows : ∀ number, page number = .ok ((whole.drop (number * size)).take size))
    (number : Nat) : Collects page number (whole.drop (number * size)) := by
  induction left : whole.length - number * size using Nat.strongRecOn generalizing number with
  | ind left ih =>
    subst left
    by_cases done : whole.length ≤ number * size
    · rw [List.drop_of_length_le done]
      refine .last ?_
      rw [windows, List.drop_of_length_le done, List.take_nil]
    · have shown := windows number
      have nonempty : (whole.drop (number * size)).take size ≠ [] := by
        rw [ne_eq, List.take_eq_nil_iff, List.drop_eq_nil_iff]
        omega
      have fewer : whole.length - (number + 1) * size < whole.length - number * size := by
        rw [Nat.succ_mul]
        omega
      have rest := ih _ fewer (number + 1) rfl
      rw [Nat.succ_mul, ← List.drop_drop] at rest
      rw [← List.take_append_drop size (whole.drop (number * size))]
      exact .next shown nonempty rest

end Collecting

section Records

variable {ρ : Type} {schema : Schema ρ} {options : EvaluationOptions} {records : List ρ}

theorem select_eq_map_page (q : Query) (snapshots : Array Snapshot) :
    q.select options snapshots = (q.unpaged.select options snapshots).map q.page := by
  simp only [select, unpaged]
  cases (Selection.all snapshots).filter options.nullSemantics q.conditions with
  | error e => rfl
  | ok kept =>
    simp only [bind, Except.bind]
    cases Selection.sort options.nulls q.keys (Selection.group q.groups kept) <;> rfl

/-- A page is cut out of the complete answer. -/
theorem run_eq_map_page (q : Query) :
    q.run schema options records = (q.unpaged.run schema options records).map q.page := by
  simp only [run, positions]
  cases reflected : records.mapM schema.reflect with
  | error e => rfl
  | ok snapshots =>
    have size := (mapM_eq_ok.mp reflected).length_eq
    simp only [bind, Except.bind]
    rw [select_eq_map_page q]
    cases q.unpaged.select options snapshots.toArray with
    | error e => rfl
    | ok whole =>
      simp only [Except.map, pure, Except.pure, List.filterMap_map, Function.comp_def,
        filterMap_eq_map_recordAt size, page_map]

/-- The page of a number is the window of the answer with that number. -/
theorem run_paged {clauses : List Clause} (no_offset : ∀ n, .offset n ∉ clauses)
    (no_limit : ∀ n, .limit n ∉ clauses) (size number : Nat) :
    (ofClauses (paged clauses size number)).run schema options records =
      ((ofClauses clauses).run schema options records).map fun whole =>
        (whole.drop (number * size)).take size := by
  have unpaged_eq : (ofClauses (paged clauses size number)).unpaged = (ofClauses clauses).unpaged :=
    rfl
  rw [run_eq_map_page, unpaged_eq, unpaged_ofClauses no_offset no_limit]
  rfl

/-- Lists of clauses that are alike have the same answer, or fail with the same error. The pages
of any size, requested by an offset and a limit among the clauses and put together up to the first
that is empty, are exactly the answer to the clauses without a page. -/
theorem pages_collect (schema : Schema ρ) (options : EvaluationOptions) (records : List ρ) :
    (∀ clauses other, Alike clauses other →
      (ofClauses clauses).run schema options records =
        (ofClauses other).run schema options records) ∧
    ∀ clauses, (∀ n, .offset n ∉ clauses) → (∀ n, .limit n ∉ clauses) →
      ∀ answer, (ofClauses clauses).run schema options records = .ok answer →
      ∀ size, 0 < size → ∀ request : Nat → List Clause,
        (∀ number, Alike (request number) (paged clauses size number)) →
        ∀ whole, Collects (fun number => (ofClauses (request number)).run schema options records)
          0 whole ↔ whole = answer := by
  refine ⟨fun clauses other alike => by rw [alike.ofClauses_eq], ?_⟩
  intro clauses no_offset no_limit answer success size positive request requests whole
  have windows (number : Nat) : (ofClauses (request number)).run schema options records =
      .ok ((answer.drop (number * size)).take size) := by
    rw [(requests number).ofClauses_eq, run_paged no_offset no_limit, success]
    rfl
  have collects := collects_windows positive windows 0
  rw [Nat.zero_mul, List.drop_zero] at collects
  exact ⟨fun collects' => collects.unique collects', fun same => same ▸ collects⟩

end Records

/-- The last person of every age. -/
def lastOfAge : List Clause := [.relations ["Visit"], .group ⟨none, "age"⟩]

/-- The page of a number with at most two of them. The second limit does not count. -/
def pageOfTwo (number : Nat) : List Clause :=
  [.limit 2, .group ⟨none, "age"⟩, .offset (number * 2), .select ["age"], .limit 9]

def visitors : List (Option Int64) := [none, some 2, some 5, some 2]

def visitorSnapshots : List Snapshot :=
  [⟨[("age", .null)], [], []⟩, ⟨[("age", .scalar (.int 2))], [], []⟩,
    ⟨[("age", .scalar (.int 5))], [], []⟩, ⟨[("age", .scalar (.int 2))], [], []⟩]

def visitorSelection (positions : List (Fin 4)) : Selection visitorSnapshots.toArray := positions

theorem run_lastOfAge :
    (ofClauses lastOfAge).run peopleSchema {} visitors = .ok [none, some 2, some 5] := by
  have grouped : Selection.group (ofClauses lastOfAge).groups (visitorSelection [0, 1, 2, 3]) =
      visitorSelection [0, 3, 2] := by
    decide +kernel
  have sorts : Selection.sort .first (ofClauses lastOfAge).keys
      (Selection.group (ofClauses lastOfAge).groups (visitorSelection [0, 1, 2, 3])) =
        .ok (visitorSelection [0, 3, 2]) := by
    rw [grouped]
    exact Selection.sort_nil _ _
  have selects : (ofClauses lastOfAge).select {} visitorSnapshots.toArray =
      .ok (visitorSelection [0, 3, 2]) :=
    select_eq_ok_grouped.mpr ⟨visitorSelection [0, 1, 2, 3], _, by rfl, sorts, by rfl⟩
  exact run_eq_ok.mpr
    ⟨visitorSnapshots, .cons rfl (.cons rfl (.cons rfl (.cons rfl .nil))), _, selects, by rfl⟩

theorem pageOfTwo_alike (number : Nat) : Alike (pageOfTwo number) (paged lastOfAge 2 number) :=
  ⟨rfl, rfl, rfl, rfl, rfl⟩

/-- Three groups make a full page, one with a single member, and an empty one. -/
theorem pages_collect_visitors :
    (ofClauses (pageOfTwo 1)).run peopleSchema {} visitors =
      (ofClauses (paged lastOfAge 2 1)).run peopleSchema {} visitors ∧
    (ofClauses lastOfAge).run peopleSchema {} visitors = .ok [none, some 2, some 5] ∧
    Collects (fun number => (ofClauses (pageOfTwo number)).run peopleSchema {} visitors) 0
      [none, some 2, some 5] := by
  obtain ⟨alike, collects⟩ := pages_collect peopleSchema {} visitors
  refine ⟨alike _ _ (pageOfTwo_alike 1), run_lastOfAge, ?_⟩
  exact (collects lastOfAge (by simp [lastOfAge]) (by simp [lastOfAge]) _ run_lastOfAge 2
    (by decide) pageOfTwo pageOfTwo_alike _).mpr rfl

end RecordQuery.Query
