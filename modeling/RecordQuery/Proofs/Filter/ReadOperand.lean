import RecordQuery.Proofs.Filter.Conjunction
import RecordQuery.Proofs.Filter.ListText
import RecordQuery.Proofs.Filter.PieceText

/-!
What a filter can read. Every condition of a filter that is accepted has the operand that its
operator wants: none, one literal, or a list. The literals are numbers and strings. A string
between quotes has no quote in it; a member of a list has no closing parenthesis, and before the
last member the quotes of a string come in pairs, since a comma between open quotes ends nothing.
-/

namespace RecordQuery

/-- Digits that are read as an unsigned number, and not as a signed one, are beyond the signed
ones. -/
theorem beyond_of_readUInt64? {cs : List Char} {n : UInt64} (nonempty : cs ≠ [])
    (digits : ∀ c ∈ cs, c.isDigit = true) (notSigned : readInt64? cs = none)
    (read : readUInt64? cs = some n) : Int64.maxValue.toInt < n.toNat := by
  rw [readInt64?, readInt?_digits nonempty digits, Option.bind_some, int64?] at notSigned
  rw [readUInt64?_digits nonempty digits, uint64?_eq_some] at read
  rw [read]
  split at notSigned
  next => cases notSigned
  next outside =>
    have least : Int64.minValue.toInt ≤ 0 := by decide
    omega

namespace Filter

open Text

/-! Literals. -/

/-- Numbers are read as whole numbers or as floats. -/
theorem readable_of_number? {cs : List Char} {literal : Scalar} (read : number? cs = some literal) :
    Readable literal ∧ ∀ s, literal ≠ .string s := by
  unfold number? at read
  dsimp only at read
  rw [Option.ite_none_left_eq_some, Bool.not_eq_true, Bool.or_eq_false_iff] at read
  obtain ⟨⟨nonempty, body⟩, read⟩ := read
  split at read
  next =>
    obtain ⟨x, -, rfl⟩ := Option.map_eq_some_iff.mp read
    exact ⟨.float x, nofun⟩
  next noPoint =>
    split at read
    next n _ =>
      cases read
      exact ⟨.int n, nofun⟩
    next notSigned =>
      obtain ⟨n, unsigned, rfl⟩ := Option.map_eq_some_iff.mp read
      refine ⟨.uint ?_, nofun⟩
      cases cs with
      | nil => cases nonempty
      | cons c rest =>
        have notMinus : c ≠ '-' := by
          rintro rfl
          have refused : readUInt64? ('-' :: rest) = none := rfl
          rw [refused] at unsigned
          cases unsigned
        have digits : ∀ d ∈ c :: rest, d.isDigit = true := by
          have all : (c :: rest).all (fun c => c.isDigit || c == '.') = true := by
            split at body
            next same => exact absurd (List.cons.inj same).1 notMinus
            next => exact (Bool.not_eq_false' ..).mp body
          intro d mem
          have either := List.all_eq_true.mp all d mem
          rw [Bool.or_eq_true, beq_iff_eq] at either
          refine either.resolve_right ?_
          rintro rfl
          exact noPoint (List.contains_iff_mem.mpr mem)
        exact beyond_of_readUInt64? (List.cons_ne_nil _ _) digits notSigned unsigned

theorem eq_of_unquoted? {cs body : List Char} (read : unquoted? cs = some body) :
    cs = '\'' :: (body ++ ['\'']) := by
  unfold unquoted? at read
  split at read
  next inner =>
    simp only [stripSuffix?, Option.ite_none_right_eq_some, Option.some.injEq,
      List.isSuffixOf_iff_suffix] at read
    obtain ⟨⟨front, rfl⟩, rfl⟩ := read
    simp
  next => cases read

theorem readable_member (part : List Char) : Readable (member part) := by
  unfold member
  split
  · exact .string _
  · cases read : number? part with
    | none => exact .string _
    | some literal => exact (readable_of_number? read).1

/-- A member that is a string has the characters of its part, perhaps without a quote on either
side. -/
theorem string_of_member {part : List Char} {s : String} (string : member part = .string s) :
    s.toList ⊆ part ∧ oddQuotes s.toList = oddQuotes part := by
  unfold member at string
  split at string
  next body quoted =>
    obtain rfl := eq_of_unquoted? quoted
    cases string
    rw [String.toList_ofList]
    constructor
    · intro c mem
      simp [mem]
    · rw [oddQuotes_cons, oddQuotes_append, oddQuotes_singleton]
      cases oddQuotes body <;> rfl
  next =>
    cases read : number? part with
    | none =>
      rw [read] at string
      cases string
      rw [String.toList_ofList]
      exact ⟨List.Subset.refl _, rfl⟩
    | some literal =>
      rw [read] at string
      exact absurd string ((readable_of_number? read).2 s)

/-! Trimming. -/

theorem trimChars_subset (cs : List Char) : trimChars cs ⊆ cs := by
  have front := (dropEndWhile_leading isBlank (cs.dropWhile isBlank)).subset
  exact List.Subset.trans front (List.dropWhile_suffix isBlank).subset

theorem count_dropWhile {α : Type} [BEq α] [LawfulBEq α] {p : α → Bool} {x : α} (kept : p x = false)
    (xs : List α) : (xs.dropWhile p).count x = xs.count x := by
  have split := List.takeWhile_append_dropWhile (p := p) (l := xs)
  have none : (xs.takeWhile p).count x = 0 := by
    rw [List.count_eq_zero]
    intro mem
    rw [List.mem_takeWhile_imp mem] at kept
    cases kept
  conv_rhs => rw [← split]
  rw [List.count_append, none, Nat.zero_add]

/-- Quotes are not trimmed. -/
theorem oddQuotes_trimChars (cs : List Char) : oddQuotes (trimChars cs) = oddQuotes cs := by
  have notBlank : isBlank '\'' = false := by decide
  rw [oddQuotes, oddQuotes, trimChars, dropEndWhile, List.count_reverse, count_dropWhile notBlank,
    List.count_reverse, count_dropWhile notBlank]

/-! Members of a list. -/

theorem subset_of_mem_split {quoted : Bool} {cs part : List Char}
    (mem : part ∈ splitOutsideQuotes quoted cs) : part ⊆ cs := by
  induction cs generalizing quoted part with
  | nil =>
    rw [splitOutsideQuotes, List.mem_singleton] at mem
    rw [mem]
    exact List.Subset.refl _
  | cons c cs ih =>
    unfold splitOutsideQuotes at mem
    split at mem
    · rcases List.mem_cons.mp mem with rfl | later
      · exact List.nil_subset _
      · exact List.subset_cons_of_subset c (ih later)
    · obtain ⟨first, others, split⟩ := exists_splitOutsideQuotes (quoted != (c == '\'')) cs
      rw [split] at mem
      have earlier : first ⊆ cs := ih (split ▸ List.mem_cons_self)
      rcases List.mem_cons.mp mem with rfl | later
      · exact List.cons_subset_cons c earlier
      · exact List.subset_cons_of_subset c (ih (split ▸ List.mem_cons_of_mem _ later))

/-- The quotes of all parts but the last come in pairs; the first part may close one more that was
open. -/
theorem paired_of_split {quoted : Bool} {cs part : List Char} {parts : List (List Char)}
    (split : splitOutsideQuotes quoted cs = part :: parts) :
    (parts ≠ [] → (quoted != oddQuotes part) = false) ∧
      ∀ other ∈ parts.dropLast, oddQuotes other = false := by
  induction cs generalizing quoted part parts with
  | nil =>
    cases split
    exact ⟨fun none => absurd rfl none, List.forall_mem_nil _⟩
  | cons c cs ih =>
    unfold splitOutsideQuotes at split
    split at split
    next separates =>
      cases split
      have outside : quoted = false := by
        rw [Bool.and_eq_true, Bool.not_eq_true'] at separates
        exact separates.2
      subst outside
      refine ⟨fun _ => rfl, ?_⟩
      obtain ⟨first, others, split⟩ := exists_splitOutsideQuotes false cs
      obtain ⟨closed, paired⟩ := ih split
      rw [split]
      cases others with
      | nil => exact List.forall_mem_nil _
      | cons other others =>
        rw [List.dropLast_cons_of_ne_nil (List.cons_ne_nil _ _), List.forall_mem_cons]
        exact ⟨by simpa using closed (List.cons_ne_nil _ _), paired⟩
    next =>
      obtain ⟨first, others, behind⟩ := exists_splitOutsideQuotes (quoted != (c == '\'')) cs
      obtain ⟨closed, paired⟩ := ih behind
      rw [behind] at split
      cases split
      refine ⟨fun some => ?_, paired⟩
      have := closed some
      rwa [Bool.bne_assoc, bne_comm (a := (c == '\'')), ← oddQuotes_cons] at this

theorem mem_dropLast_of_filter {α : Type} {p : α → Bool} {xs : List α} {x : α}
    (mem : x ∈ (xs.filter p).dropLast) : x ∈ xs.dropLast := by
  rcases List.eq_nil_or_concat xs with rfl | ⟨front, last, rfl⟩
  · cases mem
  · rw [List.concat_eq_append, List.filter_append] at mem
    rw [List.concat_eq_append, List.dropLast_concat]
    cases kept : p last with
    | true =>
      rw [List.filter_cons_of_pos kept, List.filter_nil, List.dropLast_concat] at mem
      exact List.mem_of_mem_filter mem
    | false =>
      rw [List.filter_cons_of_neg (by simp [kept]), List.filter_nil, List.append_nil] at mem
      exact List.mem_of_mem_filter (List.mem_of_mem_dropLast mem)

theorem readable_of_mem_members {body : List Char} :
    ∀ literal ∈ members body, Readable literal := by
  intro literal mem
  obtain ⟨part, -, rfl⟩ := List.mem_map.mp mem
  exact readable_member part

/-- The strings of a list have only characters of the list. -/
theorem subset_of_mem_members {body : List Char} {s : String}
    (mem : Scalar.string s ∈ members body) : s.toList ⊆ body := by
  obtain ⟨trimmed, kept, string⟩ := List.mem_map.mp mem
  obtain ⟨part, among, rfl⟩ := List.mem_map.mp (List.mem_of_mem_filter kept)
  exact List.Subset.trans (string_of_member string).1
    (List.Subset.trans (trimChars_subset part) (subset_of_mem_split among))

/-- Before the last member the quotes of a string come in pairs. -/
theorem paired_of_mem_members {body : List Char} {s : String}
    (mem : Scalar.string s ∈ (members body).dropLast) : oddQuotes s.toList = false := by
  rw [members, ← List.map_dropLast] at mem
  obtain ⟨trimmed, kept, string⟩ := List.mem_map.mp mem
  have among := mem_dropLast_of_filter kept
  rw [← List.map_dropLast] at among
  obtain ⟨part, earlier, rfl⟩ := List.mem_map.mp among
  rw [(string_of_member string).2, oddQuotes_trimChars]
  obtain ⟨first, others, split⟩ := exists_splitOutsideQuotes false body
  obtain ⟨closed, paired⟩ := paired_of_split split
  rw [split] at earlier
  cases others with
  | nil => cases earlier
  | cons other others =>
    rw [List.dropLast_cons_of_ne_nil (List.cons_ne_nil _ _), List.mem_cons] at earlier
    rcases earlier with rfl | later
    · simpa using closed (List.cons_ne_nil _ _)
    · exact paired _ later

/-! Operands. -/

/-- What stands between the marks of an operand has no closing mark. -/
inductive RawOperand.Closed : RawOperand → Prop
  | quoted {body : List Char} (unquoted : '\'' ∉ body) : Closed (.quoted body)
  | list {body : List Char} (unclosed : ')' ∉ body) : Closed (.list body)
  | number (digits : List Char) : Closed (.number digits)

theorem OperandText.raw_closed (o : OperandText) : o.raw.Closed := by
  cases o with
  | quoted body closed => exact .quoted closed
  | list body closed => exact .list closed
  | number n => exact .number _

/-- What a piece says of its column. -/
theorem predicate_of_piece? {text : List Char} {p : Piece} (found : piece? text = some p) :
    (∃ op : Operator, op.isNullCheck = true ∧ p.predicate = .nullCheck op) ∨
      ∃ word raw, RawOperand.Closed raw ∧ p.predicate = .comparison word raw := by
  simp only [piece?, bind, Option.bind_eq_some_iff] at found
  obtain ⟨⟨target, after⟩, -, blank, -, ⟨predicate, rest⟩, said, made⟩ := found
  cases made
  unfold predicate? at said
  split at said
  next op rest null =>
    cases said
    exact .inl ⟨op, (chars_of_nullCheck? null).1, rfl⟩
  next =>
    obtain ⟨word, gap, o, rfl, -⟩ := chars_of_comparison? said
    exact .inr ⟨word, o.raw, o.raw_closed, rfl⟩

/-- Literals that stand alone: numbers, and strings between quotes. -/
structure Alone (literal : Scalar) : Prop where
  readable : Readable literal
  unquoted : ∀ s, literal = .string s → '\'' ∉ s.toList

/-- What filters read for the operand of an operator. -/
inductive ReadOperand : Operator → Option Operand → Prop
  | nothing {op : Operator} (checks : op.isNullCheck = true) : ReadOperand op none
  | single {op : Operator} {literal : Scalar} (compares : op.isNullCheck = false)
      (single : op.takesList = false) (alone : Alone literal) :
      ReadOperand op (some (.single literal))
  | one {op : Operator} {literal : Scalar} (takes : op.takesList = true) (alone : Alone literal) :
      ReadOperand op (some (.list [literal]))
  | list {op : Operator} {body : List Char} (takes : op.takesList = true)
      (unclosed : ')' ∉ body) : ReadOperand op (some (.list (members body)))

theorem ReadOperand.of_single {op : Operator} {literal : Scalar} (target : Reference)
    (compares : op.isNullCheck = false) (alone : Alone literal) :
    ReadOperand op (Condition.of target op (.single literal)).operand := by
  unfold Condition.of
  rw [compares]
  cases takes : op.takesList with
  | true => exact .one takes alone
  | false => exact .single compares takes alone

/-- The operand of a condition of a filter that is accepted. -/
theorem readOperand_of_read {s : String} {conditions : List Condition}
    (accepted : read s = .ok conditions) {c : Condition} (mem : c ∈ conditions) :
    ReadOperand c.op c.operand := by
  obtain ⟨text, p, found, states⟩ := exists_piece?_of_read accepted mem
  unfold Piece.condition at states
  rcases predicate_of_piece? found with ⟨op, checks, said⟩ | ⟨word, raw, closed, said⟩
  · rw [said] at states
    cases states
    exact .nothing checks
  · rw [said] at states
    dsimp only at states
    split at states
    next => cases states
    next op _ =>
      split at states
      next => cases states
      next comparing =>
        have compares : op.isNullCheck = false := Bool.eq_false_of_not_eq_true comparing
        obtain ⟨operand, readRaw, rfl⟩ := map_eq_ok.mp states
        cases closed with
        | @quoted body unquoted =>
          cases readRaw
          refine .of_single p.target compares ⟨.string _, ?_⟩
          rintro s ⟨⟩
          rwa [String.toList_ofList]
        | @list body unclosed =>
          unfold readOperand at readRaw
          dsimp only at readRaw
          split at readRaw
          next takes =>
            cases readRaw
            simp only [Condition.of, takes, compares, if_true, Bool.false_eq_true, if_false]
            exact .list takes unclosed
          next => cases readRaw
        | number digits =>
          unfold readOperand at readRaw
          dsimp only at readRaw
          split at readRaw
          next literal number =>
            cases readRaw
            obtain ⟨readable, notString⟩ := readable_of_number? number
            exact .of_single p.target compares ⟨readable, fun s same => absurd same (notString s)⟩
          next => cases readRaw

end Filter

end RecordQuery
