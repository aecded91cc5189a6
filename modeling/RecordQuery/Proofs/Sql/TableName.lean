import RecordQuery.Proofs.Sql.Quoting

/-!
Names of tables in statements and in lookups. A lookup goes by the canonical form of a name, a
statement by its lower-case form and the plural of that. Two names of one relation lead to the same
parts of a statement exactly if they are spelled alike. The name of a record and the name of its
table never do.
-/

namespace RecordQuery.Sql

open RecordQuery.Filter Name

/-- A name of a table that can stand between quotes. -/
structure Quotable (table : String) : Prop where
  notEmpty : table ≠ ""
  quoteFree : '"' ∉ table.toList

section

variable {a b : String} (quotable : Quotable a) (quotable' : Quotable b)

include quotable

theorem Quotable.foreignTable? (name : String) :
    foreignTable? ⟨some a, name⟩ = some (snakeCase a) := by
  simp [Sql.foreignTable?, quotable.notEmpty]

theorem Quotable.snakeCase_quoteFree : '"' ∉ (snakeCase a).toList := by
  rw [snakeCase, String.toList_ofList, quote_mem_snakeChars]
  exact quotable.quoteFree

include quotable'

theorem column_eq_of_snakeCase (same : snakeCase a = snakeCase b) (name : String) :
    column ⟨some a, name⟩ = column ⟨some b, name⟩ := by
  unfold column
  rw [quotable.foreignTable?, quotable'.foreignTable?, same]

/-- A join has the name of its table in the singular too, and so belongs to one table only. -/
theorem joins_eq_iff (name : String) :
    joins ⟨some a, name⟩ = joins ⟨some b, name⟩ ↔ snakeCase a = snakeCase b := by
  constructor
  · intro same
    have texts := (joins_written ⟨some a, name⟩).symm.trans (same ▸ joins_written ⟨some b, name⟩)
    rw [quotable.foreignTable?, quotable'.foreignTable?] at texts
    have tokens : joinTokens (snakeCase a) = joinTokens (snakeCase b) :=
      written_injective (joinTokens_wellFormed _)
        (joinTokens_quoteFree.mpr quotable.snakeCase_quoteFree) (joinTokens_wellFormed _)
        (joinTokens_quoteFree.mpr quotable'.snakeCase_quoteFree) (List.cons.inj texts).1
    have singular : (snakeCase a ++ "_id").toList = (snakeCase b ++ "_id").toList :=
      Token.name.inj (Option.some.inj (congrArg List.getLast? tokens))
    exact (String.append_left_inj "_id").mp (String.toList_inj.mp singular)
  · intro same
    unfold joins
    rw [quotable.foreignTable?, quotable'.foreignTable?, same]

/-- The part after the join, which names the table in the plural only, decides nothing more. -/
theorem parts_eq_iff {name : String} {part part' : Part}
    (follows : snakeCase a = snakeCase b → part = part') :
    joins ⟨some a, name⟩ ++ [part] = joins ⟨some b, name⟩ ++ [part'] ↔
      snakeCase a = snakeCase b := by
  constructor
  · intro same
    exact (joins_eq_iff quotable quotable' name).mp (List.append_inj_left' same rfl)
  · intro same
    rw [(joins_eq_iff quotable quotable' name).mpr same, follows same]

theorem ofCondition_eq_iff (name : String) (op : Operator) (operand : Option Operand) :
    ofCondition ⟨⟨some a, name⟩, op, operand⟩ = ofCondition ⟨⟨some b, name⟩, op, operand⟩ ↔
      snakeCase a = snakeCase b := by
  apply parts_eq_iff quotable quotable'
  intro same
  rw [column_eq_of_snakeCase quotable quotable' same]
  rfl

theorem ofSortKey_eq_iff (name : String) (direction : Direction) :
    ofSortKey ⟨⟨some a, name⟩, direction⟩ = ofSortKey ⟨⟨some b, name⟩, direction⟩ ↔
      snakeCase a = snakeCase b := by
  apply parts_eq_iff quotable quotable'
  intro same
  rw [column_eq_of_snakeCase quotable quotable' same]

theorem ofGroup_eq_iff (name : String) :
    ofClause (.group ⟨some a, name⟩) = ofClause (.group ⟨some b, name⟩) ↔
      snakeCase a = snakeCase b := by
  apply parts_eq_iff quotable quotable'
  intro same
  rw [column_eq_of_snakeCase quotable quotable' same]

end

/-! Identifiers as names of tables. -/

theorem ascii_of_isNameRest {c : Char} (name : isNameRest c = true) : c.toNat < 0x80 := by
  simp only [isNameRest, Char.isAlphanum, Bool.or_eq_true, beq_iff_eq] at name
  rcases name with (letter | digit) | rfl
  · have := Text.toNat_of_isAlpha letter
    omega
  · have := Text.toNat_of_isDigit digit
    omega
  · decide

theorem quotable_identifier (n : Identifier) : Quotable (String.ofList n.chars) where
  notEmpty := by simp [Identifier.chars]
  quoteFree := IsName.quote_free ⟨n, rfl⟩

theorem ascii_identifier (n : Identifier) :
    ∀ c ∈ (String.ofList n.chars).toList, c.toNat < 0x80 := by
  intro c mem
  rw [String.toList_ofList] at mem
  exact ascii_of_isNameRest (isNameRest_of_mem n c mem)

/-- A condition, a sort key or a grouping on a column of a table has the same parts for two names
of the table exactly if the names are spelled alike. Lookups take such names for one as well. -/
theorem lowered_alike_iff (a b : Identifier) :
    (∀ column op operand,
      ofCondition ⟨⟨some (String.ofList a.chars), column⟩, op, operand⟩ =
        ofCondition ⟨⟨some (String.ofList b.chars), column⟩, op, operand⟩ ↔
      SpelledAlike a.chars b.chars) ∧
    (∀ column direction,
      ofSortKey ⟨⟨some (String.ofList a.chars), column⟩, direction⟩ =
        ofSortKey ⟨⟨some (String.ofList b.chars), column⟩, direction⟩ ↔
      SpelledAlike a.chars b.chars) ∧
    (∀ column,
      ofClause (.group ⟨some (String.ofList a.chars), column⟩) =
        ofClause (.group ⟨some (String.ofList b.chars), column⟩) ↔
      SpelledAlike a.chars b.chars) ∧
    (SpelledAlike a.chars b.chars →
      canonical (String.ofList a.chars) = canonical (String.ofList b.chars)) := by
  have qa := quotable_identifier a
  have qb := quotable_identifier b
  have spelled : snakeCase (String.ofList a.chars) = snakeCase (String.ofList b.chars) ↔
      SpelledAlike a.chars b.chars := by
    have general := snakeCase_eq_iff qa.notEmpty qb.notEmpty (ascii_identifier a)
      (ascii_identifier b)
    rwa [String.toList_ofList, String.toList_ofList] at general
  refine ⟨fun column op operand => ?_, fun column direction => ?_, fun column => ?_, fun alike => ?_⟩
  · rw [ofCondition_eq_iff qa qb, spelled]
  · rw [ofSortKey_eq_iff qa qb, spelled]
  · rw [ofGroup_eq_iff qa qb, spelled]
  · rw [← canonical_snakeCase (ascii_identifier a), spelled.mpr alike,
      canonical_snakeCase (ascii_identifier b)]

/-- The names `OrderItem` and `order_item` are spelled alike, and a sort key on a column of either
has the same parts. -/
theorem lowered_alike_orderItem :
    SpelledAlike "OrderItem".toList "order_item".toList ∧
      ofSortKey ⟨⟨some "OrderItem", "price"⟩, .descending⟩ =
        ofSortKey ⟨⟨some "order_item", "price"⟩, .descending⟩ := by
  have alike : SpelledAlike "OrderItem".toList "order_item".toList := by
    have tail : RestAlike ['t', 'e', 'm'] ['t', 'e', 'm'] := .same 't' (.same 'e' (.same 'm' .nil))
    have word : RestAlike ['I', 't', 'e', 'm'] ['_', 'i', 't', 'e', 'm'] := .capitalLeft rfl tail
    exact .intro rfl (.same 'r' (.same 'd' (.same 'e' (.same 'r' word))))
  have parts := (lowered_alike_iff ⟨'O', "rderItem".toList, rfl, List.all_eq_true.mp rfl⟩
    ⟨'o', "rder_item".toList, rfl, List.all_eq_true.mp rfl⟩).2.1 "price" .descending
  exact ⟨alike, parts.mpr alike⟩

/-- A lookup takes `User` and `users` for one relation. A condition on `User` joins `users`, and
one on `users` joins a table `userses`. -/
theorem lowered_apart_user :
    canonical "User" = canonical "users" ∧
      ofCondition ⟨⟨some "User", "age"⟩, .gt, some (.single (.int 30))⟩ =
        [.join "\"users\" ON \"users\".\"id\" = \"user_id\"",
          .condition "\"users\".\"age\" > ?" [.int 30]] ∧
      ofCondition ⟨⟨some "users", "age"⟩, .gt, some (.single (.int 30))⟩ =
        [.join "\"userses\" ON \"userses\".\"id\" = \"users_id\"",
          .condition "\"userses\".\"age\" > ?" [.int 30]] := by
  decide +kernel

theorem quotable_table (n : Identifier) : Quotable (table (String.ofList n.chars)) where
  notEmpty := plural_ne_empty _
  quoteFree := by
    rw [table, quote_mem_plural]
    exact (quotable_identifier n).snakeCase_quoteFree

/-- Wherever the plural of a name leads back to it, a lookup takes the table of a record for the
record itself. A statement never does: it takes the plural twice. -/
theorem lowered_apart_from_table (n : Identifier) :
    (PluralLeadsBack (String.ofList n.chars) → ∀ s : Snapshot,
      s.relation? (table (String.ofList n.chars)) = s.relation? (String.ofList n.chars)) ∧
    (∀ column op operand,
      ofCondition ⟨⟨some (table (String.ofList n.chars)), column⟩, op, operand⟩ ≠
        ofCondition ⟨⟨some (String.ofList n.chars), column⟩, op, operand⟩) := by
  have ascii := ascii_identifier n
  constructor
  · intro leadsBack s
    unfold Snapshot.relation?
    rw [(canonical_table_iff ascii).mpr leadsBack]
  · intro column op operand same
    have lowered := (ofCondition_eq_iff (quotable_table n) (quotable_identifier n) column op
      operand).mp same
    exact snakeCase_table_ne ascii lowered

end RecordQuery.Sql
