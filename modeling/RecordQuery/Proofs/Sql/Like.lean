import Mathlib.Data.List.Infix
import RecordQuery.Matching
import RecordQuery.Request.Filter
import RecordQuery.Sql

/-!
The substring operators as SQL patterns. A needle is bound as a pattern with a percent sign where
more text may stand. Whatever an operator finds, the pattern matches. It matches nothing else
exactly if the needle has none of the two wildcards of patterns.
-/

namespace RecordQuery

namespace Text

theorem occursIn_iff {needle text : List Char} :
    occursIn needle text = true ↔ needle <:+: text := by
  induction text with
  | nil => simp [occursIn]
  | cons c text ih =>
    rw [List.infix_cons_iff, ← ih, occursIn, Bool.or_eq_true, List.isPrefixOf_iff_prefix]

end Text

namespace Sql

/-- A text matches a pattern. A percent sign stands for any run of characters, an underscore for
any one character, every other character for itself. No character takes away the meaning of
another. -/
inductive Like : List Char → List Char → Prop
  | done : Like [] []
  | anyRun (run : List Char) {pattern text : List Char} : Like pattern text →
      Like ('%' :: pattern) (run ++ text)
  | anyOne (c : Char) {pattern text : List Char} : Like pattern text →
      Like ('_' :: pattern) (c :: text)
  | itself {c : Char} {pattern text : List Char} : c ≠ '%' → c ≠ '_' → Like pattern text →
      Like (c :: pattern) (c :: text)

/-- The characters that stand for others. -/
def isWildcard (c : Char) : Bool :=
  c == '%' || c == '_'

theorem forall_not_isWildcard_iff {p : List Char} :
    (∀ c ∈ p, isWildcard c = false) ↔ '%' ∉ p ∧ '_' ∉ p := by
  constructor
  · intro plain
    exact ⟨fun mem => absurd (plain _ mem) (by decide), fun mem => absurd (plain _ mem) (by decide)⟩
  · intro plain c mem
    rw [Bool.eq_false_iff]
    intro wildcard
    rcases (Bool.or_eq_true _ _).mp wildcard with run | one
    · rw [beq_iff_eq.mp run] at mem
      exact plain.1 mem
    · rw [beq_iff_eq.mp one] at mem
      exact plain.2 mem

theorem like_append {p q text : List Char} :
    Like (p ++ q) text ↔ ∃ front back, text = front ++ back ∧ Like p front ∧ Like q back := by
  constructor
  · intro matched
    induction p generalizing text with
    | nil => exact ⟨[], text, rfl, .done, matched⟩
    | cons c p ih =>
      cases matched with
      | anyRun run matched =>
        obtain ⟨front, back, rfl, like_p, like_q⟩ := ih matched
        exact ⟨run ++ front, back, (List.append_assoc ..).symm, .anyRun run like_p, like_q⟩
      | anyOne d matched =>
        obtain ⟨front, back, rfl, like_p, like_q⟩ := ih matched
        exact ⟨d :: front, back, rfl, .anyOne d like_p, like_q⟩
      | itself not_run not_one matched =>
        obtain ⟨front, back, rfl, like_p, like_q⟩ := ih matched
        exact ⟨c :: front, back, rfl, .itself not_run not_one like_p, like_q⟩
  · intro split
    obtain ⟨front, back, rfl, like_p, like_q⟩ := split
    induction like_p with
    | done => exact like_q
    | anyRun run _ ih =>
      rw [List.append_assoc]
      exact .anyRun run ih
    | anyOne c _ ih => exact .anyOne c ih
    | itself not_run not_one _ ih => exact .itself not_run not_one ih

theorem like_percent (text : List Char) : Like ['%'] text := by
  have matched := Like.anyRun text .done
  rwa [List.append_nil] at matched

theorem like_percent_cons {p text : List Char} :
    Like ('%' :: p) text ↔ ∃ front back, text = front ++ back ∧ Like p back := by
  constructor
  · intro matched
    cases matched with
    | anyRun run matched => exact ⟨run, _, rfl, matched⟩
    | itself not_run => exact absurd rfl not_run
  · intro split
    obtain ⟨front, back, rfl, matched⟩ := split
    exact .anyRun front matched

/-- A pattern matches itself as a text, since the wildcards match themselves too. -/
theorem like_self (p : List Char) : Like p p := by
  induction p with
  | nil => exact .done
  | cons c p ih =>
    by_cases run : c = '%'
    · subst run
      exact .anyRun ['%'] ih
    · by_cases one : c = '_'
      · subst one
        exact .anyOne '_' ih
      · exact .itself run one ih

/-- Without wildcards a pattern matches no other text. -/
theorem eq_of_like {p text : List Char} (plain : ∀ c ∈ p, isWildcard c = false)
    (matched : Like p text) : text = p := by
  induction matched with
  | done => rfl
  | anyRun run _ _ => exact absurd (plain '%' (List.mem_cons_self ..)) (by decide)
  | anyOne c _ _ => exact absurd (plain '_' (List.mem_cons_self ..)) (by decide)
  | itself _ _ _ ih =>
    rw [List.forall_mem_cons] at plain
    rw [ih plain.2]

/-- A text without wildcards: nothing for a percent sign, the letter x for an underscore. -/
def filled : List Char → List Char
  | [] => []
  | c :: p => if c = '%' then filled p else if c = '_' then 'x' :: filled p else c :: filled p

theorem like_filled (p : List Char) : Like p (filled p) := by
  induction p with
  | nil => exact .done
  | cons c p ih =>
    unfold filled
    split
    next run =>
      subst run
      exact .anyRun [] ih
    next not_run =>
      split
      next one =>
        subst one
        exact .anyOne 'x' ih
      next not_one => exact .itself not_run not_one ih

theorem length_filled_le (p : List Char) : (filled p).length ≤ p.length := by
  induction p with
  | nil => exact Nat.le_refl 0
  | cons c p ih =>
    unfold filled
    split
    · exact Nat.le_succ_of_le ih
    · split <;> exact Nat.succ_le_succ ih

theorem isWildcard_of_mem_filled {p : List Char} : ∀ c ∈ filled p, isWildcard c = false := by
  induction p with
  | nil => exact fun _ mem => absurd mem List.not_mem_nil
  | cons c p ih =>
    unfold filled
    split
    next => exact ih
    next not_run =>
      split
      next => exact List.forall_mem_cons.mpr ⟨by decide, ih⟩
      next not_one =>
        have plain : isWildcard c = false := by simp [isWildcard, not_run, not_one]
        exact List.forall_mem_cons.mpr ⟨plain, ih⟩

/-- Where a substring operator looks for its needle. -/
def PieceOf (op : Operator) (piece text : List Char) : Prop :=
  match op with
  | .contains => piece <:+: text
  | .startsWith => piece <+: text
  | .endsWith => piece <:+ text
  | _ => False

theorem textHolds_iff {op : Operator} {text needle : String} :
    Comparison.textHolds op text needle = true ↔ PieceOf op needle.toList text.toList := by
  cases op with
  | contains => exact Text.occursIn_iff
  | startsWith => exact List.isPrefixOf_iff_prefix
  | endsWith => exact List.isSuffixOf_iff_suffix
  | _ => simp [Comparison.textHolds, PieceOf]

/-- The operators that look for a needle in a text. -/
inductive SeeksNeedle : Operator → Prop
  | contains : SeeksNeedle .contains
  | startsWith : SeeksNeedle .startsWith
  | endsWith : SeeksNeedle .endsWith

theorem pieceOf_self {op : Operator} (seeks : SeeksNeedle op) (text : List Char) :
    PieceOf op text text := by
  cases seeks with
  | contains => exact List.infix_refl text
  | startsWith => exact List.prefix_refl text
  | endsWith => exact List.suffix_refl text

/-- A piece that is not shorter than the text is the text. -/
theorem PieceOf.eq_of_length_le {op : Operator} {piece text : List Char}
    (found : PieceOf op piece text) (long : text.length ≤ piece.length) : piece = text := by
  cases op with
  | contains => exact List.IsInfix.eq_of_length_le found long
  | startsWith => exact List.IsPrefix.eq_of_length_le found long
  | endsWith => exact List.IsSuffix.eq_of_length_le found long
  | _ => exact absurd found id

/-- The pattern that is bound for a needle, with a percent sign where more text may stand. -/
def framed (op : Operator) (needle : List Char) : List Char :=
  match op with
  | .contains => '%' :: (needle ++ ['%'])
  | .startsWith => needle ++ ['%']
  | .endsWith => '%' :: needle
  | _ => needle

/-- A text matches the pattern if the needle, read as a pattern, matches a piece of it. -/
theorem like_framed_iff {op : Operator} (seeks : SeeksNeedle op)
    {needle text : List Char} :
    Like (framed op needle) text ↔ ∃ piece, PieceOf op piece text ∧ Like needle piece := by
  cases seeks with
  | contains =>
    constructor
    · intro matched
      obtain ⟨front, rest, rfl, rest_matched⟩ := like_percent_cons.mp matched
      obtain ⟨piece, back, rfl, piece_matched, -⟩ := like_append.mp rest_matched
      exact ⟨piece, ⟨front, back, List.append_assoc ..⟩, piece_matched⟩
    · intro found
      obtain ⟨piece, ⟨front, back, rfl⟩, matched⟩ := found
      refine like_percent_cons.mpr ⟨front, piece ++ back, List.append_assoc .., ?_⟩
      exact like_append.mpr ⟨piece, back, rfl, matched, like_percent back⟩
  | startsWith =>
    constructor
    · intro matched
      obtain ⟨piece, back, rfl, piece_matched, -⟩ := like_append.mp matched
      exact ⟨piece, ⟨back, rfl⟩, piece_matched⟩
    · intro found
      obtain ⟨piece, ⟨back, rfl⟩, matched⟩ := found
      exact like_append.mpr ⟨piece, back, rfl, matched, like_percent back⟩
  | endsWith =>
    constructor
    · intro matched
      obtain ⟨front, piece, rfl, piece_matched⟩ := like_percent_cons.mp matched
      exact ⟨piece, ⟨front, rfl⟩, piece_matched⟩
    · intro found
      obtain ⟨piece, ⟨front, rfl⟩, matched⟩ := found
      exact like_percent_cons.mpr ⟨front, piece, rfl, matched⟩

/-- The pattern of a needle matches the same texts as the needle is found in, or more of them if
the needle has a wildcard. Then it matches a text that is too short to hold the needle, or as long
as the needle and without its wildcards. -/
theorem like_framed_eq_pieceOf_iff {op : Operator} (seeks : SeeksNeedle op)
    {needle : List Char} :
    (∀ text, Like (framed op needle) text ↔ PieceOf op needle text) ↔
      ∀ c ∈ needle, isWildcard c = false := by
  constructor
  · intro same
    have matched : Like (framed op needle) (filled needle) :=
      (like_framed_iff seeks).mpr ⟨_, pieceOf_self seeks _, like_filled needle⟩
    have found := (same (filled needle)).mp matched
    rw [found.eq_of_length_le (length_filled_le needle)]
    exact isWildcard_of_mem_filled
  · intro plain text
    rw [like_framed_iff seeks]
    constructor
    · intro matched
      obtain ⟨piece, found, matched⟩ := matched
      rwa [← eq_of_like plain matched]
    · intro found
      exact ⟨needle, found, like_self needle⟩

/-- The condition that looks for a needle in a column. -/
def substringCondition (target : Reference) (op : Operator) (needle : String) : Condition :=
  ⟨target, op, some (.single (.string needle))⟩

theorem pattern_string (before after needle : String) : pattern before after [.string needle] =
    [.string (String.ofList (before.toList ++ needle.toList ++ after.toList))] := by
  rw [← String.toList_append, ← String.toList_append, String.ofList_toList]
  rfl

theorem arguments_substring {op : Operator} (seeks : SeeksNeedle op) (target : Reference)
    (needle : String) : arguments (substringCondition target op needle) =
      [.string (String.ofList (framed op needle.toList))] := by
  cases seeks with
  | contains => exact pattern_string "%" "%" needle
  | startsWith => exact pattern_string "" "%" needle
  | endsWith =>
    rw [← List.append_nil (framed .endsWith needle.toList)]
    exact pattern_string "%" "" needle

theorem ofCondition_substring {op : Operator} (seeks : SeeksNeedle op) (target : Reference)
    (needle : String) :
    ofCondition (substringCondition target op needle) = joins target ++
      [.condition (column target ++ " LIKE ?")
        [.string (String.ofList (framed op needle.toList))]] := by
  have clause : column target ++ " " ++ comparison op = column target ++ " LIKE ?" := by
    rw [String.append_assoc]
    cases seeks <;> rfl
  rw [ofCondition, arguments_substring seeks]
  exact congrArg (fun text => joins target ++ [Part.condition text _]) clause

theorem valueHolds_substring {op : Operator} (seeks : SeeksNeedle op)
    (semantics : NullSemantics) (text needle : String) :
    Matching.valueHolds semantics op (.scalar (.string text)) (some (.single (.string needle))) =
      .ok (Comparison.textHolds op text needle) := by
  cases seeks <;> rfl

/-- A substring operator is lowered to a pattern that matches every text in which the operator
finds its needle. The pattern matches no other text exactly if neither `%` nor `_` stands in the
needle. -/
theorem like_substring_iff {op : Operator} (seeks : SeeksNeedle op)
    (semantics : NullSemantics) (target : Reference) (needle : String) :
    ∃ pattern : String,
      ofCondition (substringCondition target op needle) = joins target ++
        [.condition (column target ++ " LIKE ?") [.string pattern]] ∧
      (∀ text : String,
        Matching.valueHolds semantics op (.scalar (.string text))
          (some (.single (.string needle))) = .ok true → Like pattern.toList text.toList) ∧
      ((∀ text : String, Like pattern.toList text.toList ↔
          Matching.valueHolds semantics op (.scalar (.string text))
            (some (.single (.string needle))) = .ok true) ↔
        '%' ∉ needle.toList ∧ '_' ∉ needle.toList) := by
  refine ⟨String.ofList (framed op needle.toList), ofCondition_substring seeks target needle,
    ?_, ?_⟩
  · intro text holds
    rw [valueHolds_substring seeks, Except.ok.injEq, textHolds_iff] at holds
    rw [String.toList_ofList, like_framed_iff seeks]
    exact ⟨needle.toList, holds, like_self _⟩
  · rw [← forall_not_isWildcard_iff, ← like_framed_eq_pieceOf_iff seeks, String.toList_ofList]
    simp only [valueHolds_substring seeks, Except.ok.injEq, textHolds_iff]
    constructor
    · intro same text
      have named := same (String.ofList text)
      rwa [String.toList_ofList] at named
    · intro same text
      exact same text.toList

/-- The pattern `Num%` matches the texts that start with `Num` and no others. -/
theorem like_substring_startsWith :
    SeeksNeedle .startsWith ∧ ∃ pattern : String,
      ofCondition (substringCondition ⟨none, "name"⟩ .startsWith "Num") =
        [.condition "\"name\" LIKE ?" [.string pattern]] ∧
      ∀ text : String, Like pattern.toList text.toList ↔
        Matching.valueHolds .strict .startsWith (.scalar (.string text))
          (some (.single (.string "Num"))) = .ok true := by
  obtain ⟨pattern, lowered, -, same⟩ :=
    like_substring_iff .startsWith .strict ⟨none, "name"⟩ "Num"
  exact ⟨.startsWith, pattern, lowered, same.mpr (by decide)⟩

/-- The filter `name contains 'a_'` is bound as the pattern `%a_%`, which matches `ab`, a text
without the needle. -/
theorem like_underscore :
    Filter.read "name contains 'a_'" =
        .ok [substringCondition ⟨none, "name"⟩ .contains "a_"] ∧
      ofCondition (substringCondition ⟨none, "name"⟩ .contains "a_") =
        [.condition "\"name\" LIKE ?" [.string "%a_%"]] ∧
      Like "%a_%".toList "ab".toList ∧
      Matching.valueHolds .strict .contains (.scalar (.string "ab"))
        (some (.single (.string "a_"))) = .ok false := by
  refine ⟨rfl, rfl, ?_, rfl⟩
  have underscore : Like ['_', '%'] ['b'] := .anyOne 'b' (like_percent [])
  exact .anyRun [] (.itself (by decide) (by decide) underscore)

end Sql

end RecordQuery
