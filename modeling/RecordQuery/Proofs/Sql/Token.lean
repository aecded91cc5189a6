import Mathlib.Data.List.Basic

/-!
Tokens of SQL fragments: names between double quotes, dots, and words. Inside a name a quote is
written twice. A fragment that is put together from tokens reads back as these tokens exactly if
no name among them has a quote of its own.
-/

namespace RecordQuery.Sql

inductive Token where
  | name (chars : List Char)
  | dot
  | word (chars : List Char)
  deriving DecidableEq, Repr

/-- Where the reading of a fragment stands. After a quote that may end a name the next character
decides: another quote belongs to the name. -/
inductive Scan where
  | between
  | inWord (chars : List Char)
  | inName (chars : List Char)
  | afterQuote (chars : List Char)
  deriving DecidableEq, Repr

namespace Scan

/-- The characters that end a word. -/
def endsWord (c : Char) : Bool :=
  c == '"' || c == '.' || c == ' '

/-- A character where no token is open: the token that it is, and what it opens. -/
def first (c : Char) : List Token × Scan :=
  if c = '"' then ([], .inName [])
  else if c = '.' then ([.dot], .between)
  else if c = ' ' then ([], .between)
  else ([], .inWord [c])

/-- One character: the tokens that it completes, and where the reading stands after it. -/
def step : Scan → Char → List Token × Scan
  | .between, c => first c
  | .inWord w, c =>
    if endsWord c then (.word w :: (first c).1, (first c).2) else ([], .inWord (w ++ [c]))
  | .inName n, c => if c = '"' then ([], .afterQuote n) else ([], .inName (n ++ [c]))
  | .afterQuote n, c =>
    if c = '"' then ([], .inName (n ++ ['"'])) else (.name n :: (first c).1, (first c).2)

/-- The token that is open at the end. A name must be closed. -/
def finish : Scan → Option (List Token)
  | .between => some []
  | .inWord w => some [.word w]
  | .inName _ => none
  | .afterQuote n => some [.name n]

end Scan

open Scan

/-- The tokens of the rest of a fragment. -/
def scan : Scan → List Char → Option (List Token)
  | s, [] => s.finish
  | s, c :: cs => (scan (s.step c).2 cs).map ((s.step c).1 ++ ·)

/-- The tokens of a fragment. -/
def tokens? (fragment : String) : Option (List Token) :=
  scan .between fragment.toList

/-! Reading what was put together. -/

/-- A word is not empty, and no character in it ends it. -/
def IsWord (word : List Char) : Prop :=
  word ≠ [] ∧ ∀ c ∈ word, endsWord c = false

namespace Token

/-- The characters of a token. A name is put between quotes as it is. -/
def chars : Token → List Char
  | .name n => '"' :: (n ++ ['"'])
  | .dot => ['.']
  | .word w => w

def WellFormed : Token → Prop
  | .name _ => True
  | .dot => True
  | .word w => IsWord w

/-- A name has no quote of its own. -/
def QuoteFree : Token → Prop
  | .name n => '"' ∉ n
  | .dot => True
  | .word _ => True

end Token

/-- Tokens with a blank between them, but none beside a dot. -/
def written : List Token → List Char
  | [] => []
  | [t] => t.chars
  | t :: u :: rest =>
    t.chars ++ ((if t = .dot ∨ u = .dot then [] else [' ']) ++ written (u :: rest))

theorem scan_inName {n : List Char} (free : '"' ∉ n) (read rest : List Char) :
    scan (.inName read) (n ++ '"' :: rest) = scan (.afterQuote (read ++ n)) rest := by
  induction n generalizing read with
  | nil => simp [scan, step]
  | cons c n ih =>
    rw [List.mem_cons, not_or] at free
    have notQuote : c ≠ '"' := Ne.symm free.1
    simp [scan, step, notQuote, ih free.2]

theorem scan_inWord {w : List Char} (plain : ∀ c ∈ w, endsWord c = false) (read rest : List Char) :
    scan (.inWord read) (w ++ rest) = scan (.inWord (read ++ w)) rest := by
  induction w generalizing read with
  | nil => simp
  | cons c w ih =>
    rw [List.forall_mem_cons] at plain
    simp [scan, step, plain.1, ih plain.2]

/-- What may follow a token: nothing, a dot or a blank. -/
def Separated : List Char → Prop
  | [] => True
  | c :: _ => c = '.' ∨ c = ' '

/-- A token that is open is read where it ends. -/
theorem scan_of_separated {s : Scan} {t : Token} (finishes : s.finish = some [t])
    (ends : ∀ c, c = '.' ∨ c = ' ' → s.step c = (t :: (first c).1, (first c).2))
    {rest : List Char} (separated : Separated rest) :
    scan s rest = (scan .between rest).map (t :: ·) := by
  cases rest with
  | nil => exact finishes
  | cons c rest =>
    rw [scan, scan, ends c separated, step, Option.map_map]
    rfl

theorem scan_afterQuote {rest : List Char} (separated : Separated rest) (n : List Char) :
    scan (.afterQuote n) rest = (scan .between rest).map (.name n :: ·) := by
  apply scan_of_separated rfl _ separated
  intro c separates
  have notQuote : c ≠ '"' := by rcases separates with rfl | rfl <;> decide
  rw [step, if_neg notQuote]

theorem scan_afterWord {rest : List Char} (separated : Separated rest) (w : List Char) :
    scan (.inWord w) rest = (scan .between rest).map (.word w :: ·) := by
  apply scan_of_separated rfl _ separated
  intro c separates
  have ends : endsWord c = true := by rcases separates with rfl | rfl <;> decide
  rw [step, if_pos ends]

/-- A token is read from its characters, and the rest after it. -/
theorem scan_token {t : Token} (wellFormed : t.WellFormed) (free : t.QuoteFree)
    {rest : List Char} (separated : Separated rest) :
    scan .between (t.chars ++ rest) = (scan .between rest).map (t :: ·) := by
  cases t with
  | name n =>
    have opened : scan .between ('"' :: (n ++ '"' :: rest)) =
        scan (.inName []) (n ++ '"' :: rest) := by
      simp [scan, step, first]
    rw [Token.chars, List.cons_append, List.append_assoc, List.singleton_append, opened,
      scan_inName free, List.nil_append, scan_afterQuote separated]
  | dot => simp [Token.chars, scan, step, first]
  | word w =>
    obtain ⟨notEmpty, plain⟩ := wellFormed
    cases w with
    | nil => exact absurd rfl notEmpty
    | cons c w =>
      rw [List.forall_mem_cons] at plain
      obtain ⟨notQuote, notDot, notBlank⟩ : c ≠ '"' ∧ c ≠ '.' ∧ c ≠ ' ' := by
        simpa [endsWord, not_or, and_assoc] using plain.1
      have opened : scan .between (c :: (w ++ rest)) = scan (.inWord [c]) (w ++ rest) := by
        simp [scan, step, first, notQuote, notDot, notBlank]
      rw [Token.chars, List.cons_append, opened, scan_inWord plain.2, List.singleton_append,
        scan_afterWord separated]

theorem scan_dot (rest : List Char) :
    scan .between ('.' :: rest) = (scan .between rest).map (.dot :: ·) := by
  simp [scan, step, first]

theorem scan_blank (rest : List Char) : scan .between (' ' :: rest) = scan .between rest := by
  simp [scan, step, first]

theorem scan_written {ts : List Token} (wellFormed : ∀ t ∈ ts, t.WellFormed)
    (free : ∀ t ∈ ts, t.QuoteFree) : scan .between (written ts) = some ts := by
  induction ts with
  | nil => rfl
  | cons t ts ih =>
    rw [List.forall_mem_cons] at wellFormed free
    have rest_read := ih wellFormed.2 free.2
    cases ts with
    | nil =>
      have alone : scan .between (t.chars ++ []) = _ := scan_token wellFormed.1 free.1 trivial
      rwa [List.append_nil] at alone
    | cons u rest =>
      rw [written]
      by_cases first_dot : t = .dot
      · -- what follows a dot need not begin with a blank
        subst first_dot
        rw [if_pos (Or.inl rfl), List.nil_append, Token.chars, List.singleton_append, scan_dot,
          rest_read]
        rfl
      · by_cases next_dot : u = .dot
        · have separated : Separated (written (u :: rest)) := by
            subst next_dot
            cases rest <;> exact Or.inl rfl
          rw [if_pos (Or.inr next_dot), List.nil_append, scan_token wellFormed.1 free.1 separated,
            rest_read]
          rfl
        · have separated : Separated (' ' :: written (u :: rest)) := Or.inr rfl
          rw [if_neg (not_or.mpr ⟨first_dot, next_dot⟩), List.singleton_append,
            scan_token wellFormed.1 free.1 separated, scan_blank, rest_read]
          rfl

theorem written_injective {ts us : List Token} (wellFormed : ∀ t ∈ ts, t.WellFormed)
    (free : ∀ t ∈ ts, t.QuoteFree) (wellFormed' : ∀ u ∈ us, u.WellFormed)
    (free' : ∀ u ∈ us, u.QuoteFree) (same : written ts = written us) : ts = us := by
  have read := scan_written wellFormed free
  rw [same, scan_written wellFormed' free'] at read
  exact (Option.some.inj read).symm

/-! Counting quotes. Tokens that were read account for every quote of the text: two around each
name and two for each quote inside it. -/

/-- The quotes of the text that a token was read from. -/
def Token.quotes : Token → Nat
  | .name n => 2 + 2 * n.count '"'
  | .dot => 0
  | .word w => w.count '"'

/-- The quotes read so far of a token that is still open. -/
def Scan.quotes : Scan → Nat
  | .between => 0
  | .inWord w => w.count '"'
  | .inName n => 1 + 2 * n.count '"'
  | .afterQuote n => 2 + 2 * n.count '"'

def quotes : List Token → Nat
  | [] => 0
  | t :: ts => t.quotes + quotes ts

theorem quotes_append (ts us : List Token) : quotes (ts ++ us) = quotes ts + quotes us := by
  induction ts with
  | nil => exact (Nat.zero_add _).symm
  | cons t ts ih => rw [List.cons_append, quotes, quotes, ih, Nat.add_assoc]

theorem first_quotes (c : Char) : quotes (first c).1 + (first c).2.quotes = [c].count '"' := by
  unfold first
  split
  next quote =>
    subst quote
    rfl
  next =>
    split
    next dot =>
      subst dot
      rfl
    next =>
      split
      next blank =>
        subst blank
        rfl
      next => exact Nat.zero_add _

/-- One character adds itself to the quotes that are accounted for. -/
theorem step_quotes (s : Scan) (c : Char) :
    quotes (s.step c).1 + (s.step c).2.quotes = s.quotes + [c].count '"' := by
  have begun := first_quotes c
  cases s with
  | between => rwa [step, Scan.quotes, Nat.zero_add]
  | inWord w =>
    by_cases ends : endsWord c = true
    · rw [step, if_pos ends, quotes, Nat.add_assoc, begun]
      rfl
    · rw [step, if_neg ends, Scan.quotes, Scan.quotes, List.count_append]
      exact Nat.zero_add _
  | inName n =>
    by_cases quote : c = '"'
    · subst quote
      rw [step, if_pos rfl, Scan.quotes, Scan.quotes, List.count_singleton_self]
      exact (Nat.zero_add _).trans (by omega)
    · have none : [c].count '"' = 0 := List.count_eq_zero.mpr (by simpa using Ne.symm quote)
      rw [step, if_neg quote, Scan.quotes, Scan.quotes, List.count_append, none]
      exact Nat.zero_add _
  | afterQuote n =>
    by_cases quote : c = '"'
    · subst quote
      rw [step, if_pos rfl, Scan.quotes, Scan.quotes, List.count_append, List.count_singleton_self]
      exact (Nat.zero_add _).trans (by omega)
    · rw [step, if_neg quote, quotes, Nat.add_assoc, begun]
      rfl

theorem finish_quotes {s : Scan} {ts : List Token} (read : s.finish = some ts) :
    quotes ts = s.quotes := by
  cases s with
  | inName n => cases read
  | between | inWord w | afterQuote n =>
    cases read
    rfl

theorem scan_quotes {s : Scan} {cs : List Char} {ts : List Token} (read : scan s cs = some ts) :
    quotes ts = s.quotes + cs.count '"' := by
  induction cs generalizing s ts with
  | nil => exact finish_quotes read
  | cons c cs ih =>
    obtain ⟨rest, rest_read, rfl⟩ := Option.map_eq_some_iff.mp read
    have stepped := step_quotes s c
    have rest_quotes := ih rest_read
    rw [quotes_append, rest_quotes, ← List.singleton_append, List.count_append]
    omega

/-- The quotes inside the name of a token. -/
def Token.inner : Token → Nat
  | .name n => n.count '"'
  | .dot => 0
  | .word _ => 0

theorem quotes_chars (t : Token) : t.quotes = t.chars.count '"' + t.inner := by
  cases t with
  | name n =>
    rw [Token.quotes, Token.chars, Token.inner, List.count_cons_self, List.count_append,
      List.count_singleton_self]
    omega
  | dot => rfl
  | word w => rfl

/-- The quotes inside names. -/
def innerQuotes : List Token → Nat
  | [] => 0
  | t :: ts => t.inner + innerQuotes ts

theorem quoteFree_of_innerQuotes {ts : List Token} (none : innerQuotes ts = 0) :
    ∀ t ∈ ts, t.QuoteFree := by
  induction ts with
  | nil => exact nofun
  | cons t ts ih =>
    obtain ⟨here, later⟩ := Nat.add_eq_zero_iff.mp none
    refine List.forall_mem_cons.mpr ⟨?_, ih later⟩
    cases t with
    | name n => exact List.count_eq_zero.mp here
    | dot => trivial
    | word w => trivial

/-- What was put together has one quote too few for every quote inside a name. -/
theorem quotes_written (ts : List Token) :
    quotes ts = (written ts).count '"' + innerQuotes ts := by
  induction ts with
  | nil => rfl
  | cons t ts ih =>
    rw [quotes, quotes_chars, innerQuotes, ih]
    cases ts with
    | nil => simp [written, innerQuotes]
    | cons u rest =>
      have blank : (if t = .dot ∨ u = .dot then [] else [' ']).count '"' = 0 := by
        split <;> rfl
      rw [written, List.count_append, List.count_append, blank]
      omega

/-- A text that was put together from tokens reads back as them exactly if no name among them has
a quote. -/
theorem scan_written_iff {ts : List Token} (wellFormed : ∀ t ∈ ts, t.WellFormed) :
    scan .between (written ts) = some ts ↔ ∀ t ∈ ts, t.QuoteFree := by
  refine ⟨fun read => ?_, scan_written wellFormed⟩
  have all : quotes ts = (written ts).count '"' := by
    rw [scan_quotes read, Scan.quotes, Nat.zero_add]
  apply quoteFree_of_innerQuotes
  rw [quotes_written] at all
  omega

end RecordQuery.Sql
