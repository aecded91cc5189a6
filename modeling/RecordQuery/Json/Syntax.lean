import RecordQuery.Text.Hex

/-!
The syntax of JSON texts. Reading keeps what is written: numbers as their digits, the members of
an object in their order and with their repetitions.
-/

namespace RecordQuery.Json

/-- A number as it is written. A part that is absent is `none`. -/
structure Numeral where
  isNegative : Bool
  whole : List Char
  fraction : Option (List Char)
  /-- The sign of the exponent and its digits. -/
  exponent : Option (Bool × List Char)
  deriving DecidableEq, Repr

/-- A JSON text. A string is `none` if it names half of a surrogate pair, which stands for no
character. -/
inductive Syntax where
  | null
  | bool (b : Bool)
  | number (n : Numeral)
  | string (s : Option String)
  | array (items : List Syntax)
  | object (members : List (Option String × Syntax))
  deriving Repr

namespace Syntax

def isBlank (c : Char) : Bool :=
  c == ' ' || c == '\n' || c == '\t' || c == '\r'

def skipBlanks (cs : List Char) : List Char :=
  cs.dropWhile isBlank

/-- What follows a word. -/
private def afterWord? (word : String) (cs : List Char) : Option (List Char) :=
  if word.toList.isPrefixOf cs then some (cs.drop word.length) else none

private def fraction? : List Char → Option (Option (List Char) × List Char)
  | '.' :: cs =>
    let digits := cs.takeWhile Char.isDigit
    if digits.isEmpty then none else some (some digits, cs.dropWhile Char.isDigit)
  | cs => some (none, cs)

private def exponentDigits? (isNegative : Bool) (cs : List Char) :
    Option (Option (Bool × List Char) × List Char) :=
  let digits := cs.takeWhile Char.isDigit
  if digits.isEmpty then none
  else some (some (isNegative, digits), cs.dropWhile Char.isDigit)

private def exponent? : List Char → Option (Option (Bool × List Char) × List Char)
  | c :: cs =>
    if c == 'e' || c == 'E' then
      match cs with
      | '-' :: rest => exponentDigits? true rest
      | '+' :: rest => exponentDigits? false rest
      | _ => exponentDigits? false cs
    else some (none, c :: cs)
  | [] => some (none, [])

/-- A number without its sign. A leading zero stands alone. -/
private def unsigned? (isNegative : Bool) (cs : List Char) : Option (Numeral × List Char) := do
  let whole := match cs with
    | '0' :: _ => ['0']
    | _ => cs.takeWhile Char.isDigit
  if whole.isEmpty then none
  else
    let (fraction, rest) ← fraction? (cs.drop whole.length)
    let (exponent, rest) ← exponent? rest
    some (⟨isNegative, whole, fraction, exponent⟩, rest)

private def numeral? : List Char → Option (Numeral × List Char)
  | '-' :: cs => unsigned? true cs
  | cs => unsigned? false cs

/-- Four hexadecimal digits. -/
private def unit? : List Char → Option (Nat × List Char)
  | a :: b :: c :: d :: rest => do
    let a ← Text.hexValue? a
    let b ← Text.hexValue? b
    let c ← Text.hexValue? c
    let d ← Text.hexValue? d
    some (((a * 16 + b) * 16 + c) * 16 + d, rest)
  | _ => none

/-- The character of an escape of one letter. -/
private def escaped? : Char → Option Char
  | '"' => some '"'
  | '\\' => some '\\'
  | '/' => some '/'
  | 'b' => some '\x08'
  | 'f' => some '\x0C'
  | 'n' => some '\n'
  | 'r' => some '\r'
  | 't' => some '\t'
  | _ => none

/-- The character of a code unit and, for the first half of a pair, of the unit after it. The
outer option is malformed syntax, the inner one half of a pair. -/
private def character? (cs : List Char) : Option (Option Char × List Char) := do
  let (first, rest) ← unit? cs
  if first < 0xD800 || 0xE000 ≤ first then some (some (Char.ofNat first), rest)
  else if 0xDC00 ≤ first then some (none, rest)
  else
    match rest with
    | '\\' :: 'u' :: after =>
      match unit? after with
      | none => none
      | some (second, afterSecond) =>
        if 0xDC00 ≤ second && second < 0xE000 then
          some (some (Char.ofNat (0x10000 + (first - 0xD800) * 0x400 + (second - 0xDC00))),
            afterSecond)
        else some (none, rest)
    | _ => some (none, rest)

/-- The rest of a string after its opening quote. The characters read so far are in reverse. -/
private def stringBody? : Nat → Option (List Char) → List Char →
    Option (Option String × List Char)
  | 0, _, _ => none
  | _, _, [] => none
  | fuel + 1, read, c :: cs =>
    if c == '"' then some (read.map fun read => String.ofList read.reverse, cs)
    else if c == '\\' then
      match cs with
      | 'u' :: rest => do
        let (decoded, rest) ← character? rest
        stringBody? fuel (do some ((← decoded) :: (← read))) rest
      | letter :: rest => do
        let decoded ← escaped? letter
        stringBody? fuel (read.map (decoded :: ·)) rest
      | [] => none
    else if c.toNat < 0x20 then none
    else stringBody? fuel (read.map (c :: ·)) cs

mutual

private def value? : Nat → List Char → Option (Syntax × List Char)
  | 0, _ => none
  | fuel + 1, cs =>
    match skipBlanks cs with
    | [] => none
    | '"' :: rest => (stringBody? rest.length (some []) rest).map fun (s, rest) => (.string s, rest)
    | '[' :: rest =>
      match skipBlanks rest with
      | ']' :: rest => some (.array [], rest)
      | _ => (items? fuel rest).map fun (items, rest) => (.array items, rest)
    | '\x7b' :: rest =>
      match skipBlanks rest with
      | '\x7d' :: rest => some (.object [], rest)
      | _ => (members? fuel rest).map fun (members, rest) => (.object members, rest)
    | 'n' :: rest => (afterWord? "ull" rest).map fun rest => (.null, rest)
    | 't' :: rest => (afterWord? "rue" rest).map fun rest => (.bool true, rest)
    | 'f' :: rest => (afterWord? "alse" rest).map fun rest => (.bool false, rest)
    | cs => (numeral? cs).map fun (n, rest) => (.number n, rest)

/-- At least one item, up to the closing bracket. -/
private def items? : Nat → List Char → Option (List Syntax × List Char)
  | 0, _ => none
  | fuel + 1, cs => do
    let (item, rest) ← value? fuel cs
    match skipBlanks rest with
    | ',' :: rest => (items? fuel rest).map fun (items, rest) => (item :: items, rest)
    | ']' :: rest => some ([item], rest)
    | _ => none

/-- At least one member, up to the closing brace. -/
private def members? : Nat → List Char → Option (List (Option String × Syntax) × List Char)
  | 0, _ => none
  | fuel + 1, cs =>
    match skipBlanks cs with
    | '"' :: rest => do
      let (name, rest) ← stringBody? rest.length (some []) rest
      match skipBlanks rest with
      | ':' :: rest => do
        let (value, rest) ← value? fuel rest
        match skipBlanks rest with
        | ',' :: rest =>
          (members? fuel rest).map fun (members, rest) => ((name, value) :: members, rest)
        | '\x7d' :: rest => some ([(name, value)], rest)
        | _ => none
      | _ => none
    | _ => none

end

/-- Reads a whole text. -/
def read? (cs : List Char) : Option Syntax :=
  match value? (2 * cs.length + 2) cs with
  | some (value, rest) => if (skipBlanks rest).isEmpty then some value else none
  | none => none

end Syntax

end RecordQuery.Json
