import RecordQuery.Error
import RecordQuery.Text.Blank
import RecordQuery.Text.WordChar

/-!
Filters: texts in which clauses `[table.]column operator operand` are found. Reading goes from
left to right and takes the first piece that has the form of a clause, then the next one after
it; whatever lies between pieces only separates them.
-/

namespace RecordQuery.Filter

/-- An operand as it is written: between quotes, between parentheses, or a number. -/
inductive RawOperand where
  | quoted (body : List Char)
  | list (body : List Char)
  | number (digits : List Char)
  deriving DecidableEq, Repr

/-- What follows the reference in a piece. -/
inductive Predicate where
  | nullCheck (op : Operator)
  | comparison (word : List Char) (operand : RawOperand)
  deriving DecidableEq, Repr

/-- A piece of text that has the form of a clause. -/
structure Piece where
  target : Reference
  predicate : Predicate
  text : List Char
  deriving DecidableEq, Repr

def isNameStart (c : Char) : Bool :=
  c.isAlpha || c == '_'

def isNameRest (c : Char) : Bool :=
  c.isAlphanum || c == '_'

/-- A name at the start of the text, and what follows it. -/
def name? : List Char → Option (List Char × List Char)
  | [] => none
  | c :: cs =>
    if isNameStart c then some (c :: cs.takeWhile isNameRest, cs.dropWhile isNameRest) else none

/-- What follows a dot and the name after it. -/
def dottedName? : List Char → Option (List Char × List Char)
  | '.' :: cs => name? cs
  | _ => none

/-- A name, or two names with a dot between them. -/
def reference? (cs : List Char) : Option (Reference × List Char) :=
  (name? cs).map fun (first, rest) =>
    match dottedName? rest with
    | some (second, rest) => (⟨some (String.ofList first), String.ofList second⟩, rest)
    | none => (⟨none, String.ofList first⟩, rest)

/-- What follows at least one blank. -/
def afterBlanks? : List Char → Option (List Char)
  | [] => none
  | c :: cs => if Text.isBlank c then some (cs.dropWhile Text.isBlank) else none

/-- What follows a word, if the word ends there. -/
def afterWord? (word cs : List Char) : Option (List Char) :=
  if word.isPrefixOf cs && Text.atWordEnd (cs.drop word.length) then some (cs.drop word.length)
  else none

/-- One of the words for null checks, ending at a word boundary. -/
def nullCheck? (cs : List Char) : Option (Operator × List Char) :=
  match afterWord? Operator.isNull.token.toList cs with
  | some rest => some (.isNull, rest)
  | none => (afterWord? Operator.isNotNull.token.toList cs).map fun rest => (.isNotNull, rest)

/-- The text up to a closing character, and what follows that character. -/
def upTo? (closing : Char) (cs : List Char) : Option (List Char × List Char) :=
  match cs.dropWhile (· != closing) with
  | [] => none
  | _ :: rest => some (cs.takeWhile (· != closing), rest)

/-- Digits with at most one point among them, digits on both sides of it. -/
def digits? (cs : List Char) : Option (List Char × List Char) :=
  let whole := cs.takeWhile Text.isDecimalDigit
  let rest := cs.dropWhile Text.isDecimalDigit
  if whole.isEmpty then none
  else
    match rest with
    | '.' :: after =>
      let fraction := after.takeWhile Text.isDecimalDigit
      if fraction.isEmpty then some (whole, rest)
      else some (whole ++ '.' :: fraction, after.dropWhile Text.isDecimalDigit)
    | _ => some (whole, rest)

/-- An operand at the start of the text, and what follows it. -/
def operand? : List Char → Option (RawOperand × List Char)
  | '\'' :: cs => (upTo? '\'' cs).map fun (body, rest) => (.quoted body, rest)
  | '(' :: cs => (upTo? ')' cs).map fun (body, rest) => (.list body, rest)
  | '-' :: cs => (digits? cs).map fun (digits, rest) => (.number ('-' :: digits), rest)
  | cs => (digits? cs).map fun (digits, rest) => (.number digits, rest)

/-- A word of ASCII letters and an operand. -/
def comparison? (cs : List Char) : Option (Predicate × List Char) :=
  let word := cs.takeWhile Char.isAlpha
  if word.isEmpty then none
  else
    (operand? ((cs.dropWhile Char.isAlpha).dropWhile Text.isBlank)).map fun (operand, rest) =>
      (.comparison word operand, rest)

/-- What may follow the reference and its blanks. A null check is preferred. -/
def predicate? (cs : List Char) : Option (Predicate × List Char) :=
  match nullCheck? cs with
  | some (op, rest) => some (.nullCheck op, rest)
  | none => comparison? cs

/-- The piece at the start of the text. -/
def piece? (cs : List Char) : Option Piece := do
  let (target, afterTarget) ← reference? cs
  let (predicate, rest) ← predicate? (← afterBlanks? afterTarget)
  some ⟨target, predicate, cs.take (cs.length - rest.length)⟩

/-- The pieces of a text after its first `skip` characters, which belong to an earlier piece. -/
def piecesAfter : (skip : Nat) → List Char → List Piece
  | _, [] => []
  | skip + 1, _ :: cs => piecesAfter skip cs
  | 0, c :: cs =>
    match piece? (c :: cs) with
    | some piece => piece :: piecesAfter (piece.text.length - 1) cs
    | none => piecesAfter 0 cs

/-- The pieces of a text from left to right. -/
def pieces (cs : List Char) : List Piece :=
  piecesAfter 0 cs

/-- The text between two quotes. -/
def unquoted? : List Char → Option (List Char)
  | '\'' :: cs => Text.stripSuffix? ['\''] cs
  | _ => none

/-- A number in ASCII digits. With a point it is a float, else the signed number is preferred
to the unsigned one. -/
def number? (cs : List Char) : Option Scalar :=
  let body := match cs with
    | '-' :: rest => rest
    | _ => cs
  if cs.isEmpty || !body.all fun c => c.isDigit || c == '.' then none
  else if cs.contains '.' then (Binary64.read? cs).map .float
  else
    match readInt64? cs with
    | some n => some (.int n)
    | none => (readUInt64? cs).map .uint

/-- A member of a list: a string between quotes, a number, or a bare string. -/
def member (cs : List Char) : Scalar :=
  match unquoted? cs with
  | some body => .string (String.ofList body)
  | none => (number? cs).getD (.string (String.ofList cs))

/-- The parts of a text between commas that stand outside quotes. -/
def splitOutsideQuotes (insideQuotes : Bool) : List Char → List (List Char)
  | [] => [[]]
  | c :: cs =>
    if c == ',' && !insideQuotes then [] :: splitOutsideQuotes insideQuotes cs
    else
      match splitOutsideQuotes (insideQuotes != (c == '\'')) cs with
      | part :: rest => (c :: part) :: rest
      | [] => [[c]]

/-- The members of a list. Blank ones do not count. -/
def members (body : List Char) : List Scalar :=
  (((splitOutsideQuotes false body).map Text.trimChars).filter fun part => !part.isEmpty).map member

/-- The operand of a comparison, in a piece of the given text. -/
def readOperand (op : Operator) (text : List Char) : RawOperand → Except Error Operand
  | .list body =>
    if op.takesList then .ok (.list (members body))
    else .error (.badFragment .filter (String.ofList text)
      ("a list needs in or notIn, not " ++ op.token))
  | .quoted body => .ok (.single (.string (String.ofList body)))
  | .number digits =>
    match number? digits with
    | some literal => .ok (.single literal)
    | none => .error (.badFragment .filter (String.ofList text)
        (String.ofList digits ++ " is not a number"))

/-- The condition that a piece states. -/
def Piece.condition (piece : Piece) : Except Error Condition :=
  match piece.predicate with
  | .nullCheck op => .ok ⟨piece.target, op, none⟩
  | .comparison word raw =>
    match Operator.ofToken? (String.ofList word) with
    | none => .error (.unknownOperator (String.ofList word))
    | some op =>
      if op.isNullCheck then
        .error (.badFragment .filter (String.ofList piece.text) (op.token ++ " takes no value"))
      else (readOperand op piece.text raw).map (Condition.of piece.target op)

/-- The conditions of a filter in textual order. A blank filter has none; any other text must
hold at least one piece, and each piece must state a condition. -/
def read (s : String) : Except Error (List Condition) :=
  let cs := Text.trimChars s.toList
  if cs.isEmpty then .ok []
  else
    match pieces cs with
    | [] => .error (.badFragment .filter (String.ofList cs) "no clause found")
    | found => found.mapM Piece.condition

end RecordQuery.Filter
