import RecordQuery.Declaration.Token
import RecordQuery.Text.Blank
import RecordQuery.Text.Hex
import RecordQuery.Text.Identifier

/-!
Reading source text into tokens. Blanks and comments separate tokens and leave no trace, except
that a documentation comment stands for a `doc` attribute.
-/

namespace RecordQuery.Declaration

/-- A token without parts, or one side of a group. -/
inductive Lexeme where
  | leaf (t : Token)
  | opening (d : Delimiter)
  | closing (d : Delimiter)
  deriving Repr

namespace Lexeme

/-- Left-to-right and right-to-left marks separate tokens as blanks do. -/
def isSpace (c : Char) : Bool :=
  Text.isBlank c || c == '\u200E' || c == '\u200F'

/-- A word at the start of the text. -/
def identifier? : List Char → Option (List Char × List Char)
  | [] => none
  | c :: cs =>
    if c == '_' || Text.isIdentStart c then
      some (c :: cs.takeWhile Text.isIdentRest, cs.dropWhile Text.isIdentRest)
    else none

/-- What follows the suffix of a literal. It may be empty. -/
private def afterSuffix (cs : List Char) : List Char :=
  match identifier? cs with
  | some (_, rest) => rest
  | none => cs

/-- The character that one to six hexadecimal digits name. Underscores may follow the first. -/
private def codePoint? (body : List Char) : Option Char :=
  let digits := body.filter (· != '_')
  if body.head? == some '_' || digits.isEmpty || 6 < digits.length then none
  else
    match digits.mapM Text.hexValue? with
    | none => none
    | some ds =>
      let n := ds.foldl (fun n d => 16 * n + d) 0
      if n.isValidChar then some (Char.ofNat n) else none

/-- The character that an escape stands for, and the length of the escape after its backslash. An
escaped end of line stands for no character. Escapes of two digits are below the limit. -/
private def escape? (limit : Nat) : List Char → Option (Option Char × Nat)
  | 'n' :: _ => some (some '\n', 1)
  | 'r' :: _ => some (some '\r', 1)
  | 't' :: _ => some (some '\t', 1)
  | '0' :: _ => some (some '\x00', 1)
  | '\\' :: _ => some (some '\\', 1)
  | '\'' :: _ => some (some '\'', 1)
  | '"' :: _ => some (some '"', 1)
  | '\n' :: _ | '\r' :: _ => some (none, 0)
  | 'x' :: a :: b :: _ =>
    match Text.hexValue? a, Text.hexValue? b with
    | some a, some b =>
      if 16 * a + b < limit then some (some (Char.ofNat (16 * a + b)), 3) else none
    | _, _ => none
  | 'u' :: '\x7b' :: cs =>
    let body := cs.takeWhile (· != '\x7d')
    if body.length = cs.length then none
    else (codePoint? body).map fun c => (some c, body.length + 3)
  | _ => none

/-- The value of a string after its opening quote, and what follows its closing quote. The first
`skip` characters belong to an escape, and after an escaped end of line blanks are dropped. A
carriage return only stands before a line feed, and counts as nothing. -/
private def stringBody? (limit : Nat) : (skip : Nat) → (dropsBlanks : Bool) → List Char →
    Option (List Char × List Char)
  | _, _, [] => none
  | skip + 1, dropsBlanks, _ :: cs => stringBody? limit skip dropsBlanks cs
  | 0, dropsBlanks, c :: cs =>
    if c == '"' then some ([], cs)
    else if c == '\r' then
      if cs.head? == some '\n' then stringBody? limit 0 dropsBlanks cs else none
    else if c == '\\' then
      match escape? limit cs with
      | some (escaped, length) =>
        (stringBody? limit length escaped.isNone cs).map fun (value, rest) =>
          (escaped.toList ++ value, rest)
      | none => none
    else if dropsBlanks && Text.isBlank c then stringBody? limit 0 true cs
    else (stringBody? limit 0 false cs).map fun (value, rest) => (c :: value, rest)

/-- The value of a raw string after its opening quote, and what follows its closing quote and as
many hash marks as stand before the opening one. -/
private def rawBody? (hashes : List Char) : List Char → Option (List Char × List Char)
  | [] => none
  | c :: cs =>
    if c == '"' && hashes.isPrefixOf cs then some ([], cs.drop hashes.length)
    else if c == '\r' && cs.head? != some '\n' then none
    else (rawBody? hashes cs).map fun (value, rest) => (c :: value, rest)

/-- A raw string after the letter in front of it. -/
private def rawString? (cs : List Char) : Option (List Char × List Char) :=
  match cs.dropWhile (· == '#') with
  | '"' :: rest => rawBody? (cs.takeWhile (· == '#')) rest
  | _ => none

/-- What follows a character between single quotes, after the opening one. -/
private def afterCharacter? : List Char → Option (List Char)
  | [] => none
  | c :: cs =>
    let rest :=
      if c == '\\' then
        match escape? 0x80 cs with
        | some (some _, length) => cs.drop length
        | _ => []
      else cs
    match rest with
    | '\'' :: rest => some rest
    | _ => none

/-- What follows the digits, the fraction, the exponent and the suffix of a number. -/
private def afterNumber (cs : List Char) : List Char :=
  let afterSign (run rest : List Char) : List Char :=
    match run.getLast?, rest with
    | some e, sign :: d :: more =>
      if (e == 'e' || e == 'E') && (sign == '+' || sign == '-') && d.isDigit
          && !"0x".toList.isPrefixOf cs then
        more.dropWhile Text.isIdentRest
      else rest
    | _, _ => rest
  let run := cs.takeWhile Text.isIdentRest
  match cs.dropWhile Text.isIdentRest with
  | '.' :: rest =>
    match rest with
    | [] => []
    | c :: _ =>
      if c.isDigit then
        afterSign (rest.takeWhile Text.isIdentRest) (rest.dropWhile Text.isIdentRest)
      else if c == '.' || c == '_' || Text.isIdentStart c then '.' :: rest
      else rest
  | rest => afterSign run rest

/-- The end of a literal, with its value if it is a string of text. -/
private def literalEnd? : List Char → Option (Option String × List Char)
  | '"' :: cs => (stringBody? 0x80 0 false cs).map fun (value, rest) =>
      (some (String.ofList value), afterSuffix rest)
  | 'b' :: '"' :: cs | 'c' :: '"' :: cs =>
    (stringBody? 0x100 0 false cs).map fun (_, rest) => (none, afterSuffix rest)
  | 'b' :: '\'' :: cs => (afterCharacter? cs).map fun rest => (none, afterSuffix rest)
  | '\'' :: cs => (afterCharacter? cs).map fun rest => (none, afterSuffix rest)
  | 'r' :: cs => (rawString? cs).map fun (value, rest) =>
      (some (String.ofList value), afterSuffix rest)
  | 'b' :: 'r' :: cs | 'c' :: 'r' :: cs =>
    (rawString? cs).map fun (_, rest) => (none, afterSuffix rest)
  | c :: cs => if c.isDigit then some (none, afterNumber (c :: cs)) else none
  | [] => none

private def literal? (cs : List Char) : Option (Lexeme × List Char) :=
  (literalEnd? cs).map fun (value, rest) =>
    (.leaf (.literal (String.ofList (cs.take (cs.length - rest.length))) value), rest)

/-- A word, perhaps with the raw mark. -/
private def word? : List Char → Option (Lexeme × List Char)
  | 'r' :: '#' :: cs =>
    match identifier? cs with
    | some (name, rest) =>
      if ["_", "super", "self", "Self", "crate"].contains (String.ofList name) then none
      else some (.leaf (.word ⟨String.ofList name, true⟩), rest)
    | none => none
  | cs => (identifier? cs).map fun (name, rest) =>
      (.leaf (.word ⟨String.ofList name, false⟩), rest)

/-- A mark of punctuation stands at the start of the text. The slash of a comment is none. -/
def startsWithMark : List Char → Bool
  | '/' :: '/' :: _ | '/' :: '*' :: _ => false
  | c :: _ => "~!@#$%^&*-=+|;:,<.>/?'".toList.contains c
  | [] => false

/-- A mark. A single quote starts a lifetime, so a word follows it, and no quote that word. -/
private def mark? : List Char → Option (Lexeme × List Char)
  | '\'' :: cs =>
    match word? cs with
    | some (_, '\'' :: _) | none => none
    | some _ => some (.leaf (.mark '\'' true), cs)
  | c :: cs =>
    if startsWithMark (c :: cs) then some (.leaf (.mark c (startsWithMark cs)), cs) else none
  | [] => none

private def bracket? : Char → Option Lexeme
  | '(' => some (.opening .paren)
  | '[' => some (.opening .bracket)
  | '\x7b' => some (.opening .brace)
  | ')' => some (.closing .paren)
  | ']' => some (.closing .bracket)
  | '\x7d' => some (.closing .brace)
  | _ => none

/-- The lexeme at the start of the text. -/
def next? : List Char → Option (Lexeme × List Char)
  | [] => none
  | c :: cs =>
    match bracket? c with
    | some l => some (l, cs)
    | none => literal? (c :: cs) <|> mark? (c :: cs) <|> word? (c :: cs)

/-- The attribute of a documentation comment. That of an inner one has an exclamation mark. -/
private def documentation (isInner : Bool) (text : List Char) : List Lexeme :=
  [leaf (.mark '#' isInner)]
    ++ (if isInner then [leaf (.mark '!' false)] else [])
    ++ [opening .bracket, leaf (.word ⟨"doc", false⟩), leaf (.mark '=' false),
      leaf (.literal "" (some (String.ofList text))), closing .bracket]

/-- The inside of a block comment, after its opening, and what follows its end. Block comments
nest. -/
private def block? : (depth : Nat) → List Char → Option (List Char × List Char)
  | _, [] | _, [_] => none
  | 0, '*' :: '/' :: cs => some ([], cs)
  | depth + 1, '*' :: '/' :: cs =>
    (block? depth cs).map fun (body, rest) => ('*' :: '/' :: body, rest)
  | depth, '/' :: '*' :: cs =>
    (block? (depth + 1) cs).map fun (body, rest) => ('/' :: '*' :: body, rest)
  | depth, c :: cs => (block? depth cs).map fun (body, rest) => (c :: body, rest)

/-- The lexemes that a comment stands for, and what follows the comment. A third slash or a
second star makes a documentation comment, a fourth slash or a third star a plain one again. -/
def comment? : List Char → Option (List Lexeme × List Char)
  | '/' :: '/' :: cs =>
    let line := cs.takeWhile (· != '\n')
    let rest := cs.dropWhile (· != '\n')
    match line with
    | '!' :: text => some (documentation true text, rest)
    | '/' :: '/' :: _ => some ([], rest)
    | '/' :: text => some (documentation false text, rest)
    | _ => some ([], rest)
  | '/' :: '*' :: cs =>
    (block? 0 cs).map fun (body, rest) =>
      match body with
      | '!' :: text => (documentation true text, rest)
      | ['*'] | '*' :: '*' :: _ => ([], rest)
      | '*' :: text => (documentation false text, rest)
      | _ => ([], rest)
  | _ => none

/-- The lexemes of a text after its first `skip` characters, which belong to an earlier one. -/
def readAfter : (skip : Nat) → List Char → Option (List Lexeme)
  | _, [] => some []
  | skip + 1, _ :: cs => readAfter skip cs
  | 0, c :: cs =>
    if isSpace c then readAfter 0 cs
    else
      match comment? (c :: cs) with
      | some (found, rest) => (readAfter (cs.length - rest.length) cs).map (found ++ ·)
      | none =>
        match next? (c :: cs) with
        | some (l, rest) => (readAfter (cs.length - rest.length) cs).map (l :: ·)
        | none => none

/-- Joins the lexemes to tokens. The innermost open group holds `current` so far, in reverse, and
each enclosing one what stands before the group within it. -/
def nest : (current : List Token) → (enclosing : List (Delimiter × List Token)) → List Lexeme →
    Option (List Token)
  | current, [], [] => some current.reverse
  | _, _ :: _, [] => none
  | current, enclosing, .leaf t :: rest => nest (t :: current) enclosing rest
  | current, enclosing, .opening d :: rest => nest [] ((d, current) :: enclosing) rest
  | current, (d', before) :: enclosing, .closing d :: rest =>
    if d = d' then nest (.group d current.reverse :: before) enclosing rest else none
  | _, [], .closing _ :: _ => none

end Lexeme

/-- The tokens of a text, unless a part of it is no token or a bracket has no counterpart. -/
def Token.readAll? (cs : List Char) : Option (List Token) :=
  (Lexeme.readAfter 0 cs).bind (Lexeme.nest [] [])

end RecordQuery.Declaration
