/-!
Tokens of the source text of declarations. Brackets come in pairs, so what they enclose is one
token, and a reader of declarations never meets a bracket without its counterpart.
-/

namespace RecordQuery.Declaration

inductive Delimiter where
  | paren | bracket | brace
  deriving DecidableEq, Repr

def Delimiter.opening : Delimiter → Char
  | .paren => '('
  | .bracket => '['
  | .brace => '\x7b'

def Delimiter.closing : Delimiter → Char
  | .paren => ')'
  | .bracket => ']'
  | .brace => '\x7d'

/-- An identifier or a keyword. The raw mark `r#` makes any word an identifier. -/
structure Word where
  name : String
  isRaw : Bool := false
  deriving DecidableEq, Repr

namespace Word

/-- The word as it is written. -/
def text (w : Word) : String :=
  if w.isRaw then "r#" ++ w.name else w.name

/-- The words that are reserved. -/
def keywords : List String :=
  ["_", "abstract", "as", "async", "await", "become", "box", "break", "const", "continue",
    "crate", "do", "dyn", "else", "enum", "extern", "false", "final", "fn", "for", "if", "impl",
    "in", "let", "loop", "macro", "match", "mod", "move", "mut", "override", "priv", "pub", "ref",
    "return", "Self", "self", "static", "struct", "super", "trait", "true", "try", "type",
    "typeof", "unsafe", "unsized", "use", "virtual", "where", "while", "yield"]

/-- The word may name something. -/
def isIdentifier (w : Word) : Bool :=
  w.isRaw || !keywords.contains w.name

/-- The word may be part of a path. -/
def isSegment (w : Word) : Bool :=
  w.isIdentifier || ["super", "self", "Self", "crate"].contains w.name

end Word

/-- A token. -/
inductive Token where
  | word (w : Word)
  /-- One mark of punctuation, and whether another one follows it at once. -/
  | mark (c : Char) (isJoint : Bool)
  /-- A literal as it is written, and its value if it is a string of text. -/
  | literal (text : String) (string? : Option String)
  | group (d : Delimiter) (body : List Token)
  deriving Repr

namespace Token

def isMark (c : Char) : Token → Bool
  | .mark d _ => d == c
  | _ => false

mutual

/-- The token as it is written, without any space. -/
def chars : Token → List Char
  | .word w => w.text.toList
  | .mark c _ => [c]
  | .literal text _ => text.toList.filter (· != ' ')
  | .group d body => d.opening :: (charsOfAll body ++ [d.closing])

/-- Tokens one after the other. -/
def charsOfAll : List Token → List Char
  | [] => []
  | t :: rest => chars t ++ charsOfAll rest

end

/-- The text of tokens without any space. -/
def compactText (ts : List Token) : String :=
  String.ofList (charsOfAll ts)

end Token

end RecordQuery.Declaration
