import RecordQuery.Declaration.Problem
import RecordQuery.Declaration.Token

/-!
Attributes: a path, alone or with a list of tokens or a value. The options within an attribute
have the same form.
-/

namespace RecordQuery.Declaration

/-- Words with `::` between them. A rooted path starts with `::` as well. -/
structure Path where
  isRooted : Bool
  words : List Word
  deriving DecidableEq, Repr

namespace Path

/-- The word of a path of one word. -/
def word? : Path → Option Word
  | ⟨false, [w]⟩ => some w
  | _ => none

/-- The path is this word, without the raw mark. -/
def isWord (p : Path) (name : String) : Bool :=
  p.word? == some ⟨name, false⟩

/-- The words at the start of the tokens, whether `::` stands after the last one, and the tokens
that follow. -/
def wordsOf : List Token → List Word × Bool × List Token
  | [] => ([], false, [])
  | .word w :: rest =>
    if w.isSegment then
      match rest with
      | .mark ':' true :: .mark ':' _ :: rest =>
        let (words, isOpen, rest) := wordsOf rest
        (w :: words, words.isEmpty || isOpen, rest)
      | rest => ([w], false, rest)
    else ([], false, .word w :: rest)
  | t :: rest => ([], false, t :: rest)

/-- Why there is no name at the start of the tokens. -/
def noName : List Token → Problem
  | [] => .expected "identifier" true
  | .word w :: _ => .keyword w.name
  | _ :: _ => .expected "identifier" false

/-- The path at the start of the tokens, and the tokens that follow. -/
def read (ts : List Token) : Except Problem (Path × List Token) :=
  let (isRooted, ts) : Bool × List Token := match ts with
    | .mark ':' true :: .mark ':' _ :: rest => (true, rest)
    | ts => (false, ts)
  match wordsOf ts with
  | ([], _, rest) => .error (noName rest)
  | (_, true, rest) => .error (.expected "path segment after `::`" rest.isEmpty)
  | (words, false, rest) => .ok (⟨isRooted, words⟩, rest)

/-- As `read`, where the word `unsafe` is a path too. -/
def readOrUnsafe : List Token → Except Problem (Path × List Token)
  | .word ⟨"unsafe", false⟩ :: rest => .ok (⟨false, [⟨"unsafe", false⟩]⟩, rest)
  | ts => read ts

end Path

/-- What follows the path of an attribute. -/
inductive Argument where
  | absent
  | list (body : List Token)
  /-- What follows an equals sign. It is a string if it is one string literal. -/
  | value (string? : Option String)
  deriving Repr

/-- An attribute, or an option in one. -/
structure Attribute where
  path : Path
  argument : Argument
  deriving Repr

namespace Attribute

/-- The token continues an expression that starts with a literal. -/
def continuesExpression : Token → Bool
  | .mark c _ => "!#$',:;@~".toList.all (· != c)
  | .group d _ => d != .brace
  | .word w => w == ⟨"as", false⟩
  | .literal .. => false

/-- An expression may start with the tokens. -/
def startsExpression : List Token → Bool
  | [] => false
  | .mark ':' true :: .mark ':' _ :: _ => true
  | .mark '.' true :: .mark '.' _ :: _ => true
  | .mark c _ :: _ => "&*!-|<'".toList.contains c
  | _ :: _ => true

/-- The value of an attribute, and the tokens that follow it. -/
def value : List Token → Except Problem (Argument × List Token)
  | .literal _ string? :: [] => .ok (.value string?, [])
  | .literal _ string? :: t :: rest =>
    if continuesExpression t then .ok (.value none, []) else .ok (.value string?, t :: rest)
  | ts =>
    if startsExpression ts then .ok (.value none, [])
    else .error (.expected "an expression" ts.isEmpty)

/-- The attribute at the start of the tokens, and the tokens that follow it. -/
def read (ts : List Token) : Except Problem (Attribute × List Token) := do
  let (path, rest) ← Path.readOrUnsafe ts
  match rest with
  | .group _ body :: rest => return (⟨path, .list body⟩, rest)
  | .mark '=' _ :: rest => do
    let (argument, rest) ← value rest
    return (⟨path, argument⟩, rest)
  | rest => return (⟨path, .absent⟩, rest)

/-- The attributes at the start of the tokens, each in brackets after a hash mark, and the tokens
that follow them. -/
def readAll : List Token → Except Problem (List Attribute × List Token)
  | .mark '#' _ :: .group .bracket body :: rest => do
    let (a, left) ← read body
    unless left.isEmpty do throw (.leftOver (some Delimiter.bracket.closing))
    let (others, rest) ← readAll rest
    return (a :: others, rest)
  | .mark '#' _ :: rest => .error (.expected "square brackets" rest.isEmpty)
  | ts => .ok ([], ts)

end Attribute

end RecordQuery.Declaration
