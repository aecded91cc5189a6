import RecordQuery.Declaration.Item

/-!
Reading the source text of items.
-/

namespace RecordQuery.Declaration

/-- The identifier at the start of the tokens, and the tokens that follow. -/
def readName : List Token → Except Problem (Word × List Token)
  | .word w :: rest => if w.isIdentifier then .ok (w, rest) else .error (.keyword w.name)
  | ts => .error (Path.noName ts)

/-- The body of a visibility that is restricted to a part of the program. -/
private def restrictsVisibility : List Token → Bool
  | [.word w] => [(⟨"crate", false⟩ : Word), ⟨"self", false⟩, ⟨"super", false⟩].contains w
  | .word w :: _ :: _ => w == ⟨"in", false⟩
  | _ => false

/-- The tokens after a visibility, if there is one. -/
def afterVisibility : List Token → List Token
  | .word ⟨"pub", false⟩ :: .group .paren body :: rest =>
    if restrictsVisibility body then rest else .group .paren body :: rest
  | .word ⟨"pub", false⟩ :: rest => rest
  | ts => ts

/-- The tokens after the angle bracket that closes `depth + 1` open ones. The head of an arrow is
no bracket. -/
def afterAngles? : (depth : Nat) → List Token → Option (List Token)
  | _, [] => none
  | depth, .mark '-' true :: .mark '>' _ :: rest => afterAngles? depth rest
  | depth, .mark '<' _ :: rest => afterAngles? (depth + 1) rest
  | 0, .mark '>' _ :: rest => some rest
  | depth + 1, .mark '>' _ :: rest => afterAngles? depth rest
  | depth, _ :: rest => afterAngles? depth rest

/-- Whether parameters stand between angle brackets at the start of the tokens, and the tokens
that follow. -/
def readParameters : List Token → Except Problem (Bool × List Token)
  | .mark '<' _ :: .mark '>' _ :: rest => .ok (false, rest)
  | .mark '<' _ :: rest =>
    match afterAngles? 0 rest with
    | some rest => .ok (true, rest)
    | none => .error (.expected "`>`" true)
  | ts => .ok (false, ts)

/-- The parts of tokens between commas that stand outside angle brackets. -/
def splitOutsideAngles : (depth : Nat) → List Token → List (List Token)
  | _, [] => [[]]
  | depth, .mark '-' true :: .mark '>' joint :: rest =>
    match splitOutsideAngles depth rest with
    | part :: parts => (.mark '-' true :: .mark '>' joint :: part) :: parts
    | [] => []
  | 0, .mark ',' _ :: rest => [] :: splitOutsideAngles 0 rest
  | depth, t :: rest =>
    let depth :=
      if t.isMark '<' then depth + 1
      else if t.isMark '>' then depth - 1
      else depth
    match splitOutsideAngles depth rest with
    | part :: parts => (t :: part) :: parts
    | [] => []

/-- What may start a type. -/
private def typeStarts : String :=
  "one of: `for`, parentheses, `fn`, `unsafe`, `extern`, identifier, `::`, `<`, `dyn`, "
    ++ "square brackets, `*`, `&`, `!`, `impl`, `_`, lifetime"

namespace Field

/-- A named field. Its type is whatever follows the colon. -/
def read (ts : List Token) : Except Problem Field := do
  let (attributes, rest) ← Attribute.readAll ts
  let (name, rest) ← match afterVisibility rest with
    | .word ⟨"_", false⟩ :: rest => pure (⟨"_", false⟩, rest)
    | rest => readName rest
  match rest with
  | .mark ':' _ :: [] => throw (.expected typeStarts true)
  | .mark ':' _ :: type => return ⟨attributes, name, type⟩
  | rest => throw (.expected "`:`" rest.isEmpty)

/-- Named fields with commas between them. A comma may stand after the last one. -/
def readParts : List (List Token) → Except Problem (List Field)
  | [] | [[]] => .ok []
  | [part] => do return [← read part]
  | part :: parts => do
    let f ← (read part).mapError Problem.notAtEnd
    return f :: (← readParts parts)

end Field

namespace Item

/-- The token starts a body, or stands in the place of one. -/
private def endsBounds : Token → Bool
  | .group .brace _ => true
  | t => t.isMark ';'

/-- Whether bounds on parameters stand at the start of the tokens, and the tokens that follow. -/
def readBounds : List Token → Bool × List Token
  | .word ⟨"where", false⟩ :: rest => (true, rest.dropWhile fun t => !endsBounds t)
  | ts => (false, ts)

/-- The shape of a struct, and the tokens that follow it. -/
def readStruct : List Token → Except Problem (Shape × List Token)
  | .group .paren _ :: rest =>
    match readBounds rest with
    | (_, .mark ';' _ :: rest) => .ok (.unnamed, rest)
    | (hasBounds, rest) =>
      .error (.expected (if hasBounds then "`;`" else "`where` or `;`") rest.isEmpty)
  | ts =>
    match readBounds ts with
    | (_, .group .brace body :: rest) =>
      (Field.readParts (splitOutsideAngles 0 body)).map fun fields => (.named fields, rest)
    | (_, .mark ';' _ :: rest) => .ok (.unnamed, rest)
    | (hasBounds, rest) =>
      .error (.expected
        (if hasBounds then "curly braces or `;`"
          else "one of: `where`, parentheses, curly braces, `;`") rest.isEmpty)

/-- The body of an item that is no struct, and the tokens that follow it. -/
def readOther (ts : List Token) : Except Problem (Shape × List Token) :=
  match readBounds ts with
  | (_, .group .brace _ :: rest) => .ok (.other, rest)
  | (_, rest) => .error (.expected "curly braces" rest.isEmpty)

/-- The item that the tokens are. -/
def read (ts : List Token) : Except Problem Item := do
  let (_, rest) ← Attribute.readAll ts
  let (readShape, rest) ← match afterVisibility rest with
    | .word ⟨"struct", false⟩ :: rest => pure (readStruct, rest)
    | .word ⟨"enum", false⟩ :: rest => pure (readOther, rest)
    | .word ⟨"union", false⟩ :: rest => pure (readOther, rest)
    | rest => throw (.expected "one of: `struct`, `enum`, `union`" rest.isEmpty)
  let (name, rest) ← readName rest
  let (hasParameters, rest) ← readParameters rest
  let (shape, rest) ← readShape rest
  if rest.isEmpty then return ⟨name, hasParameters, shape⟩ else throw (.leftOver none)

/-- The schema that the source text of an item declares. -/
def schemaOfText (s : String) : Except Problem DeclaredSchema :=
  match Token.readAll? s.toList with
  | none => .error .notTokens
  | some ts => do (← read ts).schema

end Item

end RecordQuery.Declaration
