import RecordQuery.Declaration.Attribute
import RecordQuery.Declaration.Token.Lexer
import RecordQuery.Text.Cut

/-!
The options of a column: whether the field is skipped, another name for its column, and whether
it holds relations. They stand in the first `column` attribute of a field.
-/

namespace RecordQuery.Declaration

/-- One option. A string literal and a renaming both give the name. -/
inductive ColumnOption where
  | skip
  | name (s : String)
  | relations
  | backRelations
  deriving DecidableEq, Repr

structure ColumnOptions where
  skips : Bool := false
  name? : Option String := none
  relations : Bool := false
  backRelations : Bool := false
  deriving DecidableEq, Repr

namespace ColumnOptions

/-- Adds one option. A column has at most one name, which is not empty. -/
def add (options : ColumnOptions) : ColumnOption → Except Problem ColumnOptions
  | .skip => .ok { options with skips := true }
  | .relations => .ok { options with relations := true }
  | .backRelations => .ok { options with backRelations := true }
  | .name s =>
    if options.name?.isSome then .error .nameTwice
    else if s.isEmpty then .error .emptyName
    else .ok { options with name? := some s }

/-- The options, if they may stand together. -/
def check (options : ColumnOptions) : Except Problem ColumnOptions :=
  if options.relations && options.backRelations then .error .bothDirections
  else if options.skips
      && (options.relations || options.backRelations || options.name?.isSome) then
    .error .skipNotAlone
  else .ok options

/-- The options of a list. -/
def ofList (options : List ColumnOption) : Except Problem ColumnOptions := do
  (← options.foldlM add {}).check

end ColumnOptions

namespace ColumnOption

/-- The option that an attribute within the list states. -/
def ofAttribute (a : Attribute) : Except Problem ColumnOption :=
  match a.argument with
  | .absent =>
    match a.path.word? with
    | none => .error .optionNotWord
    | some w =>
      match w.text with
      | "skip" => .ok .skip
      | "relations" => .ok .relations
      | "back_relations" => .ok .backRelations
      | other => .error (.unknownOption other)
  | .list _ => .error .optionWithList
  | .value string? =>
    if a.path.isWord "rename" then
      match string? with
      | some s => .ok (.name s)
      | none => .error .renameNotString
    else .error .valueNotForRename

/-- The option at the start of the tokens, and the tokens that follow it. -/
def readFirst : List Token → Except Problem (ColumnOption × List Token)
  | .literal _ (some s) :: rest => .ok (.name s, rest)
  | ts => do
    let (a, rest) ← Attribute.read ts
    return (← ofAttribute a, rest)

end ColumnOption

namespace ColumnOptions

/-- Adds the option of each part of the list, and checks the options when none is left. An empty
part is only allowed at the end, where it comes from a comma after the last option. -/
def addParts (options : ColumnOptions) : List (List Token) → Except Problem ColumnOptions
  | [] | [[]] => options.check
  | [part] => do
    let (option, rest) ← ColumnOption.readFirst part
    let options ← options.add option
    if rest.isEmpty then options.check else throw (.expected "`,`" false)
  | part :: parts => do
    let (option, rest) ← (ColumnOption.readFirst part).mapError Problem.notAtEnd
    let options ← options.add option
    if rest.isEmpty then options.addParts parts else throw (.expected "`,`" false)

/-- The options that tokens list, with commas between them. -/
def read (ts : List Token) : Except Problem ColumnOptions :=
  addParts {} (Text.pieces (Token.isMark ',') ts)

/-- The options of a field with the given attributes. Without a `column` attribute it has none,
and only the first one counts. -/
def ofAttributes (attributes : List Attribute) : Except Problem ColumnOptions :=
  match attributes.find? fun a => a.path.isWord "column" with
  | none => .ok {}
  | some a =>
    match a.argument with
    | .list body => read body
    | .absent => .error (.noOptions "column")
    | .value _ => .error (.optionsNotInParentheses "column")

/-- The options in the source text of a field's attributes. -/
def ofText (s : String) : Except Problem ColumnOptions :=
  match Token.readAll? s.toList with
  | none => .error .notTokens
  | some ts => do
    let (attributes, rest) ← Attribute.readAll ts
    unless rest.isEmpty do throw (.leftOver none)
    ofAttributes attributes

end ColumnOptions

end RecordQuery.Declaration
