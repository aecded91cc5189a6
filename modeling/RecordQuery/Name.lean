import RecordQuery.Text.Capital
import RecordQuery.Text.Cut

/-!
Names of tables and relations. A table carries the plural of a record's name in lower case with
underscores, a loaded relation the name of its record. The canonical form of a name forgets
case, punctuation and a plural ending, so that both lead to the same relation.
-/

namespace RecordQuery.Name

open Text

/-- The letters and digits of a name, in lower case and ASCII only. -/
def plainChars (cs : List Char) : List Char :=
  (cs.flatMap small).filter fun c => c.isLower || c.isDigit

/-- The singular of a regular plural: `ies` becomes `y`, else a final `es` or `s` is dropped. -/
def singularChars (cs : List Char) : List Char :=
  match stripSuffix? ['i', 'e', 's'] cs with
  | some stem => stem ++ ['y']
  | none =>
    match stripSuffix? ['e', 's'] cs with
    | some stem => stem
    | none =>
      match stripSuffix? ['s'] cs with
      | some stem => stem
      | none => cs

/-- The form under which a relation is stored and looked up. -/
def canonical (name : String) : String :=
  String.ofList (singularChars (plainChars name.toList))

/-- Nouns with a plural of their own. -/
def irregularPlurals : List (String × String) :=
  [("man", "men"), ("woman", "women"), ("child", "children"), ("tooth", "teeth"),
   ("foot", "feet"), ("person", "people"), ("mouse", "mice"), ("goose", "geese")]

/-- The stem ends in something other than a vowel. -/
private def endsInConsonant (stem : List Char) : Bool :=
  match stem.getLast? with
  | some c => !(['a', 'e', 'i', 'o', 'u'].contains c)
  | none => false

/-- The plural of a noun that follows the rules of spelling. -/
def regularPluralChars (cs : List Char) : List Char :=
  if [['s'], ['x'], ['z'], ['c', 'h'], ['s', 'h']].any fun ending => ending.isSuffixOf cs then
    cs ++ ['e', 's']
  else
    match stripSuffix? ['y'] cs, stripSuffix? ['f'] cs, stripSuffix? ['f', 'e'] cs with
    | some stem, _, _ => if endsInConsonant stem then stem ++ ['i', 'e', 's'] else cs ++ ['s']
    | none, some stem, _ => stem ++ ['v', 'e', 's']
    | none, none, some stem => stem ++ ['v', 'e', 's']
    | none, none, none => cs ++ ['s']

/-- The plural of a noun. -/
def plural (word : String) : String :=
  match irregularPlurals.find? fun entry => entry.1 == word with
  | some entry => entry.2
  | none => String.ofList (regularPluralChars word.toList)

/-- Every capital in lower case, and an underscore before it unless it comes first. -/
def snakeChars : List Char → List Char
  | [] => []
  | c :: cs => small c ++ cs.flatMap fun d => if isCapital d then '_' :: small d else [d]

/-- The name in lower case, its words joined by underscores. Each capital begins a word. -/
def snakeCase (name : String) : String :=
  String.ofList (snakeChars name.toList)

/-- The table that holds the records of a name. -/
def table (name : String) : String :=
  plural (snakeCase name)

/-- The parts of `table/column` or `table.column`, cut at the first separator. -/
def splitReference (separator : Char) (reference : String) : Option String × String :=
  match cutAtFirst? (· == separator) reference.toList with
  | some (before, after) => (some (String.ofList before), String.ofList after)
  | none => (none, reference)

end RecordQuery.Name
