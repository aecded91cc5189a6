import RecordQuery.Error
import RecordQuery.Text.Blank

/-!
Order-by texts: entries between commas, each a reference and perhaps a direction, separated by
blanks or colons.
-/

namespace RecordQuery.OrderBy

/-- The words of an entry, with blanks for colons and none at the ends. -/
def entryChars (cs : List Char) : List Char :=
  Text.trimChars (cs.map fun c => if c == ':' then ' ' else c)

/-- The sort key of an entry that is not blank. -/
def readEntry (entry : List Char) : Except Error SortKey :=
  let field := entry.takeWhile fun c => !Text.isBlank c
  let word := String.ofList (Text.trimChars (entry.dropWhile fun c => !Text.isBlank c))
  let target := Reference.ofDotted (String.ofList field)
  if word == "" then .ok ⟨target, .unspecified⟩
  else
    match Direction.ofWord? word with
    | some direction => .ok ⟨target, direction⟩
    | none => .error (.badFragment .orderBy (String.ofList entry) ("unknown direction " ++ word))

/-- The entries of a text that are not blank. -/
def entries (cs : List Char) : List (List Char) :=
  ((Text.pieces (· == ',') cs).map entryChars).filter fun entry => !entry.isEmpty

/-- The sort keys of a text in their order. -/
def read (s : String) : Except Error (List SortKey) :=
  (entries s.toList).mapM readEntry

end RecordQuery.OrderBy
