import RecordQuery.Json.Basic
import RecordQuery.Settings

/-!
Settings as JSON documents. Each group of settings is an object with a member for each of them,
or an array that gives them in their order. A setting that is left out keeps its default, and
members that name no setting are passed over.
-/

namespace RecordQuery

namespace Json

/-- The value that the members of an object give to a setting. No setting is given twice. -/
private def setting? (name : String) :
    List (Option String × Syntax) → Option (Option Syntax)
  | [] => some none
  | (none, _) :: _ => none
  | (some given, value) :: rest =>
    match setting? name rest with
    | none => none
    | some later =>
      if given == name then if later.isSome then none else some (some value) else some later

/-- The given ones of the named settings. -/
private def settings? (names : List String) : Syntax → Option (List (Option Syntax))
  | .object members => names.mapM fun name => setting? name members
  | .array items =>
    if names.length < items.length then none
    else some (items.map some ++ List.replicate (names.length - items.length) none)
  | _ => none

/-- The value of a setting, read from what was given for it. -/
private def orDefault {α : Type} (default : α) (read? : Syntax → Option α) :
    Option Syntax → Option α
  | none => some default
  | some given => read? given

/-- One of the words for a choice, also as the only member of an object, with null. -/
private def choice? {α : Type} (words : List (String × α)) : Syntax → Option α
  | .string (some word) => words.lookup word
  | .object [(some word, .null)] => words.lookup word
  | _ => none

private def string? : Syntax → Option String
  | .string s => s
  | _ => none

/-- A count below 2^64, or null for none. -/
private def count? : Syntax → Option (Option Nat)
  | .null => some none
  | .number n =>
    match ofNumeral? n with
    | some (.whole n) => if 0 ≤ n then some (some n.toNat) else none
    | _ => none
  | _ => none

private def countText : Option Nat → String
  | none => "null"
  | some n => toString n

private def objectText (members : List (String × String)) : String :=
  "\x7b" ++ ",".intercalate (members.map fun (name, value) => stringText name ++ ":" ++ value)
    ++ "\x7d"

end Json

open Json

private def semanticsWords : List (String × NullSemantics) :=
  [("strict", .strict), ("zero_value", .zeroValue)]

private def placementWords : List (String × NullPlacement) :=
  [("first", .first), ("last", .last)]

private def semanticsWord : NullSemantics → String
  | .strict => "strict"
  | .zeroValue => "zero_value"

private def placementWord : NullPlacement → String
  | .first => "first"
  | .last => "last"

namespace EvaluationOptions

def ofJson? (text : String) : Option EvaluationOptions := do
  let default : EvaluationOptions := {}
  match ← settings? ["null_semantics", "nulls"] (← Syntax.read? text.toList) with
  | [semantics, nulls] =>
    some ⟨← orDefault default.nullSemantics (choice? semanticsWords) semantics,
      ← orDefault default.nulls (choice? placementWords) nulls⟩
  | _ => none

def toJson (options : EvaluationOptions) : String :=
  objectText [("null_semantics", stringText (semanticsWord options.nullSemantics)),
    ("nulls", stringText (placementWord options.nulls))]

end EvaluationOptions

namespace ParameterNames

def ofJson? (text : String) : Option ParameterNames := do
  let default : ParameterNames := {}
  match ← settings? ["filter", "order_by", "limit", "offset"] (← Syntax.read? text.toList) with
  | [filter, orderBy, limit, offset] =>
    some ⟨← orDefault default.filter string? filter, ← orDefault default.orderBy string? orderBy,
      ← orDefault default.limit string? limit, ← orDefault default.offset string? offset⟩
  | _ => none

def toJson (names : ParameterNames) : String :=
  objectText [("filter", stringText names.filter), ("order_by", stringText names.orderBy),
    ("limit", stringText names.limit), ("offset", stringText names.offset)]

end ParameterNames

namespace DefaultPage

def ofJson? (text : String) : Option DefaultPage := do
  match ← settings? ["limit", "offset"] (← Syntax.read? text.toList) with
  | [limit, offset] => some ⟨← orDefault none count? limit, ← orDefault none count? offset⟩
  | _ => none

def toJson (page : DefaultPage) : String :=
  objectText [("limit", countText page.limit), ("offset", countText page.offset)]

end DefaultPage

end RecordQuery
