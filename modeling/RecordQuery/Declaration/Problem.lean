/-!
What is wrong with a declaration, and the message for each cause.
-/

namespace RecordQuery.Declaration

inductive Problem where
  /-- The text has a part that is no token, or a bracket without its counterpart. -/
  | notTokens
  /-- Something else stands in its place, or nothing if the text ends there. -/
  | expected (what : String) (atEnd : Bool)
  | keyword (word : String)
  /-- Tokens are left over, perhaps before a closing bracket. -/
  | leftOver (closing : Option Char)
  /-- An attribute has no options, or they follow an equals sign. -/
  | noOptions (path : String)
  | optionsNotInParentheses (path : String)
  | unknownOption (word : String)
  | optionNotWord
  | optionWithList
  | valueNotForRename
  | renameNotString
  | nameTwice
  | emptyName
  | bothDirections
  | skipNotAlone
  | notStruct
  | fieldsNotNamed
  | generic
  | duplicateColumn (name : String)
  deriving DecidableEq, Repr

/-- The problem of a part of a list that other parts follow: where the part ends the text does
not. -/
def Problem.notAtEnd : Problem → Problem
  | .expected what _ => .expected what false
  | p => p

/-- The message of a problem. -/
def Problem.message : Problem → String
  | .notTokens => "cannot parse string into token stream"
  | .expected what atEnd => (if atEnd then "unexpected end of input, " else "") ++ "expected " ++ what
  | .keyword word => "expected identifier, found keyword `" ++ word ++ "`"
  | .leftOver none => "unexpected token"
  | .leftOver (some c) => "unexpected token, expected `" ++ c.toString ++ "`"
  | .noOptions path =>
    "expected attribute arguments in parentheses: #[" ++ path ++ "(...)]"
  | .optionsNotInParentheses path => "expected parentheses: #[" ++ path ++ "(...)]"
  | .unknownOption word =>
    "unknown column option '" ++ word
      ++ "'. Expected one of: skip, relations, back_relations, rename"
  | .optionNotWord => "expected identifier"
  | .optionWithList => "unexpected nested list"
  | .valueNotForRename => "expected 'rename'"
  | .renameNotString => "rename value must be a string literal"
  | .nameTwice => "column name given twice"
  | .emptyName => "column name must not be empty"
  | .bothDirections => "a column cannot hold both relations and back_relations"
  | .skipNotAlone => "skip cannot be combined with other column options"
  | .notStruct => "Record can only be derived for structs"
  | .fieldsNotNamed => "Record can only be derived for structs with named fields"
  | .generic => "Record cannot be derived for generic structs"
  | .duplicateColumn name => "duplicate column name '" ++ name ++ "'"

end RecordQuery.Declaration
