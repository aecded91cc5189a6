import RecordQuery.Text.Printable

/-!
Texts as messages quote them: between double quotes, with a backslash before quotes and
backslashes, and every character that cannot be shown written as its code point.
-/

namespace RecordQuery.Text

/-- The digits of a number in base 16, without leading zeros. -/
def hexNumber (n : Nat) : String :=
  String.ofList (Nat.toDigits 16 n)

/-- The form of one character between double quotes. -/
def quotedChar (c : Char) : String :=
  if c == '\x00' then "\\0"
  else if c == '\t' then "\\t"
  else if c == '\r' then "\\r"
  else if c == '\n' then "\\n"
  else if c == '\\' then "\\\\"
  else if c == '"' then "\\\""
  else if !isCombining c && isPrintable c then c.toString
  else "\\u\x7b" ++ hexNumber c.toNat ++ "\x7d"

/-- The text between double quotes. -/
def quoted (s : String) : String :=
  "\"" ++ String.join (s.toList.map quotedChar) ++ "\""

end RecordQuery.Text
