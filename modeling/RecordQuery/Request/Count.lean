import RecordQuery.Error
import RecordQuery.Text.Blank

/-!
The limit and offset of a request: blank, or one count below 2^64.
-/

namespace RecordQuery.Request

def countFaultText : CountFault → String
  | .invalidDigit => "invalid digit found in string"
  | .tooLarge => "number too large to fit in target type"

/-- The count that a fragment gives, none if it is blank. A minus sign is refused whatever
follows it. -/
def readCount (fragment : Fragment) (s : String) : Except Error (Option Nat) :=
  let cs := Text.trimChars s.toList
  let refuse (reason : String) := Error.badFragment fragment (String.ofList cs) reason
  match cs with
  | [] => .ok none
  | '-' :: _ => .error (refuse "must not be negative")
  | cs =>
    match RecordQuery.readCount cs with
    | .ok n => .ok (some n)
    | .error fault => .error (refuse (countFaultText fault))

def readLimit (s : String) : Except Error (Option Nat) :=
  readCount .limit s

def readOffset (s : String) : Except Error (Option Nat) :=
  readCount .offset s

end RecordQuery.Request
