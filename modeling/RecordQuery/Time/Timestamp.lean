import RecordQuery.Number.Integer
import RecordQuery.Time.Instant

/-!
Reading of RFC 3339 timestamps: a date of four, two and two digits, a `T` or blank, a time of
day with optional fractions of a second, and an offset from UTC.
-/

namespace RecordQuery.Timestamp

/-- A number of exactly `count` digits, and what follows it. -/
def digits? (count : Nat) (cs : List Char) : Option (Nat × List Char) :=
  let taken := cs.take count
  if taken.length == count && taken.all Char.isDigit then
    some (digitsValue taken, cs.drop count)
  else none

/-- What follows the expected character. -/
def after? (expected : Char) : List Char → Option (List Char)
  | c :: rest => if c == expected then some rest else none
  | [] => none

/-- What follows the mark between date and time of day. -/
def afterDate? : List Char → Option (List Char)
  | 'T' :: rest => some rest
  | 't' :: rest => some rest
  | ' ' :: rest => some rest
  | _ => none

/-- The nanoseconds after an optional point. Digits beyond the ninth are dropped. -/
def fraction? : List Char → Option (Nat × List Char)
  | '.' :: rest =>
    let digits := rest.takeWhile Char.isDigit
    if digits.isEmpty then none
    else
      let kept := digits.take 9
      some (digitsValue kept * Nat.pow 10 (9 - kept.length), rest.dropWhile Char.isDigit)
  | cs => some (0, cs)

def isEastward? : Char → Option Bool
  | '+' => some true
  | '-' => some false
  | '\u2212' => some false
  | _ => none

/-- The seconds by which local time is ahead of UTC. Nothing may follow the offset. -/
def offset? : List Char → Option Int
  | ['Z'] => some 0
  | ['z'] => some 0
  | [] => none
  | sign :: rest => do
    let eastward ← isEastward? sign
    let (hours, rest) ← digits? 2 rest
    let rest ← after? ':' rest
    let (minutes, rest) ← digits? 2 rest
    if hours ≤ 23 && minutes ≤ 59 && rest.isEmpty then
      let seconds : Int := hours * 3600 + minutes * 60
      some (if eastward then seconds else -seconds)
    else none

/-- The instant that a timestamp denotes. Second 60 is a leap second in any minute. -/
def read? (cs : List Char) : Option Instant := do
  let (year, cs) ← digits? 4 cs
  let cs ← after? '-' cs
  let (month, cs) ← digits? 2 cs
  let cs ← after? '-' cs
  let (day, cs) ← digits? 2 cs
  let cs ← afterDate? cs
  let (hour, cs) ← digits? 2 cs
  let cs ← after? ':' cs
  let (minute, cs) ← digits? 2 cs
  let cs ← after? ':' cs
  let (second, cs) ← digits? 2 cs
  let (nanos, cs) ← fraction? cs
  let offset ← offset? cs
  let date : Date := ⟨year, month, day⟩
  if Calendar.isValid date && hour ≤ 23 && minute ≤ 59 && second ≤ 60 then
    let leap := second == 60
    let clock := hour * 3600 + minute * 60 + if leap then 59 else second
    let utc := Instant.ofDate date clock (if leap then 1000000000 + nanos else nanos)
    some { utc with seconds := utc.seconds - offset }
  else none

end RecordQuery.Timestamp
