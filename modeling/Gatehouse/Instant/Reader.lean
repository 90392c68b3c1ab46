import Gatehouse.Instant
import Gatehouse.Text.Blank
import Gatehouse.Text.Numeral

/-!
Instants as texts, in the form `2020-01-31T23:59:59.5+01:00`. There are two readers. `Instant.read`
takes exactly that form and says what is wrong with a text: revision dates are read with it, and
its errors are shown. `Instant.readLoose` takes creation times: fields may be shorter than their
full width, blanks may stand around them, and the offset may be written `UTC`.
-/

set_option autoImplicit false

namespace Gatehouse.Instant

open Gatehouse.Text

/-! ## 1. Errors -/

/-- Why a text is no instant. -/
inductive ReadError
  | tooShort
  | badCharacter
  | outOfRange
  | trailing
  deriving DecidableEq, Repr

/-- The wording of a reading error. -/
def ReadError.message : ReadError → String
  | .tooShort => "premature end of input"
  | .badCharacter => "input contains invalid characters"
  | .outOfRange => "input is out of range"
  | .trailing => "trailing input"

/-- A piece of the text that is read, and the text after it. -/
abbrev Step (α : Type) := Except ReadError (α × List Char)

/-! ## 2. Pieces of the exact form -/

/-- Reads a number of exactly `width` digits onto what is read so far. -/
def digits : (width : Nat) → (acc : Nat) → List Char → Step Nat
  | 0, acc, cs => .ok (acc, cs)
  | _ + 1, _, [] => .error .tooShort
  | width + 1, acc, c :: cs =>
    if c.isDigit then digits width (10 * acc + digitValue c) cs else .error .badCharacter

/-- Reads one of the given characters. -/
def mark (allowed : List Char) : List Char → Step Unit
  | [] => .error .tooShort
  | c :: cs => if allowed.contains c then .ok ((), cs) else .error .badCharacter

/-- Reads a fraction of a second as nanoseconds: at least one digit, those after the ninth being
without effect. -/
def fraction (cs : List Char) : Step Nat :=
  match cs with
  | [] => .error .tooShort
  | c :: _ =>
    if c.isDigit then
      let ds := cs.takeWhile Char.isDigit
      let nine := (ds ++ List.replicate 9 '0').take 9
      .ok (nine.foldl (fun n d => 10 * n + digitValue d) 0, cs.dropWhile Char.isDigit)
    else .error .badCharacter

/-- Reads an optional fraction. -/
def optionalFraction : List Char → Step Nat
  | '.' :: cs => fraction cs
  | cs => .ok (0, cs)

/-- The next two digits of an offset. A single character is too short only when it is a single
byte. -/
def offsetPair : List Char → Step (Nat × Nat)
  | [] => .error .tooShort
  | [c] => .error (if c.utf8Size = 1 then .tooShort else .badCharacter)
  | a :: b :: cs =>
    if a.isDigit && b.isDigit then .ok ((digitValue a, digitValue b), cs)
    else .error .badCharacter

/-- The hours and minutes of an offset, in seconds; `colon` reads what stands between them. -/
def offsetSeconds (colon : List Char → Step Unit) (cs : List Char) :
    Except ReadError (Nat × List Char) := do
  let ((h1, h2), cs) ← offsetPair cs
  let ((), cs) ← colon cs
  let ((m1, m2), cs) ← offsetPair cs
  if m1 ≤ 5 then .ok ((10 * h1 + h2) * 3600 + (10 * m1 + m2) * 60, cs) else .error .outOfRange

/-- Reads an offset from UTC, in seconds: `Z`, or a sign, hours and minutes. The minus sign may
also be the mathematical one. -/
def offset (colon : List Char → Step Unit) : List Char → Step Int
  | [] => .error .tooShort
  | c :: cs =>
    if c = 'Z' || c = 'z' then .ok (0, cs)
    else if c = '+' then (offsetSeconds colon cs).map fun r => (Int.ofNat r.1, r.2)
    else if c = '-' || c = '\u2212' then
      (offsetSeconds colon cs).map fun r => (-Int.ofNat r.1, r.2)
    else .error .badCharacter

/-! ## 3. The exact form -/

/-- The largest offset, 23 hours and 59 minutes. -/
def greatestOffset : Int := 86340

/-- Reads an instant in the exact form. The date is judged before what follows it is read, and so
is the time of day before the offset; the size of the offset is judged last of all. -/
def read (s : String) : Except ReadError Instant := do
  if s.utf8ByteSize < 19 then .error .tooShort
  let (year, cs) ← digits 4 0 s.toList
  let ((), cs) ← mark ['-'] cs
  let (month, cs) ← digits 2 0 cs
  let ((), cs) ← mark ['-'] cs
  let (day, cs) ← digits 2 0 cs
  if !isDate year month day then .error .outOfRange
  let ((), cs) ← mark ['T', 't', ' '] cs
  let (hour, cs) ← digits 2 0 cs
  let ((), cs) ← mark [':'] cs
  let (minute, cs) ← digits 2 0 cs
  let ((), cs) ← mark [':'] cs
  let (second, cs) ← digits 2 0 cs
  let (nano, cs) ← optionalFraction cs
  if 24 ≤ hour || 60 ≤ minute || 60 < second then .error .outOfRange
  let (ahead, cs) ← offset (mark [':']) cs
  if !cs.isEmpty then .error .trailing
  if greatestOffset < ahead || ahead < -greatestOffset then .error .outOfRange
  return ofClock year month day hour minute second nano ahead

/-! ## 4. The loose form -/

/-- Reads up to `width` digits, at least one, after any blanks. -/
def looseDigits (width : Nat) (cs : List Char) : Step Nat :=
  let cs := trimLeft cs
  let ds := (cs.take width).takeWhile Char.isDigit
  if ds.isEmpty then .error .badCharacter
  else .ok (ds.foldl (fun n d => 10 * n + digitValue d) 0, cs.drop ds.length)

/-- Reads a year, of four digits at most unless it has a sign. -/
def looseYear (cs : List Char) : Step Int :=
  match trimLeft cs with
  | '-' :: cs => (signedYear cs).map fun r => (-Int.ofNat r.1, r.2)
  | '+' :: cs => (signedYear cs).map fun r => (Int.ofNat r.1, r.2)
  | cs => (looseDigits 4 cs).map fun r => (Int.ofNat r.1, r.2)
where
  /-- The digits after a sign, which no blank separates from it. -/
  signedYear (cs : List Char) : Step Nat :=
    if trimLeft cs = cs then looseDigits cs.length cs else .error .badCharacter

/-- Reads one of the given characters, after any blanks. -/
def looseMark (allowed : List Char) (cs : List Char) : Step Unit := mark allowed (trimLeft cs)

/-- Reads colons and blanks, or none. -/
def looseColon (cs : List Char) : Step Unit :=
  .ok ((), cs.dropWhile fun c => c == ':' || isBlank c)

/-- Reads an offset from UTC after any blanks; the letters UTC in either case stand for zero. -/
def looseOffset (cs : List Char) : Step Int :=
  let cs := trimLeft cs
  if (cs.take 3).map Char.toUpper = ['U', 'T', 'C'] then .ok (0, cs.drop 3)
  else offset looseColon cs

/-- The first year of the calendar. -/
def firstYear : Int := -262143

/-- The last year of the calendar. -/
def lastYear : Int := 262142

/-- The years of the calendar. -/
def isCalendarYear (year : Int) : Bool := decide (firstYear ≤ year) && decide (year ≤ lastYear)

/-- The instant lies in a year of the calendar on a clock that shows UTC. -/
def isOnCalendar (t : Instant) : Bool :=
  decide (dayNumber firstYear 1 1 * 86400 ≤ t.second) &&
    decide (t.second < dayNumber (lastYear + 1) 1 1 * 86400)

/-- Reads an instant in the loose form. It must lie on the calendar both on the clock that it is
read from and on one that shows UTC. -/
def readLoose (s : String) : Option Instant :=
  let result : Except ReadError Instant := do
    let (year, cs) ← looseYear s.toList
    let ((), cs) ← looseMark ['-'] cs
    let (month, cs) ← looseDigits 2 cs
    let ((), cs) ← looseMark ['-'] cs
    let (day, cs) ← looseDigits 2 cs
    let ((), cs) ← mark ['T', 't', ' '] cs
    let (hour, cs) ← looseDigits 2 cs
    let ((), cs) ← looseMark [':'] cs
    let (minute, cs) ← looseDigits 2 cs
    let ((), cs) ← looseMark [':'] cs
    let (second, cs) ← looseDigits 2 cs
    let (nano, cs) ← optionalFraction cs
    let (ahead, cs) ← looseOffset cs
    if !(trim cs).isEmpty then .error .trailing
    if 24 ≤ hour || 60 ≤ minute || 60 < second then .error .outOfRange
    if !isCalendarYear year || !isDate year month day then .error .outOfRange
    if 86400 ≤ ahead || ahead ≤ -86400 then .error .outOfRange
    return ofClock year month day hour minute second nano ahead
  result.toOption.filter isOnCalendar

end Gatehouse.Instant
