import TimeServer.Text.Decimal
import TimeServer.Time.Calendar

/-! # TOML dates and times

Dates and times, each a run of characters that is read as a whole.

* `isDate` — `YYYY-MM-DD`, a day that exists;
* `isTime` — `HH:MM:SS` with decimals or without, up to the second 60;
* `isZonedTime` — the same, which may be followed by its distance from universal time.
-/

namespace TimeServer.Toml

open TimeServer.Text

def takeNumber? (width : Nat) (cs : List Char) : Option (Nat × List Char) :=
  let digits := cs.take width
  if digits.length = width ∧ digits.all Char.isDigit then
    some (Decimal.value digits, cs.drop width)
  else none

def takeMark? (mark : Char) : List Char → Option (List Char)
  | c :: cs => if c = mark then some cs else none
  | [] => none

def takeDate? (cs : List Char) : Option (List Char) := do
  let (year, cs) ← takeNumber? 4 cs
  let (month, cs) ← takeNumber? 2 (← takeMark? '-' cs)
  let (day, cs) ← takeNumber? 2 (← takeMark? '-' cs)
  if (⟨year, month, day⟩ : Time.Date).Exists then some cs else none

def takeHourMinute? (cs : List Char) : Option (List Char) := do
  let (hour, cs) ← takeNumber? 2 cs
  let (minute, cs) ← takeNumber? 2 (← takeMark? ':' cs)
  if hour < 24 ∧ minute < 60 then some cs else none

def takeTime? (cs : List Char) : Option (List Char) := do
  let cs ← takeHourMinute? cs
  let (second, cs) ← takeNumber? 2 (← takeMark? ':' cs)
  if second ≤ 60 then
    match cs with
    | '.' :: c :: rest => if c.isDigit then some (rest.dropWhile Char.isDigit) else some cs
    | cs => some cs
  else none

/-- Whether a run of characters is a distance from universal time, or empty. -/
def isZone : List Char → Bool
  | [] => true
  | ['Z'] => true
  | ['z'] => true
  | '+' :: cs => takeHourMinute? cs == some []
  | '-' :: cs => takeHourMinute? cs == some []
  | _ => false

def isDate (cs : List Char) : Bool := takeDate? cs == some []

def isTime (cs : List Char) : Bool := takeTime? cs == some []

def isZonedTime (cs : List Char) : Bool :=
  match takeTime? cs with
  | some zone => isZone zone
  | none => false

/-- Whether a run of characters is a date and a time with a letter between them. -/
def isDateTime (cs : List Char) : Bool :=
  match takeDate? cs with
  | some (c :: cs) => (c = 'T' || c = 't') && isZonedTime cs
  | _ => false

end TimeServer.Toml
