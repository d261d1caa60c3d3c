import TimeServer.Text.Decimal
import TimeServer.Text.Blank
import TimeServer.Time.Calendar

/-! # The text of a timestamp

Timestamps are written as `YYYY-MM-DD hh:mm:ss UTC`.

* `Instant.text`, `format` — writing;
* `readInstant`, `parse` — reading, which is more liberal: numbers need no leading zeros, may have
  white space in front, the year may have a sign and then any number of digits, the blank between
  date and time may be any white space or none, and the zone may be missing.
-/

namespace TimeServer.Time

open TimeServer.Text

def zone : List Char := [' ', 'U', 'T', 'C']

def Date.text (d : Date) : List Char :=
  Decimal.padded 4 d.year.toNat ++ '-' :: Decimal.padded 2 d.month ++
    '-' :: Decimal.padded 2 d.day

def TimeOfDay.text (t : TimeOfDay) : List Char :=
  Decimal.padded 2 t.hour ++ ':' :: Decimal.padded 2 t.minute ++ ':' :: Decimal.padded 2 t.second

def Instant.text (i : Instant) : List Char := i.date.text ++ ' ' :: i.time.text

def format (timestamp : UInt32) : String :=
  ((Instant.ofUnixSeconds? timestamp.toNat).map fun i => String.ofList (i.text ++ zone)).getD
    "Invalid timestamp"

/-! ## Reading -/

def expect (c : Char) : List Char → Option (List Char)
  | [] => none
  | d :: cs => if d = c then some cs else none

def readNumber (limit : Nat) (cs : List Char) : Option (Nat × List Char) :=
  match Decimal.takeDigits limit cs with
  | ([], _) => none
  | (ds, rest) => some (Decimal.value ds, rest)

/-- Reads a number of one or two digits with any white space in front. -/
def readField (cs : List Char) : Option (Nat × List Char) := readNumber 2 (trimStart cs)

/-- Reads a year with any white space in front: up to four digits, or a sign and any number of
    digits. -/
def readYear (cs : List Char) : Option (Int × List Char) :=
  match trimStart cs with
  | '-' :: rest => (readNumber rest.length rest).map fun (n, rest) => (-(n : Int), rest)
  | '+' :: rest => (readNumber rest.length rest).map fun (n, rest) => ((n : Int), rest)
  | rest => (readNumber 4 rest).map fun (n, rest) => ((n : Int), rest)

def readDate (cs : List Char) : Option (Date × List Char) := do
  let (year, cs) ← readYear cs
  let (month, cs) ← readField (← expect '-' cs)
  let (day, cs) ← readField (← expect '-' cs)
  return (⟨year, month, day⟩, cs)

def readTimeOfDay (cs : List Char) : Option (TimeOfDay × List Char) := do
  let (hour, cs) ← readField cs
  let (minute, cs) ← readField (← expect ':' cs)
  let (second, cs) ← readField (← expect ':' cs)
  return (⟨hour, minute, second⟩, cs)

/-- Whether a clock can show this time.  Second 60 is a leap second, wherever it stands. -/
def TimeOfDay.Shows (t : TimeOfDay) : Prop := t.hour < 24 ∧ t.minute < 60 ∧ t.second ≤ 60

instance (t : TimeOfDay) : Decidable t.Shows := by unfold TimeOfDay.Shows; infer_instance

/-- The time with a leap second counted as the second before it. -/
def TimeOfDay.settled (t : TimeOfDay) : TimeOfDay := { t with second := min t.second 59 }

def readInstant (cs : List Char) : Option Instant := do
  let (date, cs) ← readDate cs
  let (time, cs) ← readTimeOfDay (trimStart cs)
  if cs = [] ∧ date.Exists ∧ time.Shows then some ⟨date, time.settled⟩ else none

def withoutZone (cs : List Char) : List Char :=
  if zone.isSuffixOf cs then cs.take (cs.length - zone.length) else cs

def parseChars (cs : List Char) : Option UInt32 := do
  let n := (← readInstant (withoutZone cs)).unixSeconds
  if 0 ≤ n ∧ n < UInt32.size then some (UInt32.ofNat n.toNat) else none

/-- Reads a timestamp, with or without the zone; `none` if the text is no time or the time is no
    timestamp. -/
def parse (text : String) : Option UInt32 := parseChars text.toList

/-- Reads a timestamp, and takes what cannot be read for the first one. -/
def parseOrZero (text : String) : UInt32 := (parse text).getD 0

end TimeServer.Time
