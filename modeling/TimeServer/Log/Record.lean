import TimeServer.Clock
import TimeServer.Notice
import TimeServer.Text.Quoted
import TimeServer.Time.Text

/-! # Log records

What is logged, and the line that it is written as: the time to the microsecond, the level, the
part of the program that it comes from, the message, and named fields.
-/

namespace TimeServer.Log

open TimeServer.Text

inductive FieldValue
  | plain (text : String)
  | quoted (text : String)
  deriving DecidableEq, Repr

namespace FieldValue

def text : FieldValue → String
  | plain t => t
  | quoted t => TimeServer.Text.quoted t

end FieldValue

structure Record where
  clock : Clock
  level : Level
  target : String
  message : String
  fields : List (String × FieldValue) := []
  deriving DecidableEq, Repr

/-- A year: four digits, a sign in front of a negative year or one with more digits. -/
def yearChars (year : Int) : List Char :=
  if year < 0 then '-' :: Decimal.padded 4 year.natAbs
  else if 9999 < year then '+' :: Decimal.digits year.toNat
  else Decimal.padded 4 year.toNat

/-- The day that many days after 1970-01-01, or before if the number is negative.  The calendar
    repeats itself every 400 years, which have 146097 days. -/
def dateOfDay (day : Int) : Time.Date :=
  let date := Time.Date.ofDayNumber (day % 146097).toNat
  { date with year := date.year + 400 * (day / 146097) }

def stampChars (clock : Clock) : List Char :=
  let date := dateOfDay (clock.seconds / 86400)
  let time := Time.TimeOfDay.ofSeconds (clock.seconds % 86400).toNat
  yearChars date.year ++ '-' :: Decimal.padded 2 date.month ++ '-' :: Decimal.padded 2 date.day ++
    'T' :: time.text ++ '.' :: Decimal.padded 6 (clock.nanos / 1000) ++ ['Z']

/-- A character of a message.  One that could steer a terminal is written by its number. -/
def messageChar (c : Char) : String :=
  if c = '\x1b' then "\\x1b"
  else if c = '\x07' then "\\x07"
  else if c = '\x08' then "\\x08"
  else if c = '\x0c' then "\\x0c"
  else if c = '\x7f' then "\\x7f"
  else if 0x80 ≤ c.toNat ∧ c.toNat ≤ 0x9f then
    "\\u\x7b" ++ String.ofList (Nat.toDigits 16 c.toNat) ++ "\x7d"
  else c.toString

def alignRight (width : Nat) (text : String) : String :=
  String.ofList (List.replicate (width - text.length) ' ') ++ text

namespace Record

def line (r : Record) : String :=
  s!"{String.ofList (stampChars r.clock)} {alignRight 5 r.level.label} {r.target}: " ++
    String.join (r.message.toList.map messageChar) ++
    String.join (r.fields.map fun (name, value) => s!" {name}={value.text}")

def ofEvent (clock : Clock) (level : Level) (message : String) : Record :=
  { clock, level, target := "utc_server", message }

def ofNotice (clock : Clock) (notice : Notice) : Record :=
  .ofEvent clock notice.level notice.text

def ofDaemon (clock : Clock) (level : Level) (message : String)
    (fields : List (String × FieldValue)) : Record :=
  { clock, level, target := "simple_utcd::daemon", message, fields }

def ofStats (clock : Clock) (stats : Stats) : Record :=
  .ofDaemon clock .info "server statistics"
    [("active", .plain s!"{stats.active}"), ("total", .plain s!"{stats.total}"),
      ("packets_sent", .plain s!"{stats.packetsSent}"),
      ("packets_received", .plain s!"{stats.packetsReceived}"),
      ("bytes_sent", .plain s!"{stats.bytesSent}"), ("denied", .plain s!"{stats.denied}"),
      ("io_errors", .plain s!"{stats.ioErrors}")]

end Record

end TimeServer.Log
