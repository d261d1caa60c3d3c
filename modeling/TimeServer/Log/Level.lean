import TimeServer.Text.Decimal

/-! # Levels

How important a log record is, and the threshold that a log lets through.

* `Threshold.allows` — which levels pass;
* `Threshold.parse?` — a threshold by name or by number.
-/

namespace TimeServer

open TimeServer.Text

inductive Level
  | error
  | warn
  | info
  | debug
  | trace
  deriving DecidableEq, Repr

namespace Level

def name : Level → String
  | error => "error"
  | warn => "warn"
  | info => "info"
  | debug => "debug"
  | trace => "trace"

def label : Level → String
  | error => "ERROR"
  | warn => "WARN"
  | info => "INFO"
  | debug => "DEBUG"
  | trace => "TRACE"

/-- The rank of a level: the higher, the less important. -/
def rank : Level → Nat
  | error => 1
  | warn => 2
  | info => 3
  | debug => 4
  | trace => 5

end Level

/-- The least important level that passes; without a value, none does. -/
abbrev Threshold := Option Level

namespace Threshold

def allows : Threshold → Level → Bool
  | none, _ => false
  | some least, level => level.rank ≤ least.rank

def ofNumber? : Nat → Option Threshold
  | 0 => some none
  | 1 => some (some .error)
  | 2 => some (some .warn)
  | 3 => some (some .info)
  | 4 => some (some .debug)
  | 5 => some (some .trace)
  | _ => none

/-- The threshold with a name in lower case.  The empty name stands for errors alone. -/
def ofName? (name : List Char) : Option Threshold :=
  if name = "error".toList ∨ name = [] then some (some .error)
  else if name = "warn".toList then some (some .warn)
  else if name = "info".toList then some (some .info)
  else if name = "debug".toList then some (some .debug)
  else if name = "trace".toList then some (some .trace)
  else if name = "off".toList then some none
  else none

def number? (cs : List Char) : Option Nat :=
  let digits := match cs with
    | '+' :: cs => cs
    | cs => cs
  if digits ≠ [] ∧ digits.all Char.isDigit then some (Decimal.value digits) else none

/-- The threshold that a text denotes: a number, or a name in ASCII letters of either case. -/
def ofChars? (cs : List Char) : Option Threshold :=
  match number? cs with
  | some n => ofNumber? n
  | none => ofName? (cs.map Char.toLower)

def parse? (text : String) : Option Threshold := ofChars? text.toList

end Threshold

end TimeServer
