import TimeServer.Text.Decimal
import TimeServer.Text.Digit
import TimeServer.Text.Split

/-! # IPv4 addresses

* `Ipv4.text`, `Ipv4.read` — dotted text and the reader for it, which takes no leading zeros;
* `Ipv4.ofNumeric?` — the older numeric forms: one to four parts in decimal, octal or hexadecimal,
  the last of which fills all the bytes that are left.
-/

namespace TimeServer

open TimeServer.Text

structure Ipv4 where
  a : UInt8
  b : UInt8
  c : UInt8
  d : UInt8
  deriving DecidableEq, Repr

namespace Ipv4

def unspecified : Ipv4 := ⟨0, 0, 0, 0⟩

def localhost : Ipv4 := ⟨127, 0, 0, 1⟩

def chars (ip : Ipv4) : List Char :=
  Decimal.digits ip.a.toNat ++ '.' :: Decimal.digits ip.b.toNat ++ '.' ::
    Decimal.digits ip.c.toNat ++ '.' :: Decimal.digits ip.d.toNat

def text (ip : Ipv4) : String := String.ofList ip.chars

/-- Reads one byte: one to three digits, no leading zero, at most 255. -/
def readByte (cs : List Char) : Option (UInt8 × List Char) :=
  let ds := cs.takeWhile Char.isDigit
  if 1 ≤ ds.length ∧ ds.length ≤ 3 ∧ (ds.head? = some '0' → ds.length = 1) ∧
      Decimal.value ds ≤ 255 then
    some (UInt8.ofNat (Decimal.value ds), cs.dropWhile Char.isDigit)
  else none

def readDotByte : List Char → Option (UInt8 × List Char)
  | '.' :: cs => readByte cs
  | _ => none

def read (cs : List Char) : Option (Ipv4 × List Char) := do
  let (a, cs) ← readByte cs
  let (b, cs) ← readDotByte cs
  let (c, cs) ← readDotByte cs
  let (d, cs) ← readDotByte cs
  return (⟨a, b, c, d⟩, cs)

/-! ## Numeric forms -/

/-- The number that digits denote in a base, if there is a digit and all are digits of that base. -/
def numberIn (base : Nat) (ds : List Char) : Option Nat :=
  if ds ≠ [] ∧ ds.all (Digit.isDigit base) then some (Digit.number base ds) else none

/-- The number that a part denotes: hexadecimal after `0x`, octal after `0`, else decimal. -/
def partValue : List Char → Option Nat
  | ['0'] => some 0
  | '0' :: 'x' :: ds => numberIn 16 ds
  | '0' :: 'X' :: ds => numberIn 16 ds
  | '0' :: ds => numberIn 8 ds
  | ds => numberIn 10 ds

/-- The 32 bits of the address whose leading bytes are given, the last part filling the rest. -/
def combine : (room : Nat) → List Nat → Option Nat
  | 0, _ => none
  | _, [] => none
  | room + 1, [n] => if n < 256 ^ (room + 1) then some n else none
  | room + 1, n :: ns =>
    if n < 256 then (combine room ns).map fun m => n * 256 ^ room + m else none

def ofNat (n : Nat) : Ipv4 :=
  ⟨UInt8.ofNat (n >>> 24), UInt8.ofNat (n >>> 16), UInt8.ofNat (n >>> 8), UInt8.ofNat n⟩

/-- Reads one of the numeric forms. -/
def ofNumeric? (cs : List Char) : Option Ipv4 := do
  let parts ← (splitAtMark '.' cs).mapM partValue
  return ofNat (← combine 4 parts)

end Ipv4

end TimeServer
