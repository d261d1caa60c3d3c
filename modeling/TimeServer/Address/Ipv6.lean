import TimeServer.Address.Ipv4

/-! # IPv6 addresses

* `Ipv6.text` — the canonical text: lower case, no leading zeros, the first longest run of two or
  more zero groups written `::`, an IPv4 address in mapped form written with dots;
* `Ipv6.read` — the reader, which takes every spelling: upper case, leading zeros, `::` anywhere
  and the last two groups as a dotted IPv4 address.
-/

namespace TimeServer

open TimeServer.Text

structure Ipv6 where
  groups : List UInt16
  length_groups : groups.length = 8 := by rfl
  deriving DecidableEq, Repr

namespace Ipv6

/-- The address with these groups, if they are eight. -/
def ofGroups? (groups : List UInt16) : Option Ipv6 :=
  if h : groups.length = 8 then some ⟨groups, h⟩ else none

def unspecified : Ipv6 := ⟨[0, 0, 0, 0, 0, 0, 0, 0], rfl⟩

def localhost : Ipv6 := ⟨[0, 0, 0, 0, 0, 0, 0, 1], rfl⟩

def groupsOfIpv4 (ip : Ipv4) : List UInt16 :=
  [ip.a.toUInt16 * 256 + ip.b.toUInt16, ip.c.toUInt16 * 256 + ip.d.toUInt16]

def ipv4OfGroups (hi lo : UInt16) : Ipv4 :=
  ⟨(hi / 256).toUInt8, hi.toUInt8, (lo / 256).toUInt8, lo.toUInt8⟩

def mapped (ip : Ipv4) : Ipv6 := ⟨[0, 0, 0, 0, 0, 0xFFFF] ++ groupsOfIpv4 ip, rfl⟩

def toMapped? (ip : Ipv6) : Option Ipv4 :=
  match ip.groups with
  | [0, 0, 0, 0, 0, 0xFFFF, hi, lo] => some (ipv4OfGroups hi lo)
  | _ => none

/-! ## Writing -/

def groupChars (g : UInt16) : List Char := Nat.toDigits 16 g.toNat

def joinGroups : List UInt16 → List Char
  | [] => []
  | [g] => groupChars g
  | g :: gs => groupChars g ++ ':' :: joinGroups gs

/-- How many zero groups follow one another from this place on. -/
def zeroRun (groups : List UInt16) (start : Nat) : Nat :=
  ((groups.drop start).takeWhile (· == 0)).length

/-- Start and length of the first longest run of zero groups. -/
def longestRun (groups : List UInt16) : Nat × Nat :=
  (List.range groups.length).foldl
    (fun best start =>
      if best.2 < zeroRun groups start then (start, zeroRun groups start) else best)
    (0, 0)

def chars (ip : Ipv6) : List Char :=
  match ip.toMapped? with
  | some v4 => [':', ':', 'f', 'f', 'f', 'f', ':'] ++ v4.chars
  | none =>
    let (start, length) := longestRun ip.groups
    if 1 < length then
      joinGroups (ip.groups.take start) ++ ':' :: ':' ::
        joinGroups (ip.groups.drop (start + length))
    else joinGroups ip.groups

def text (ip : Ipv6) : String := String.ofList ip.chars

/-! ## Reading -/

def readGroup (cs : List Char) : Option (UInt16 × List Char) :=
  let ds := cs.takeWhile (Digit.isDigit 16)
  if 1 ≤ ds.length ∧ ds.length ≤ 4 then
    some (UInt16.ofNat (Digit.number 16 ds), cs.dropWhile (Digit.isDigit 16))
  else none

def skipColon (first : Bool) (cs : List Char) : Option (List Char) :=
  if first then some cs
  else
    match cs with
    | ':' :: cs => some cs
    | _ => none

/-- What a run of groups holds: the groups, whether the last two came as a dotted address, and the
    characters after it. -/
structure Run where
  groups : List UInt16
  dotted : Bool
  rest : List Char

/-- Reads up to `limit` groups with colons between them; two groups may come as a dotted address,
    which ends the run. -/
def readGroups : (limit : Nat) → (first : Bool) → List Char → Run
  | 0, _, cs => ⟨[], false, cs⟩
  | limit + 1, first, cs =>
    match (if limit = 0 then none else (skipColon first cs).bind Ipv4.read) with
    | some (ip, rest) => ⟨groupsOfIpv4 ip, true, rest⟩
    | none =>
      match (skipColon first cs).bind readGroup with
      | none => ⟨[], false, cs⟩
      | some (g, rest) =>
        let run := readGroups limit false rest
        { run with groups := g :: run.groups }

/-- Reads an address and says what follows it.  `::` stands for at least one zero group, and no
    dotted address may stand before it. -/
def read (cs : List Char) : Option (Ipv6 × List Char) :=
  let head := readGroups 8 true cs
  if head.groups.length = 8 then (ofGroups? head.groups).map (·, head.rest)
  else if head.dotted then none
  else
    match head.rest with
    | ':' :: ':' :: cs =>
      let tail := readGroups (7 - head.groups.length) true cs
      let zeros := List.replicate (8 - head.groups.length - tail.groups.length) 0
      (ofGroups? (head.groups ++ zeros ++ tail.groups)).map (·, tail.rest)
    | _ => none

end Ipv6

end TimeServer
