import TimeServer.Text.Blank
import TimeServer.Address.Ipv6

/-! # Addresses

IP addresses of both families, socket addresses, and the text that identifies a client.

* `IpAddress.text`, `IpAddress.parse?` — writing and reading;
* `IpAddress.canonical` — an IPv4 address and its IPv6 mapped form are the same host;
* `SocketAddress.parse?` — `a.b.c.d:port` or `[v6]:port`;
* `clientAddress` — the text by which access rules know a peer.
-/

namespace TimeServer

open TimeServer.Text

inductive IpAddress
  | v4 (ip : Ipv4)
  | v6 (ip : Ipv6)
  deriving DecidableEq, Repr

namespace IpAddress

def chars : IpAddress → List Char
  | v4 ip => ip.chars
  | v6 ip => ip.chars

def text (ip : IpAddress) : String := String.ofList ip.chars

def ofChars? (cs : List Char) : Option IpAddress :=
  match Ipv4.read cs with
  | some (ip, []) => some (v4 ip)
  | _ =>
    match Ipv6.read cs with
    | some (ip, []) => some (v6 ip)
    | _ => none

def parse? (text : String) : Option IpAddress := ofChars? text.toList

/-- The address, with the mapped form of an IPv4 address reduced to that address. -/
def canonical : IpAddress → IpAddress
  | v4 ip => v4 ip
  | v6 ip =>
    match ip.toMapped? with
    | some ip => v4 ip
    | none => v6 ip

def isIpv6 : IpAddress → Bool
  | v4 _ => false
  | v6 _ => true

def isUnspecified : IpAddress → Bool
  | v4 ip => ip == .unspecified
  | v6 ip => ip == .unspecified

def isLoopback : IpAddress → Bool
  | v4 ip => ip.a == 127
  | v6 ip => ip == .localhost

end IpAddress

structure SocketAddress where
  ip : IpAddress
  port : UInt16
  deriving DecidableEq, Repr

namespace SocketAddress

/-- The text `ip:port`, with an IPv6 address in brackets. -/
def text (s : SocketAddress) : String :=
  match s.ip with
  | .v4 ip => s!"{ip.text}:{s.port}"
  | .v6 ip => s!"[{ip.text}]:{s.port}"

def port? : List Char → Option UInt16
  | ':' :: ds =>
    if ds ≠ [] ∧ ds.all Char.isDigit ∧ Decimal.value ds < UInt16.size then
      some (UInt16.ofNat (Decimal.value ds))
    else none
  | _ => none

/-- Skips the number of a zone after an IPv6 address, if there is one. -/
def skipZone (cs : List Char) : List Char :=
  match cs with
  | '%' :: rest =>
    let ds := rest.takeWhile Char.isDigit
    if ds ≠ [] ∧ Decimal.value ds < UInt32.size then rest.dropWhile Char.isDigit else cs
  | _ => cs

def ofIpv4Chars? (cs : List Char) : Option SocketAddress := do
  let (ip, rest) ← Ipv4.read cs
  return ⟨.v4 ip, ← port? rest⟩

def ofIpv6Chars? : List Char → Option SocketAddress
  | '[' :: cs => do
    let (ip, rest) ← Ipv6.read cs
    match skipZone rest with
    | ']' :: rest => return ⟨.v6 ip, ← port? rest⟩
    | _ => none
  | _ => none

def parse? (text : String) : Option SocketAddress :=
  match ofIpv4Chars? text.toList with
  | some s => some s
  | none => ofIpv6Chars? text.toList

end SocketAddress

/-- The text by which access rules and log lines know a peer: its canonical address, without the
    port. -/
def clientAddress (peer : SocketAddress) : String := peer.ip.canonical.text

end TimeServer
