import TimeServer.Address
import TimeServer.IoError
import TimeServer.Network.Rules
import TimeServer.Stream

/-! # The network

The part of a host's network that a server meets: sockets bound to its addresses, clients that
connect to them, and system calls that may be made to fail.

* `Endpoint.covers` — which addresses a bound socket answers for;
* `Network.bind?`, `Network.connect`, `Network.take?` — the calls;
* `Network.trip` — whether a call meets a fault that was set for it.
-/

namespace TimeServer

inductive Syscall
  | socket
  | bind
  | listen
  -- An accept call when it is made, and one that has taken a connection, which is lost.
  | accept
  | acceptLate
  -- A connect call that has made the connection.
  | connectLate
  | setTimeout
  | setNonblocking
  | spawnThread
  deriving DecidableEq, Repr

/-- A failure in store for a later call: its error number, and how many calls of that sort pass
    before it. -/
structure Fault where
  call : Syscall
  code : Nat
  skip : Nat := 0
  deriving DecidableEq, Repr

structure Arrival where
  number : Nat
  peer : SocketAddress
  stream : Stream
  deriving DecidableEq, Repr

structure Endpoint where
  number : Nat
  address : SocketAddress
  -- Whether a socket on `::` answers for IPv4 addresses too.
  dualStack : Bool
  -- The oldest comes first.
  backlog : List Arrival := []
  deriving DecidableEq, Repr

namespace Endpoint

/-- Whether a connection to an address reaches the socket: it is bound to that address, or to the
    unspecified address of that family, or to `::` and takes IPv4 clients. -/
def covers (e : Endpoint) (ip : IpAddress) : Bool :=
  let bound := e.address.ip.canonical
  let ip := ip.canonical
  bound == ip ||
    (bound.isUnspecified && (bound.isIpv6 == ip.isIpv6 || (bound.isIpv6 && e.dualStack)))

def overlaps (e f : Endpoint) : Bool :=
  e.address.port == f.address.port && (e.covers f.address.ip || f.covers e.address.ip)

def seenAs (e : Endpoint) (ip : IpAddress) : IpAddress :=
  match e.address.ip, ip with
  | .v6 _, .v4 ip => .v6 (.mapped ip)
  | .v4 _, ip => ip.canonical
  | _, ip => ip

end Endpoint

/-- The sockets of a host, its rules, and what is in store for its calls.  Sockets and connections
    share one sequence of numbers. -/
structure Network where
  endpoints : List Endpoint := []
  faults : List Fault := []
  rules : NetworkRules := .loopback
  nextPort : Nat := 49152
  nextNumber : Nat := 0
  -- The connections that still waited when their socket was closed.
  turnedAway : List Nat := []

namespace Network

def takeFault (call : Syscall) : List Fault → Option Nat × List Fault
  | [] => (none, [])
  | f :: faults =>
    if f.call = call then
      if f.skip = 0 then (some f.code, faults) else (none, { f with skip := f.skip - 1 } :: faults)
    else
      let (code, faults) := takeFault call faults
      (code, f :: faults)

def trip (n : Network) (call : Syscall) : Option IoError × Network :=
  let (code, faults) := takeFault call n.faults
  (code.map .os, { n with faults })

def backlog (n : Network) (number : Nat) : List Arrival :=
  ((n.endpoints.find? (·.number == number)).map (·.backlog)).getD []

def changeBacklog (n : Network) (number : Nat) (change : List Arrival → List Arrival) : Network :=
  { n with
    endpoints := n.endpoints.map fun e =>
      if e.number = number then { e with backlog := change e.backlog } else e }

/-- The first port from `nextPort` on that no socket is bound to, going round after the last one.
    Among more ports than there are sockets one is free. -/
def freePort? (n : Network) : Option Nat :=
  ((List.range (n.endpoints.length + 2)).map (n.nextPort + ·)).find? fun port =>
    UInt16.ofNat port != 0 && n.endpoints.all (·.address.port != UInt16.ofNat port)

def takePort (n : Network) : UInt16 × Network :=
  let port := n.freePort?.getD n.nextPort
  (UInt16.ofNat port, { n with nextPort := port + 1 })

def bindLocal (n : Network) (address : SocketAddress) (dualStack : Bool) :
    Except IoError Endpoint × Network :=
  match n.rules.refusal? address.ip dualStack with
  | some e => (.error e, n)
  | none =>
    -- Every port is taken, so none can stand for 0.
    if address.port = 0 ∧ n.freePort? = none then (.error (.os 98), n)
    else
      let (port, n) := if address.port = 0 then n.takePort else (address.port, n)
      let endpoint : Endpoint := ⟨n.nextNumber, ⟨address.ip, port⟩, dualStack, []⟩
      if n.endpoints.any endpoint.overlaps then (.error (.os 98), n)
      else
        (.ok endpoint,
          { n with endpoints := n.endpoints ++ [endpoint], nextNumber := n.nextNumber + 1 })

def close (n : Network) (number : Nat) : Network :=
  { n with
    endpoints := n.endpoints.filter (·.number != number)
    turnedAway := n.turnedAway ++ (n.backlog number).map (·.number) }

/-- Sets up a listening socket: creates it, binds it and lets it listen.  A socket that cannot
    listen is closed again. -/
def bind? (n : Network) (address : SocketAddress) (dualStack : Bool) :
    Except IoError Endpoint × Network :=
  match n.trip .socket with
  | (some e, n) => (.error e, n)
  | (none, n) =>
    match n.trip .bind with
    | (some e, n) => (.error e, n)
    | (none, n) =>
      match n.bindLocal address dualStack with
      | (.error e, n) => (.error e, n)
      | (.ok endpoint, n) =>
        match n.trip .listen with
        | (some e, n) => (.error e, n.close endpoint.number)
        | (none, n) => (.ok endpoint, n)

def reach? (n : Network) (target : SocketAddress) : Option Endpoint :=
  n.endpoints.find? fun e => e.address.port == target.port && e.covers target.ip

def connect (n : Network) (source target : SocketAddress) (stream : Stream) :
    Except IoError Nat × Network :=
  match n.reach? target with
  | none => (.error (.os 111), n)
  | some endpoint =>
    let peer : SocketAddress := ⟨endpoint.seenAs (n.rules.shown source.ip), source.port⟩
    (.ok n.nextNumber,
      { n.changeBacklog endpoint.number (· ++ [⟨n.nextNumber, peer, stream⟩]) with
        nextNumber := n.nextNumber + 1 })

/-- An accept call that was made takes the oldest client that waits at a socket; `none` if nobody
    waits. -/
def take? (n : Network) (number : Nat) : Option (Except IoError Arrival) × Network :=
  match n.backlog number with
  | [] => (none, n)
  | arrival :: rest =>
    -- The client is off the backlog whatever the call gives.
    match (n.changeBacklog number fun _ => rest).trip .acceptLate with
    | (some e, n) => (some (.error e), n)
    | (none, n) => (some (.ok arrival), n)

def pending (n : Network) : Nat := (n.endpoints.map (·.backlog.length)).foldr (· + ·) 0

end Network

end TimeServer
