import TimeServer.Server.Task

/-! # Sessions with a server

What can be done to a server from outside, as data: starting and stopping it, clients that come,
faults and changes of the clock.

* `Server.perform` — carries one action out and lets the threads come to rest;
* `Server.performAll` — carries out several, one after another.

A client says nothing and reads until its end is closed, so what it got is what its connection
accepted.
-/

namespace TimeServer

inductive Server.Action
  | start
  | stop
  | fetch (source : Option IpAddress)
  /-- So many clients connect, and the server is stopped before it takes any of them. -/
  | burst (clients : Nat)
  | fault (fault : Fault)
  | setClock (clock : Clock)
  deriving DecidableEq, Repr

abbrev Server.Fetched := Except IoError (List UInt8)

inductive Server.Reply
  | started (result : Except ServerError SocketAddress)
  | fetched (result : Server.Fetched)
  | burst (results : List Server.Fetched)
  | done

namespace Server

/-- Where a client connects to, and from which address, to reach a listening socket.  A socket that
    is bound to no single address is reached on the loopback address of its family, and on the IPv4
    one by IPv4 clients. -/
def route (address : SocketAddress) (source : Option IpAddress) : SocketAddress × IpAddress :=
  let target : SocketAddress :=
    match source, address.ip with
    | some (.v4 _), .v6 _ => ⟨.v4 .localhost, address.port⟩
    | _, _ => wakeTarget address
  let usual : IpAddress :=
    match target.ip with
    | .v4 _ => .v4 .localhost
    | .v6 ip => .v6 ip
  (target, source.getD usual)

def connect (s : Server) (source : Option IpAddress) : Except IoError Nat × Server :=
  match s.runs.getLast? with
  | none => (.error (.os 111), s)
  | some run =>
    let (target, ip) := route run.address source
    let (port, network) := s.network.takePort
    let (result, network) := network.connect ⟨ip, port⟩ target {}
    (result, { s with network })

def connectAll : (clients : Nat) → Server → List (Except IoError Nat) × Server
  | 0, s => ([], s)
  | clients + 1, s =>
    let (result, s) := s.connect none
    let (results, s) := connectAll clients s
    (result :: results, s)

/-- What the client of a connection got.  A connection that was turned away is reset, and one that
    was accepted and that no worker served is closed without a byte. -/
def delivered (s : Server) (number : Nat) : Server.Fetched :=
  if number ∈ s.network.turnedAway then .error (.os 104)
  else
    match s.runs.findSome? fun run => run.pool.finished.find? (·.number == number) with
    | some ticket => .ok ticket.connection.stream.accepted
    | none => .ok []

/-- Carries out one action and lets the threads come to rest. -/
def perform (s : Server) : Server.Action → Reply × Server
  | .start =>
    let (result, s) := s.start
    (.started result, s)
  | .stop => (.done, s.stop)
  | .fetch source =>
    let (result, s) := s.connect source
    let s := s.settle
    (.fetched (result.bind s.delivered), s)
  | .burst clients =>
    let (results, s) := connectAll clients s
    let s := s.stop
    (.burst (results.map fun result => result.bind s.delivered), s)
  | .fault fault => (.done, { s with network.faults := s.network.faults ++ [fault] })
  | .setClock clock => (.done, { s with clock })

def performAll (s : Server) : List Server.Action → List Reply × Server
  | [] => ([], s)
  | action :: actions =>
    let (reply, s) := s.perform action
    let (replies, s) := s.performAll actions
    (reply :: replies, s)

end Server

end TimeServer
