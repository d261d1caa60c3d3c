import TimeServer.Server.Task

/-! # Schedules

A server with everything that goes on around it: calls that start and stop it, in any number and at
the same time, its own threads, clients that come, and calls to the host that fail.

* `System` — the server, the calls in progress, and a record of the clients that came and of what
  became of them at the door;
* `System.step?` — the moves that may come next, each an atomic step of a thread, of a call or of
  the world;
* `System.Reaches` — the states that come of moves in any order.
-/

namespace TimeServer

def Task.isOver : Task → Bool
  | .started _ | .stopped => true
  | _ => false

structure Guest where
  endpoint : Nat
  arrival : Arrival
  deriving DecidableEq, Repr

namespace Run

/-- The clients among those that wait at the socket of the run, the others having come to wake the
    accept thread. -/
def clients (run : Run) (backlog : List Arrival) : List Arrival :=
  backlog.filter fun arrival => run.wakePeer ≠ some arrival.peer

/-- The client that the next move of the accept thread loses: its call has taken it and fails. -/
def loses (run : Run) (network : Network) : List Arrival :=
  match run.acceptor, (network.take? run.endpoint).1 with
  | .calling _, some (.error _) => run.clients ((network.backlog run.endpoint).take 1)
  | _, _ => []

/-- The clients that the next move of the accept thread turns away: it closes the socket. -/
def forsakes (run : Run) (network : Network) : List Arrival :=
  if run.acceptor = .closing then run.clients (network.backlog run.endpoint) else []

end Run

def Server.unfinished (s : Server) : Nat := (s.runs.flatMap (·.pool.unfinished)).length

structure System where
  server : Server
  -- Where every call on the server stands.
  calls : List Task := []
  -- Every client that came so far, and those among them for which the accept thread had made its
  -- last accept call.
  guests : List Guest := []
  late : List Guest := []
  -- The clients that were taken by accept calls which failed, and those that still waited when
  -- their socket was closed.
  lost : List Guest := []
  forsaken : List Guest := []
  -- The largest number of connections that were unfinished at one time.
  crowd : Nat := 0

namespace System

inductive Move
  -- Somebody calls the server to start or to stop it.
  | start
  | stop
  -- This call makes its next step.
  | advance (call : Nat)
  -- The accept thread of this run gets on, or an actor in its pool.
  | accept (run : Nat)
  | work (run : Nat) (action : Pool.Action)
  -- A client connects.
  | arrive (source target : SocketAddress) (stream : Stream)
  -- What the host does next is settled: where it looks for a free port, which call is to fail, and
  -- what time its clock shows.
  | nextPort (port : Nat)
  | fault (fault : Fault)
  | setClock (clock : Clock)
  deriving DecidableEq, Repr

def guest? (h : System) (source target : SocketAddress) (stream : Stream) : Option Guest := do
  let n := h.server.network
  let endpoint ← n.reach? target
  let peer : SocketAddress := ⟨endpoint.seenAs (n.rules.shown source.ip), source.port⟩
  return ⟨endpoint.number, ⟨n.nextNumber, peer, stream⟩⟩

/-- Whether the accept thread has made its last accept call for the socket that a client comes
    to. -/
def comesLate (h : System) (guest : Guest) : Bool :=
  h.server.runs.any fun run => run.endpoint = guest.endpoint && run.acceptor = .closing

/-- The state after a move; `none` if the move is not possible now. -/
def step? (h : System) : Move → Option System
  | .start => some { h with calls := h.calls ++ [.entering] }
  | .stop => some { h with calls := h.calls ++ [.halting] }
  | .advance call => do
    let (task, server) ← h.server.advance (← h.calls[call]?)
    some { h with server, calls := h.calls.set call task }
  | .accept i => do
    let run ← h.server.runs[i]?
    let server ← h.server.moveAcceptor? i run
    some { h with
      server
      lost := h.lost ++ (run.loses h.server.network).map (Guest.mk run.endpoint)
      forsaken := h.forsaken ++ (run.forsakes h.server.network).map (Guest.mk run.endpoint)
      crowd := max h.crowd server.unfinished }
  | .work i action => do
    let run ← h.server.runs[i]?
    let (pool, journal) ← run.pool.act? h.server.clock action
    some { h with server := (h.server.setRun i { run with pool }).record journal }
  | .arrive source target stream =>
    let guests := (h.guest? source target stream).toList
    some { h with
      server := { h.server with network := (h.server.network.connect source target stream).2 }
      guests := h.guests ++ guests
      late := h.late ++ guests.filter h.comesLate }
  | .nextPort port => some { h with server := { h.server with network.nextPort := port } }
  | .fault fault =>
    let faults := h.server.network.faults ++ [fault]
    some { h with server := { h.server with network.faults := faults } }
  | .setClock clock => some { h with server := { h.server with clock } }

inductive Reaches (allowed : System → Move → Prop) (first : System) : System → Prop
  | refl : Reaches allowed first first
  | step {h next : System} (move : Move) (before : Reaches allowed first h) (ok : allowed h move)
      (moved : h.step? move = some next) : Reaches allowed first next

def anyMove (_ : System) (_ : Move) : Prop := True

def ofServer (server : Server) : System := { server }

end System

end TimeServer
