import TimeServer.Lifecycle
import TimeServer.Network
import TimeServer.Pool
import TimeServer.Settings

/-! # The server

The state of a server and of its threads.

One accept thread hands accepted connections to a worker pool.  The threads of one start, with the
listening socket that they serve, are a `Run`.  The server keeps the current run in a slot, which
is guarded by a lock, and its phase in a cell of its own.
-/

namespace TimeServer

/-- What the accept thread does with the connections it takes: it waits for them and hands them on,
    or hands on those that already wait, if the socket can be asked for them without blocking. -/
inductive Mode
  | serving
  | draining (canPoll : Bool)
  deriving DecidableEq, Repr

inductive Acceptor
  -- It was not created.
  | absent
  -- It is about to make an accept call.
  | accepting (mode : Mode)
  -- It has made one, which did not fail at once.
  | calling (mode : Mode)
  -- It waits for room in the queue.
  | handing (mode : Mode)
  -- It will accept no more, and its socket is still open.
  | closing
  | exited
  deriving DecidableEq, Repr

namespace Acceptor

def effort : Acceptor → Nat
  | handing _ => 4
  | accepting _ => 3
  | calling _ => 2
  | closing => 1
  | absent | exited => 0

end Acceptor

structure Run where
  endpoint : Nat
  address : SocketAddress
  pool : Pool
  acceptor : Acceptor := .absent
  -- The source of the connection that wakes the accept thread, once it is known.
  wakePeer : Option SocketAddress := none
  deriving DecidableEq, Repr

/-- A server, its threads, and the network of its host.  The slot holds the number of a run among
    all runs so far. -/
structure Server where
  settings : Settings
  rules : AccessRules
  phase : Phase := .stopped
  -- Whether a call holds the lock of the slot.
  locked : Bool := false
  slot : Option Nat := none
  runs : List Run := []
  stats : Stats := {}
  journal : Journal := []
  network : Network := {}
  clock : Clock

namespace Server

def ofSettings (settings : Settings) (network : Network) (clock : Clock) : Server :=
  { settings, rules := settings.accessRules, network, clock }

def isRunning (s : Server) : Bool := s.phase == .running

def localAddress (s : Server) : Option SocketAddress := do
  return (← s.runs[← s.slot]?).address

def record (s : Server) (journal : Journal) : Server :=
  { s with stats := s.stats.record journal, journal := s.journal ++ journal }

def note (s : Server) (notice : Notice) : Server := s.record [.note notice]

def setRun (s : Server) (i : Nat) (run : Run) : Server := { s with runs := s.runs.set i run }

/-! ## The accept thread -/

def takeOn (s : Server) (i : Nat) (run : Run) (arrival : Arrival) (mode : Mode) : Server :=
  let (error, network) := s.network.trip .setTimeout
  let setup : Journal := match error with
    | some e => [.note (.timeoutsFailed arrival.peer e)]
    | none => []
  let (pool, journal) :=
    run.pool.enroll arrival.number (clientAddress arrival.peer) s.rules arrival.stream setup
  ({ s with network }.setRun i { run with pool, acceptor := .handing mode }).record journal

/-- Takes a client on, unless it only came to wake the accept thread. -/
def takeOnClient (s : Server) (i : Nat) (run : Run) (arrival : Arrival) (mode : Mode) : Server :=
  if run.wakePeer = some arrival.peer then s.setRun i { run with acceptor := .accepting mode }
  else s.takeOn i run arrival mode

/-- Makes the socket non-blocking, and says how the thread goes on. -/
def beginDraining (s : Server) : Mode × Server :=
  match s.network.trip .setNonblocking with
  | (some e, network) => (.draining false, { s with network }.note (.cannotDrain e))
  | (none, network) => (.draining true, { s with network })

def failAccept (s : Server) (i : Nat) (run : Run) (mode : Mode) (e : IoError) : Server :=
  if e.isInterrupted then s.setRun i { run with acceptor := .accepting mode }
  else
    match mode with
    | .serving =>
      if s.phase = .running then
        (s.setRun i { run with acceptor := .accepting .serving }).note (.acceptFailed e)
      else
        let (mode, s) := s.beginDraining
        s.setRun i { run with acceptor := .accepting mode }
    | .draining _ => s.setRun i { run with acceptor := .closing }

def endAcceptor (s : Server) (i : Nat) (run : Run) : Server :=
  ({ s with network := s.network.close run.endpoint }.setRun i
    { run with pool := run.pool.detach, acceptor := .exited }).note .acceptLoopExiting

/-- The next move of the accept thread of a run; `none` while it waits. -/
def moveAcceptor? (s : Server) (i : Nat) (run : Run) : Option Server :=
  match run.acceptor with
  | .absent | .exited => none
  | .handing mode =>
    if run.pool.waiting ≠ [] then none
    else if run.pool.isOpen then some (s.setRun i { run with acceptor := .accepting mode })
    -- The queue was shut while the thread waited: its client was handed back.
    else some (s.setRun i { run with acceptor := .closing })
  | .closing => some (s.endAcceptor i run)
  | .accepting (.draining false) => some (s.setRun i { run with acceptor := .closing })
  | .accepting mode =>
    match s.network.trip .accept with
    | (some e, network) => some ({ s with network }.failAccept i run mode e)
    | (none, network) => some ({ s with network }.setRun i { run with acceptor := .calling mode })
  | .calling mode =>
    match s.network.take? run.endpoint with
    | (none, _) =>
      match mode with
      | .serving => none
      -- Here the socket does not block: nobody waits any more.
      | .draining _ => some (s.setRun i { run with acceptor := .closing })
    | (some (.ok arrival), network) =>
      let s := { s with network }
      match mode with
      | .serving =>
        -- The phase is read after the call returns, which may be long after it was made.
        if s.phase = .running then some (s.takeOn i run arrival .serving)
        else
          let (mode, s) := s.beginDraining
          some (s.takeOnClient i run arrival mode)
      | .draining canPoll => some (s.takeOnClient i run arrival (.draining canPoll))
    | (some (.error e), network) => some ({ s with network }.failAccept i run mode e)

/-! ## Letting the threads move -/

def movePool? (s : Server) (i : Nat) (run : Run) : Option Server := do
  let (pool, journal) ← run.pool.next? s.clock
  return (s.setRun i { run with pool }).record journal

def moveRun? (s : Server) (i : Nat) : Option Server := do
  let run ← s.runs[i]?
  (s.moveAcceptor? i run) <|> (s.movePool? i run)

def move? (s : Server) : Option Server := (List.range s.runs.length).findSome? s.moveRun?

/-- An upper bound on the moves that the threads make if no client comes any more. -/
def effort (s : Server) : Nat :=
  (s.runs.map fun run => run.pool.effort + run.acceptor.effort).foldr (· + ·) 0 +
    12 * s.network.pending + s.network.faults.length

def moveFor : (limit : Nat) → Server → Server
  | 0, s => s
  | limit + 1, s =>
    match s.move? with
    | none => s
    | some s => moveFor limit s

def settle (s : Server) : Server := moveFor s.effort s

def debugText (s : Server) : String :=
  s!"UtcServer \x7b config: {s.settings.debugText}, state: {s.phase.debugText}, " ++
    s!"stats: {s.stats.debugText}, .. \x7d"

end Server

end TimeServer
