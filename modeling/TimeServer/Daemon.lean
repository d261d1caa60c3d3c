import TimeServer.Config
import TimeServer.Daemon.Error
import TimeServer.Log.Record
import TimeServer.Server.Session

/-! # The daemon

A server that runs until a signal comes, and the log records of its run.

* `Daemon.Course` — what happens while it runs: clients that come, reports that fall due, and how
  the wait for a signal ends;
* `Daemon.launch`, `Daemon.happen`, `Daemon.conclude` — the parts of a run;
* `Daemon.run` — the whole run.
-/

namespace TimeServer.Daemon

open TimeServer.Log (Record)

inductive Signal
  | interrupt
  | terminate
  deriving DecidableEq, Inhabited, Repr

namespace Signal

def name : Signal → String
  | interrupt => "SIGINT"
  | terminate => "SIGTERM"

end Signal

inductive Happening
  | client (source : Option IpAddress)
  | report
  deriving DecidableEq, Repr

inductive Course
  | unprepared (cause : IoError)
  | waited (happenings : List Happening) (finish : Except IoError Signal)

structure State where
  server : Server
  records : List Record := []

namespace State

def log (s : State) (record : Record) : State := { s with records := s.records ++ [record] }

/-- Lets the server act; what it tells its observer is logged. -/
def act {α : Type} (s : State) (action : Server → α × Server) : α × State :=
  let (result, server) := action s.server
  let notices := Journal.notices (server.journal.drop s.server.journal.length)
  (result, { server, records := s.records ++ notices.map (Record.ofNotice s.server.clock) })

def stop (s : State) : State := (s.act fun server => ((), server.stop)).2

def report (s : State) : State := s.log (.ofStats s.server.clock s.server.stats)

end State

def startRecord (c : Config) (clock : Clock) (address : SocketAddress) : Record :=
  .ofDaemon clock .info s!"simple-utcd started at {Time.format clock.now}"
    [("addr", .plain address.text), ("workers", .plain s!"{c.performance.workerThreads}"),
      ("stratum", .plain s!"{c.server.stratum}"), ("reference_id", .plain c.server.referenceId),
      ("reference_clock", .plain c.server.referenceClock)]

def finishRecord (clock : Clock) : Except IoError Signal → Record
  | .ok signal => .ofDaemon clock .info "shutting down" [("signal", .quoted signal.name)]
  | .error e =>
    .ofDaemon clock .error "signal handling failed, shutting down" [("error", .plain e.message)]

/-- One thing happens.  Reports only fall due if they are configured.  Gives what a client got. -/
def happen (c : Config) (s : State) : Happening → Option Server.Fetched × State
  | .report => (none, if c.statsInterval.isSome then s.report else s)
  | .client source =>
    match s.act fun server => server.perform (.fetch source) with
    | (.fetched result, s) => (some result, s)
    | (_, s) => (none, s)

def happenAll (c : Config) : State → List Happening → List Server.Fetched × State
  | s, [] => ([], s)
  | s, h :: hs =>
    let (result, s) := happen c s h
    let (results, s) := happenAll c s hs
    (result.toList ++ results, s)

def verdict : Except IoError Signal → Except DaemonError Unit
  | .ok _ => .ok ()
  | .error e => .error (.runtime e)

def launch (c : Config) (network : Network) (clock : Clock) : Except ServerError Unit × State :=
  let s : State := { server := .ofSettings c.settings network clock }
  match s.act Server.start with
  | (.error e, s) => (.error e, s)
  | (.ok address, s) => (.ok (), s.log (startRecord c clock address))

/-- Stops the server once the wait has ended, and shows the statistics that are final then. -/
def conclude (s : State) (finish : Except IoError Signal) : State :=
  (s.log (finishRecord s.server.clock finish)).stop.report

structure Outcome where
  result : Except DaemonError Unit
  fetched : List Server.Fetched
  state : State

/-- Starts the server that a configuration describes, waits for a signal, and stops it.  However
    the run ends, the server is stopped. -/
def run (c : Config) (network : Network) (clock : Clock) (course : Course) : Outcome :=
  match launch c network clock with
  | (.error e, s) => ⟨.error (.server e), [], s.stop⟩
  | (.ok (), s) =>
    match course with
    | .unprepared e => ⟨.error (.runtime e), [], s.stop⟩
    | .waited happenings finish =>
      let (fetched, s) := happenAll c s happenings
      ⟨verdict finish, fetched, conclude s finish⟩

end TimeServer.Daemon
