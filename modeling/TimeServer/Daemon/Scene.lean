import TimeServer.Daemon
import TimeServer.Server.Schedule

/-! # A daemon among its clients

The daemon with everything that goes on around it.  It calls its server and waits for the calls to
return, while clients come, threads get on and calls to the host fail, in any order.

* `Daemon.Scene`, `Daemon.Move` — where the daemon stands, and what may happen next;
* `Scene.step?` — the moves;
* `Scene.Reaches` — the scenes that come of moves in any order.
-/

namespace TimeServer

def System.Move.isCall : Move → Bool
  | .start | .stop => true
  | _ => false

namespace Daemon

open TimeServer.Log (Record)

inductive Stage
  | starting
  | preparing
  | waiting
  | stopping (finish : Except IoError Signal)
  /-- The server is given up, which stops it. -/
  | leaving (result : Except DaemonError Unit)
  | returned (result : Except DaemonError Unit)

inductive Move
  | world (move : System.Move)
  /-- The daemon goes on after a call that has returned. -/
  | proceed
  | unprepared (cause : IoError)
  | report
  | finish (finish : Except IoError Signal)

structure Scene where
  system : System
  stage : Stage := .starting
  records : List Record := []

namespace Scene

/-- The daemon has called the server that a configuration describes, to start it. -/
def ofConfig (c : Config) (network : Network) (clock : Clock) : Scene :=
  { system := { server := .ofSettings c.settings network clock, calls := [.entering] } }

def task? (s : Scene) : Option Task := s.system.calls.getLast?

def log (s : Scene) (record : Record) : Scene := { s with records := s.records ++ [record] }

def report (s : Scene) : Scene := s.log (.ofStats s.system.server.clock s.system.server.stats)

def halt (s : Scene) (stage : Stage) : Scene :=
  { s with system.calls := s.system.calls ++ [.halting], stage }

def told (h next : System) : List Record :=
  (Journal.notices (next.server.journal.drop h.server.journal.length)).map
    (.ofNotice h.server.clock)

/-- Something happens around the server, which nobody but the daemon calls. -/
def happen? (s : Scene) (move : System.Move) : Option Scene :=
  if move.isCall then none
  else
    (s.system.step? move).map fun system =>
      { s with system, records := s.records ++ told s.system system }

def proceed? (c : Config) (s : Scene) : Option Scene :=
  match s.stage, s.task? with
  | .starting, some (.started (.error e)) => some (s.halt (.leaving (.error (.server e))))
  | .starting, some (.started (.ok address)) =>
    some { s.log (startRecord c s.system.server.clock address) with stage := .preparing }
  | .preparing, _ => some { s with stage := .waiting }
  | .stopping finish, some .stopped => some (s.report.halt (.leaving (verdict finish)))
  | .leaving result, some .stopped => some { s with stage := .returned result }
  | _, _ => none

/-- The scene after a move; `none` if the move is not possible now. -/
def step? (c : Config) (s : Scene) : Move → Option Scene
  | .world move => s.happen? move
  | .proceed => s.proceed? c
  | .unprepared cause =>
    match s.stage with
    | .preparing => some (s.halt (.leaving (.error (.runtime cause))))
    | _ => none
  | .report =>
    match s.stage with
    | .waiting => if c.statsInterval.isSome then some s.report else none
    | _ => none
  | .finish finish =>
    match s.stage with
    | .waiting =>
      some ((s.log (finishRecord s.system.server.clock finish)).halt (.stopping finish))
    | _ => none

/-- The scenes that come of moves, the world making allowed ones. -/
inductive Reaches (c : Config) (allowed : System → System.Move → Prop) (first : Scene) :
    List Move → Scene → Prop
  | refl : Reaches c allowed first [] first
  | step {s next : Scene} {moves : List Move} (move : Move)
      (before : Reaches c allowed first moves s)
      (ok : ∀ outer, move = .world outer → allowed s.system outer)
      (moved : s.step? c move = some next) : Reaches c allowed first (moves ++ [move]) next

end Scene

end Daemon

end TimeServer
