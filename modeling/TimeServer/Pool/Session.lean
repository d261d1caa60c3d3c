import TimeServer.Pool

/-! # A pool in use

Submitters come with clients and workers serve them, in any order, until the owner of the pool shuts
it down.

* `Pool.Session` — a pool with its submitters, the shared counters, and a record of who came;
* `Session.step?` — every move in it: those of the actors, of the submitters, and of the owner;
* `Session.Reachable` — the states that come of moves in any order.
-/

namespace TimeServer

structure Visitor where
  number : Nat
  client : String
  rules : AccessRules
  stream : Stream
  deriving DecidableEq, Repr

def Visitor.ticket (v : Visitor) : Ticket :=
  ⟨v.number, (Connection.establish v.client v.rules v.stream).connection⟩

namespace Pool

def admits? (pool : Pool) : Action → Option Nat
  | .enqueue place => (pool.waiting[place]?).map Ticket.number
  | .refuse _ | .work _ => none

def refuses? (pool : Pool) : Action → Option Nat
  | .refuse place => (pool.waiting[place]?).map Ticket.number
  | .enqueue _ | .work _ => none

inductive Stage
  | serving
  | closing
  /-- The shutdown has returned, after so many clients had come. -/
  | closed (visitors : Nat)
  deriving DecidableEq, Repr

structure Session where
  pool : Pool
  stats : Stats := {}
  stage : Stage := .serving
  visitors : List Visitor := []
  admitted : List Nat := []
  refused : List Nat := []
  /-- The largest number of connections that were unfinished at one time. -/
  crowd : Nat := 0
  deriving DecidableEq, Repr

inductive Session.Move
  | attach
  | detach
  | submit (client : String) (rules : AccessRules) (stream : Stream) (troubles : List Notice)
  | act (clock : Clock) (action : Action)
  | shutdown
  | join
  deriving DecidableEq, Repr

namespace Session

def start (workers capacity : Nat) : Session := { pool := .ofWorkers workers capacity }

/-- Whether a handle can be given back: there is one, besides that of the owner while the pool is in
    use, and nobody waits who could only have come through it. -/
def canDetach (s : Session) : Bool :=
  (s.stage = .serving → 2 ≤ s.pool.feeds) ∧ 1 ≤ s.pool.feeds ∧
    (s.pool.feeds = 1 → s.pool.waiting = [])

/-- The session after a move; `none` if the move is not possible now. -/
def step? (s : Session) : Move → Option Session
  | .attach => if s.stage = .serving then some { s with pool := s.pool.attach } else none
  | .detach => if s.canDetach then some { s with pool := s.pool.detach } else none
  | .submit client rules stream troubles =>
    -- While the pool is closing only the handles that are still out lead to it.
    if s.stage = .closing ∧ !s.pool.isOpen then none
    else
      let number := s.visitors.length
      let (pool, journal) := s.pool.enroll number client rules stream (troubles.map .note)
      some { s with
        pool
        stats := s.stats.record journal
        visitors := s.visitors ++ [⟨number, client, rules, stream⟩]
        crowd := max s.crowd pool.unfinished.length }
  | .act clock action => do
    let (pool, journal) ← s.pool.act? clock action
    some { s with
      pool
      stats := s.stats.record journal
      admitted := s.admitted ++ (s.pool.admits? action).toList
      refused := s.refused ++ (s.pool.refuses? action).toList }
  | .shutdown =>
    if s.stage = .serving ∧ (s.pool.feeds = 1 → s.pool.waiting = []) then
      some { s with pool := s.pool.detach, stage := .closing }
    else none
  | .join =>
    if s.stage = .closing ∧ s.pool.isDone then
      some { s with pool := s.pool.join, stage := .closed s.visitors.length }
    else none

inductive Reachable (workers capacity : Nat) : Session → Prop
  | start : Reachable workers capacity (start workers capacity)
  | step {s next : Session} (move : Move) (before : Reachable workers capacity s)
      (moved : s.step? move = some next) : Reachable workers capacity next

def run (s : Session) : List Move → Option Session
  | [] => some s
  | move :: moves => do (← s.step? move).run moves

end Session

end Pool

end TimeServer
