import TimeServer.Connection

/-! # The worker pool

A fixed number of workers takes connections from a bounded queue.  A submitter that finds the queue
full waits for room.  The queue is fed through handles; when the last handle is given back no
connection is taken in any more, the workers empty the queue, and each exits when it finds it empty.

The pool is a system of actors that move one at a time:

* `Pool.Action` — a waiting connection is admitted or handed back, or a worker makes its next move;
* `Pool.act?` — the pool after an action, if the action is possible;
* `Pool.settle` — one schedule of them: lets the actors move, one after another, until none can.
-/

namespace TimeServer

structure Ticket where
  number : Nat
  connection : Connection
  deriving DecidableEq, Repr

inductive Worker
  | idle
  | took (ticket : Ticket)
  /-- Has served a connection, or was broken by its stream while doing so. -/
  | served (ticket : Ticket) (broken : Bool)
  | closed (ticket : Ticket)
  | exited
  deriving DecidableEq, Repr

namespace Worker

/-- An upper bound on the moves that a worker makes before it exits or takes another connection. -/
def effort : Worker → Nat
  | idle => 1
  | took _ => 4
  | served .. => 3
  | closed _ => 2
  | exited => 0

def ticket? : Worker → Option Ticket
  | idle | exited => none
  | took ticket | served ticket _ | closed ticket => some ticket

end Worker

structure Pool where
  capacity : Nat
  /-- How many handles feed the queue. -/
  feeds : Nat := 1
  /-- Connections that wait for room in the queue, held by their submitters. -/
  waiting : List Ticket := []
  queue : List Ticket := []
  workers : List Worker := []
  finished : List Ticket := []
  deriving DecidableEq, Repr

inductive Pool.Action
  | enqueue (place : Nat)
  | refuse (place : Nat)
  | work (worker : Nat)
  deriving DecidableEq, Repr

namespace Pool

def ofCapacity (capacity : Nat) : Pool := { capacity := max 1 capacity }

def held (pool : Pool) : List Ticket := pool.workers.filterMap Worker.ticket?

def unfinished (pool : Pool) : List Ticket := pool.waiting ++ pool.queue ++ pool.held

def hire (pool : Pool) : Pool := { pool with workers := pool.workers ++ [.idle] }

def attach (pool : Pool) : Pool := { pool with feeds := pool.feeds + 1 }

def detach (pool : Pool) : Pool := { pool with feeds := pool.feeds - 1 }

def offer (pool : Pool) (ticket : Ticket) : Pool :=
  { pool with waiting := pool.waiting ++ [ticket] }

/-- A submitter comes with a new connection, which is counted and announced; `setup` is what
    happened between the two. -/
def enroll (pool : Pool) (number : Nat) (client : String) (rules : AccessRules) (stream : Stream)
    (setup : Journal := []) : Pool × Journal :=
  let turn := Connection.establish client rules stream
  (pool.offer ⟨number, turn.connection⟩, .count .opened :: setup ++ turn.journal)

def isOpen (pool : Pool) : Bool := 0 < pool.feeds

def isDone (pool : Pool) : Bool := pool.workers.all (· == .exited)

def join (pool : Pool) : Pool := { pool with workers := [] }

def setWorker (pool : Pool) (id : Nat) (worker : Worker) : Pool :=
  { pool with workers := pool.workers.set id worker }

def isPanic {α : Type} : Except Failure α → Bool
  | .error .panic => true
  | _ => false

/-- The next move of a worker.  A connection that broke its worker is closed all the same. -/
def work? (pool : Pool) (clock : Clock) (id : Nat) : Worker → Option (Pool × Journal)
  | .idle =>
    match pool.queue with
    | ticket :: queue => some ({ pool with queue }.setWorker id (.took ticket), [])
    | [] =>
      -- An open queue may still be fed, so the worker waits; a shut one stays empty.
      if pool.isOpen then none
      else some (pool.setWorker id .exited, [.note (.workerExiting id)])
  | .took ticket =>
    let turn := ticket.connection.serve clock
    some (pool.setWorker id (.served { ticket with connection := turn.connection }
      (isPanic turn.result)), turn.journal)
  | .served ticket broken =>
    -- Broken or not, the stream is released: the worker outlives its panic.
    let turn := ticket.connection.close
    let alarm : Journal :=
      if broken then [.note (.recovered id ticket.connection.client)] else []
    some (pool.setWorker id (.closed { ticket with connection := turn.connection }),
      alarm ++ turn.journal)
  | .closed ticket =>
    some
      ({ pool with finished := pool.finished ++ [ticket] }.setWorker id .idle, [.count .finished])
  | .exited => none

/-- The pool after an action, and what the action does to the shared state; `none` if the action
    is not possible now. -/
def act? (pool : Pool) (clock : Clock) : Action → Option (Pool × Journal)
  | .enqueue place => do
    let ticket ← pool.waiting[place]?
    if pool.isOpen ∧ pool.queue.length < pool.capacity then
      some ({ pool with
        waiting := pool.waiting.eraseIdx place, queue := pool.queue ++ [ticket] }, [])
    else none
  | .refuse place => do
    let ticket ← pool.waiting[place]?
    if pool.isOpen then none
    else
      -- No worker will see this connection, so its submitter closes and counts it.
      let turn := ticket.connection.close
      some ({ pool with
        waiting := pool.waiting.eraseIdx place
        finished := pool.finished ++ [{ ticket with connection := turn.connection }] },
        turn.journal ++ [.count .finished])
  | .work id => do pool.work? clock id (← pool.workers[id]?)

def agenda (pool : Pool) : List Action :=
  .enqueue 0 :: .refuse 0 :: (List.range pool.workers.length).map .work

def next? (pool : Pool) (clock : Clock) : Option (Pool × Journal) :=
  pool.agenda.findSome? (pool.act? clock)

/-- An upper bound on the actions that are still to come, if nothing is offered any more: a
    connection makes six moves at most, a worker one besides. -/
def effort (pool : Pool) : Nat :=
  6 * pool.waiting.length + 5 * pool.queue.length +
    (pool.workers.map Worker.effort).foldr (· + ·) 0

def run : (limit : Nat) → Pool → Clock → Pool × Journal
  | 0, pool, _ => (pool, [])
  | limit + 1, pool, clock =>
    match pool.next? clock with
    | none => (pool, [])
    | some (pool, journal) =>
      let (pool, later) := run limit pool clock
      (pool, journal ++ later)

def settle (pool : Pool) (clock : Clock) : Pool × Journal := run pool.effort pool clock

def ofWorkers (workers capacity : Nat) : Pool :=
  { ofCapacity capacity with workers := List.replicate (max 1 workers) .idle }

/-- Closes the queue, lets the workers empty it, and waits for them to end. -/
def shutdown (pool : Pool) (clock : Clock) : Pool × Journal :=
  let (pool, journal) := pool.detach.settle clock
  (pool.join, journal)

end Pool

end TimeServer
