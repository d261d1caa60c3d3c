import TimeServer.Server

/-! # Starting and stopping

A call that starts or stops a server, as a sequence of atomic steps.  A `Task` says where such a
call stands; `Server.advance` makes its next step, or none while the call has to wait for the lock
or for threads to end.

* starting: enter the phase, take the lock, bind the socket, hire the workers, open the phase,
  create the accept thread, fill the slot, release the lock; what was set up is undone in reverse
  if a step fails;
* stopping: enter the phase, empty the slot, wake the accept thread and wait for it, close the
  queue and wait for the workers, store the phase.

`Server.start` and `Server.stop` carry a call out alone, letting the threads move in between.
-/

namespace TimeServer

inductive Task
  -- A start, in the order of its steps.
  | entering
  | locking
  | binding
  | hiring (run : Nat)
  -- The phase is to be set to running.
  | opening (run : Nat)
  | launching (run : Nat)
  -- The workers already hired are to be waited for.
  | dismissing (run : Nat) (error : ServerError)
  -- The slot is to be filled and the start reported.
  | filling (run : Nat)
  -- The phase is to be set back and the failure reported.
  | failing (error : ServerError)
  | releasing (result : Except ServerError SocketAddress)
  | started (result : Except ServerError SocketAddress)
  -- A stop.
  | halting
  | emptying
  | waking (run : Nat)
  -- The accept thread is to be waited for.
  | joining (run : Nat)
  -- The workers are to be waited for.
  | draining (run : Nat)
  | settling
  | stopped

namespace Server

def workerCount (s : Server) : Nat := max 1 s.settings.workerThreads.toNat

/-- The address that reaches a listening socket from its own host. -/
def wakeTarget (address : SocketAddress) : SocketAddress :=
  match address.ip with
  | .v4 ip => if ip = .unspecified then ⟨.v4 .localhost, address.port⟩ else address
  | .v6 ip => if ip = .unspecified then ⟨.v6 .localhost, address.port⟩ else address

/-- Connects to the socket of a run, so that the accept thread looks at the phase again.  The
    source of the connection is made known before it is made. -/
def wake (s : Server) (i : Nat) (run : Run) : Server :=
  let target := wakeTarget run.address
  let (port, network) := s.network.takePort
  let source : SocketAddress := ⟨target.ip, port⟩
  let (result, network) := network.connect source target {}
  -- Remembered also when the connection fails, since the thread may see it all the same.
  let s := { s with network }.setRun i { run with wakePeer := some source }
  match result with
  | .error e =>
    if e.kind = .connectionRefused ∨ e.kind = .connectionReset then s.note (.alreadyClosed target)
    else s.note (.wakeFailed target e)
  | .ok _ =>
    -- The call may report an error although the connection was made.
    match s.network.trip .connectLate with
    | (none, network) => { s with network }
    | (some e, network) =>
      let s := { s with network }
      if e.kind = .connectionRefused ∨ e.kind = .connectionReset then s.note (.alreadyClosed target)
      else s.note (.wakeFailed target e)

def bindRun (s : Server) : Except ServerError Run × Server :=
  match s.settings.socketAddress s.network.rules.lookup with
  | .error e => (.error e, s)
  | .ok address =>
    match s.network.bind? address s.settings.dualStack with
    | (.error e, network) => (.error (.bind address.text e), { s with network })
    | (.ok endpoint, network) =>
      (.ok ⟨endpoint.number, endpoint.address, .ofCapacity s.settings.maxConnections.toNat,
        .absent, none⟩, { s with network })

def hire (s : Server) (i : Nat) (run : Run) : Task × Server :=
  if run.pool.workers.length < s.workerCount then
    match s.network.trip .spawnThread with
    | (some e, network) =>
      (.dismissing i (.spawn .worker e),
        { s with network }.setRun i { run with pool := run.pool.detach })
    | (none, network) =>
      (.hiring i, { s with network }.setRun i { run with pool := run.pool.hire })
  else (.opening i, s.setRun i { run with pool := run.pool.attach })

/-- Creates the accept thread; on failure closes the queue. -/
def launch (s : Server) (i : Nat) (run : Run) : Task × Server :=
  match s.network.trip .spawnThread with
  | (some e, network) =>
    -- Both handles go: the one of the pool and the one meant for the accept thread.
    (.dismissing i (.spawn .accept e),
      { s with network }.setRun i { run with pool := run.pool.detach.detach })
  | (none, network) =>
    (.filling i, { s with network }.setRun i { run with acceptor := .accepting .serving })

def fill (s : Server) (i : Nat) (run : Run) : Task × Server :=
  (.releasing (.ok run.address),
    { s with slot := some i }.note
      (.listening run.address run.pool.workers.length s.settings.stratum s.settings.referenceId))

/-- The next step of a call; `none` if it has to wait or is over. -/
def advance (s : Server) : Task → Option (Task × Server)
  | .entering =>
    match s.phase.transition .stopped .starting with
    | .ok phase => some (.locking, { s with phase })
    | .error observed => some (.started (.error (.alreadyStarted observed)), s)
  | .locking => if s.locked then none else some (.binding, { s with locked := true })
  | .binding =>
    match s.bindRun with
    | (.error e, s) => some (.failing e, s)
    | (.ok run, s) => some (.hiring s.runs.length, { s with runs := s.runs ++ [run] })
  | .hiring i => do return s.hire i (← s.runs[i]?)
  | .opening i => some (.launching i, { s with phase := .running })
  | .launching i => do return s.launch i (← s.runs[i]?)
  | .dismissing i e => do
    let run ← s.runs[i]?
    if run.pool.isDone then
      let s := { s with network := s.network.close run.endpoint }
      some (.failing e, s.setRun i { run with pool := run.pool.join })
    else none
  | .filling i => do return s.fill i (← s.runs[i]?)
  | .failing e => some (.releasing (.error e), { s with phase := .stopped }.note (.startFailed e))
  | .releasing result => some (.started result, { s with locked := false })
  | .started _ => none
  | .halting =>
    match s.phase.transition .running .stopping with
    | .ok phase => some (.emptying, { s with phase }.note .stopping)
    -- Not running, or another call is on its way: there is nothing to stop.
    | .error _ => some (.stopped, s)
  | .emptying =>
    if s.locked then none
    else
      match s.slot with
      | some i => some (.waking i, { s with slot := none })
      | none => some (.settling, s)
  | .waking i => do return (.joining i, s.wake i (← s.runs[i]?))
  | .joining i => do
    let run ← s.runs[i]?
    if run.acceptor = .exited then
      some (.draining i, s.setRun i { run with pool := run.pool.detach })
    else none
  | .draining i => do
    let run ← s.runs[i]?
    if run.pool.isDone then
      some (.settling, s.setRun i { run with pool := run.pool.join })
    else none
  | .settling =>
    some (.stopped,
      { s with phase := .stopped }.note (.stopped s.stats.total s.stats.packetsSent))
  | .stopped => none

/-- An upper bound on the steps of a call: every task is met once, but a worker is hired each
    time. -/
def taskSteps (s : Server) : Nat := s.workerCount + 12

/-- Carries a call out, letting the threads come to rest after each of its steps. -/
def carryOut (s : Server) : (limit : Nat) → Task → Task × Server
  | 0, task => (task, s)
  | limit + 1, task =>
    match s.advance task with
    | none => (task, s)
    | some (task, s) => s.settle.carryOut limit task

def start (s : Server) : Except ServerError SocketAddress × Server :=
  match s.carryOut s.taskSteps .entering with
  | (.started result, s) => (result, s)
  | (_, s) => (.error (.alreadyStarted s.phase), s)

def stop (s : Server) : Server := (s.carryOut s.taskSteps .halting).2

end Server

end TimeServer
