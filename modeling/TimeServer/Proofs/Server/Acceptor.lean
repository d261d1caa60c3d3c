import TimeServer.Proofs.Network
import TimeServer.Proofs.Pool.Visitor
import TimeServer.Server

/-! # What the accept thread does

* `Run.Step` — the moves of the accept thread as a relation, one case for each kind, by what they do
  to the network, to the run and to the shared state;
* `step_of_moveAcceptor?` — there are no others.
-/

namespace TimeServer

/-- The client of an arrival, under the rules of the server. -/
def Arrival.visitor (arrival : Arrival) (rules : AccessRules) : Visitor :=
  ⟨arrival.number, clientAddress arrival.peer, rules, arrival.stream⟩

namespace Server

/-- How the accept thread goes on after an accept call that was worth a look at the phase. -/
def nextMode (s : Server) (network : Network) : Mode → Mode
  | .serving =>
    if s.phase = .running then .serving else .draining (network.trip .setNonblocking).1.isNone
  | .draining canPoll => .draining canPoll

end Server

/-- An accept call of the accept thread fails: when it is made, or when it has taken a connection.
    -/
inductive Run.Fails (run : Run) (n : Network) (mode : Mode) (e : IoError) : Network → Prop
  | early {faults : List Fault} (accepting : run.acceptor = .accepting mode)
      (polls : mode ≠ .draining false) (failed : n.trip .accept = (some e, { n with faults }))
      (spent : Network.Spent n.faults faults) : Fails run n mode e { n with faults }
  | late {network : Network} (calling : run.acceptor = .calling mode)
      (failed : n.take? run.endpoint = (some (.error e), network)) : Fails run n mode e network

/-- The moves of the accept thread of a run: the network and the run after each, and what it does to
    the shared state. -/
inductive Run.Step (s : Server) (run : Run) : Network → Run → Journal → Prop
  -- There is room again, or the queue was closed.
  | ready {mode : Mode} (handing : run.acceptor = .handing mode) (empty : run.pool.waiting = [])
      (isOpen : run.pool.isOpen) :
      Step s run s.network { run with acceptor := .accepting mode } []
  | shut {mode : Mode} (handing : run.acceptor = .handing mode) (empty : run.pool.waiting = [])
      (closed : run.pool.isOpen = false) :
      Step s run s.network { run with acceptor := .closing } []
  -- An accept call is made.
  | call {mode : Mode} {faults : List Fault} (accepting : run.acceptor = .accepting mode)
      (polls : mode ≠ .draining false) (spent : Network.Spent s.network.faults faults) :
      Step s run { s.network with faults } { run with acceptor := .calling mode } []
  -- It takes a client, who is taken on, or somebody who only came to wake the thread.
  | take {mode : Mode} {arrival : Arrival} {network : Network} {faults : List Fault}
      (before after : List Notice) (calling : run.acceptor = .calling mode)
      (taken : s.network.take? run.endpoint = (some (.ok arrival), network))
      (spent : Network.Spent network.faults faults)
      (isClient : s.nextMode network mode = .serving ∨ run.wakePeer ≠ some arrival.peer) :
      Step s run { network with faults }
        { run with
          pool := run.pool.offer (arrival.visitor s.rules).ticket
          acceptor := .handing (s.nextMode network mode) }
        (before.map .note ++ .count .opened :: after.map .note)
  | dismiss {mode : Mode} {arrival : Arrival} {network : Network} {faults : List Fault}
      (before : List Notice) (calling : run.acceptor = .calling mode)
      (taken : s.network.take? run.endpoint = (some (.ok arrival), network))
      (spent : Network.Spent network.faults faults)
      (drains : s.nextMode network mode ≠ .serving) (wakes : run.wakePeer = some arrival.peer) :
      Step s run { network with faults }
        { run with acceptor := .accepting (s.nextMode network mode) } (before.map .note)
  -- It fails, and the thread goes on or accepts no more.
  | retry {mode next : Mode} {e : IoError} {network : Network} {faults : List Fault}
      (before : List Notice) (failed : run.Fails s.network mode e network)
      (spent : Network.Spent network.faults faults)
      (goesOn : e.isInterrupted ∧ next = mode ∨
        e.isInterrupted = false ∧ mode = .serving ∧ next = s.nextMode network mode) :
      Step s run { network with faults } { run with acceptor := .accepting next }
        (before.map .note)
  | broken {canPoll : Bool} {e : IoError} {network : Network}
      (failed : run.Fails s.network (.draining canPoll) e network)
      (fatal : e.isInterrupted = false) :
      Step s run network { run with acceptor := .closing } []
  -- The thread cannot look for clients that wait, or nobody waits any more.
  | blind (accepting : run.acceptor = .accepting (.draining false)) :
      Step s run s.network { run with acceptor := .closing } []
  | drained {canPoll : Bool} (calling : run.acceptor = .calling (.draining canPoll))
      (empty : s.network.backlog run.endpoint = []) :
      Step s run s.network { run with acceptor := .closing } []
  | close (closing : run.acceptor = .closing) :
      Step s run (s.network.close run.endpoint)
        { run with pool := run.pool.detach, acceptor := .exited } [.note .acceptLoopExiting]

namespace Server

/-- The server after its network, one run and the shared state have changed. -/
def change (s : Server) (network : Network) (i : Nat) (run : Run) (journal : Journal) : Server :=
  ({ s with network }.setRun i run).record journal

variable {s : Server} {i : Nat} {run : Run}

theorem record_change (s : Server) (before journal : Journal) (network : Network) :
    (s.record before).change network i run journal =
      s.change network i run (before ++ journal) := by
  simp [change, setRun, record, Stats.record_append]

theorem run_of_change {network : Network} {run' other : Run} {journal : Journal} {j : Nat}
    (at_other : (s.change network i run' journal).runs[j]? = some other) :
    j = i ∧ other = run' ∨ j ≠ i ∧ s.runs[j]? = some other := by
  simp only [change, setRun, record, List.getElem?_set] at at_other
  split at at_other
  · rename_i same
    split at at_other
    · cases at_other
      exact .inl ⟨same.symm, rfl⟩
    · cases at_other
  · rename_i distinct
    exact .inr ⟨Ne.symm distinct, at_other⟩

@[simp] theorem length_runs_change (s : Server) (network : Network) (i : Nat) (run : Run)
    (journal : Journal) : (s.change network i run journal).runs.length = s.runs.length := by
  simp [change, setRun, record]

theorem sum_split (at_run : s.runs[i]? = some run) (measure : Run → Nat) :
    ∃ others, (s.runs.map measure).sum = others + measure run ∧ ∀ network run' journal,
      ((s.change network i run' journal).runs.map measure).sum = others + measure run' := by
  obtain ⟨before, after, split, rfl⟩ := split_at_place at_run
  refine ⟨(before.map measure).sum + (after.map measure).sum, ?_, fun network run' journal => ?_⟩
  · simp only [split, List.map_append, List.map_cons, List.sum_append, List.sum_cons]
    omega
  · simp [change, setRun, record, split]
    omega

theorem takeOn_eq (s : Server) (i : Nat) (run : Run) (arrival : Arrival) (mode : Mode) :
    ∃ faults after, Network.Spent s.network.faults faults ∧
      s.takeOn i run arrival mode =
        s.change { s.network with faults } i
          { run with
            pool := run.pool.offer (arrival.visitor s.rules).ticket
            acceptor := .handing mode }
          (.count .opened :: List.map .note after) := by
  have spent := Network.spent_takeFault .setTimeout s.network.faults
  rcases tripped : Network.takeFault .setTimeout s.network.faults with ⟨_ | code, faults⟩
  · rw [tripped] at spent
    refine ⟨faults, [.accepted (clientAddress arrival.peer)], spent, ?_⟩
    simp only [takeOn, Network.trip, tripped]
    rfl
  · rw [tripped] at spent
    refine ⟨faults, [.timeoutsFailed arrival.peer (.os code),
      .accepted (clientAddress arrival.peer)], spent, ?_⟩
    simp only [takeOn, Network.trip, tripped]
    rfl

theorem beginDraining_eq (s : Server) :
    ∃ faults before, Network.Spent s.network.faults faults ∧
      s.beginDraining = (.draining (s.network.trip .setNonblocking).1.isNone,
        { s with network.faults := faults }.record (List.map .note before)) := by
  have spent := Network.spent_takeFault .setNonblocking s.network.faults
  rcases tripped : Network.takeFault .setNonblocking s.network.faults with ⟨_ | code, faults⟩
  · rw [tripped] at spent
    refine ⟨faults, [], spent, ?_⟩
    simp [beginDraining, Network.trip, tripped, record]
  · rw [tripped] at spent
    refine ⟨faults, [.cannotDrain (.os code)], spent, ?_⟩
    simp [beginDraining, Network.trip, tripped, note]

/-- An arrival that is looked at after the phase: a client is taken on, the wake-up is not. -/
theorem step_of_takeOnClient (before : List Notice) {faults : List Fault} {mode : Mode}
    {arrival : Arrival} {network : Network} (calling : run.acceptor = .calling mode)
    (taken : s.network.take? run.endpoint = (some (.ok arrival), network))
    (spent : Network.Spent network.faults faults) (drains : s.nextMode network mode ≠ .serving) :
    ∃ network' run' journal, Run.Step s run network' run' journal ∧
      ({ s with network := { network with faults } }.record (before.map .note)).takeOnClient i run
        arrival (s.nextMode network mode) = s.change network' i run' journal := by
  unfold takeOnClient
  split
  · rename_i wakes
    exact ⟨_, _, _, .dismiss before calling taken spent drains wakes,
      by simp [change, record, setRun]⟩
  · rename_i isClient
    obtain ⟨faults', after, spent', taken_on⟩ := takeOn_eq
      ({ s with network := { network with faults } }.record (before.map .note)) i run arrival
      (s.nextMode network mode)
    refine ⟨_, _, _, .take before after calling taken (spent.trans spent') (.inr isClient), ?_⟩
    rw [taken_on, record_change]
    rfl

theorem nextMode_of_running (running : s.phase = .running) (network : Network) :
    s.nextMode network .serving = .serving := by
  simp [nextMode, running]

theorem nextMode_of_halted (halted : s.phase ≠ .running) (network : Network) :
    s.nextMode network .serving = .draining (network.trip .setNonblocking).1.isNone := by
  simp [nextMode, halted]

theorem step_of_failAccept {mode : Mode} {e : IoError} {network : Network}
    (failed : run.Fails s.network mode e network) :
    ∃ network' run' journal, Run.Step s run network' run' journal ∧
      { s with network }.failAccept i run mode e = s.change network' i run' journal := by
  unfold failAccept
  split
  · rename_i interrupted
    exact ⟨_, _, _, .retry [] failed (.refl network.faults) (.inl ⟨interrupted, rfl⟩),
      by simp [change, record, setRun]⟩
  · rename_i fatal
    have fatal : e.isInterrupted = false := by simpa using fatal
    cases mode with
    | serving =>
      simp only
      split
      · rename_i running
        refine ⟨_, _, _, .retry [.acceptFailed e] failed (.refl network.faults)
          (.inr ⟨fatal, rfl, rfl⟩), ?_⟩
        rw [nextMode_of_running running network]
        rfl
      · rename_i halted
        obtain ⟨faults, before, spent, began⟩ := beginDraining_eq { s with network }
        refine ⟨_, _, _, .retry before failed spent (.inr ⟨fatal, rfl, rfl⟩), ?_⟩
        rw [began, nextMode_of_halted halted network]
        rfl
    | draining canPoll =>
      exact ⟨_, _, _, .broken failed fatal, by simp [change, record, setRun]⟩

theorem step_of_accepting {mode : Mode} {next : Server} (polls : mode ≠ .draining false)
    (acceptor : run.acceptor = .accepting mode) (moved : s.moveAcceptor? i run = some next) :
    ∃ network run' journal, Run.Step s run network run' journal ∧
      next = s.change network i run' journal := by
  -- Both modes come to the same branch.
  have mode_cases : mode = .serving ∨ mode = .draining true := by
    cases mode with
    | serving => exact .inl rfl
    | draining canPoll => cases canPoll <;> simp at polls ⊢
  obtain ⟨faults, spent, passed | ⟨code, failed, _⟩⟩ := s.network.trip_cases .accept
  · obtain rfl | rfl := mode_cases
    all_goals
      simp only [moveAcceptor?, acceptor, passed] at moved
      cases moved
      exact ⟨_, _, _, .call acceptor polls spent, by simp [change, record]⟩
  · obtain rfl | rfl := mode_cases
    all_goals
      simp only [moveAcceptor?, acceptor, failed] at moved
      cases moved
      exact step_of_failAccept (.early acceptor polls failed spent)

theorem step_of_calling {mode : Mode} {next : Server} (acceptor : run.acceptor = .calling mode)
    (moved : s.moveAcceptor? i run = some next) :
    ∃ network run' journal, Run.Step s run network run' journal ∧
      next = s.change network i run' journal := by
  simp only [moveAcceptor?, acceptor] at moved
  rcases taken : s.network.take? run.endpoint with ⟨_ | result, network⟩
  · simp only [taken] at moved
    cases mode with
    | serving => cases moved
    | draining canPoll =>
      cases moved
      exact ⟨_, _, _, .drained acceptor (Network.backlog_of_take?_none taken).1,
        by simp [change, record]⟩
  · simp only [taken] at moved
    cases result with
    | error e =>
      cases moved
      exact step_of_failAccept (.late acceptor taken)
    | ok arrival =>
      cases mode with
      | serving =>
        simp only at moved
        split at moved
        · rename_i running
          have mode_eq := nextMode_of_running running network
          obtain ⟨faults, after, spent, taken_on⟩ :=
            takeOn_eq { s with network } i run arrival .serving
          cases moved
          refine ⟨_, _, _, .take [] after acceptor taken spent (.inl mode_eq), ?_⟩
          rw [taken_on, mode_eq]
          rfl
        · -- The client came in the same instant as the halt, and is looked at like those behind it.
          rename_i halted
          have mode_eq := nextMode_of_halted halted network
          obtain ⟨faults, before, spent, began⟩ := beginDraining_eq { s with network }
          rw [began] at moved
          cases moved
          rw [← mode_eq]
          exact step_of_takeOnClient before acceptor taken spent (by simp [mode_eq])
      | draining canPoll =>
        cases moved
        have step := step_of_takeOnClient (i := i) [] acceptor taken (.refl network.faults)
          (by simp [nextMode])
        simpa [nextMode, record] using step

theorem step_of_moveAcceptor? {next : Server} (moved : s.moveAcceptor? i run = some next) :
    ∃ network run' journal, Run.Step s run network run' journal ∧
      next = s.change network i run' journal := by
  cases acceptor : run.acceptor with
  | absent | exited => simp [moveAcceptor?, acceptor] at moved
  | handing mode =>
    simp only [moveAcceptor?, acceptor] at moved
    split at moved
    · cases moved
    · rename_i waiting
      have empty : run.pool.waiting = [] := not_not.1 waiting
      split at moved
      · rename_i isOpen
        cases moved
        exact ⟨_, _, _, .ready acceptor empty isOpen, by simp [change, record]⟩
      · rename_i closed
        cases moved
        exact ⟨_, _, _, .shut acceptor empty (by simpa using closed), by simp [change, record]⟩
  | closing =>
    simp only [moveAcceptor?, acceptor] at moved
    cases moved
    exact ⟨_, _, _, .close acceptor, rfl⟩
  | calling mode => exact step_of_calling acceptor moved
  | accepting mode =>
    by_cases polls : mode = .draining false
    · subst polls
      simp only [moveAcceptor?, acceptor] at moved
      cases moved
      exact ⟨_, _, _, .blind acceptor, by simp [change, record]⟩
    · exact step_of_accepting polls acceptor moved

end Server

end TimeServer
