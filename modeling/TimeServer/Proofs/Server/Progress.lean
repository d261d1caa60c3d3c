import TimeServer.Proofs.Pool.Progress
import TimeServer.Proofs.Server.Runs

/-! # Progress of the threads

Left alone, the threads of a server come to rest.

* `Server.Move`, `move_of_move?` — a move of a server is that of an accept thread or of a pool;
* `Move.effort_lt` — every move uses up some of the effort that is left;
* `rest_of_moveFor` — with enough moves the threads come to rest;
* `calling_of_rest` — where the accept thread of a run stands then.
-/

namespace TimeServer

namespace Server

variable {s next : Server} {i : Nat} {run run' : Run} {network : Network} {journal : Journal}

/-- A move of the threads of one run. -/
inductive Move (s : Server) : Server → Prop
  | accept {i : Nat} {run run' : Run} {network : Network} {journal : Journal}
      (at_run : s.runs[i]? = some run) (step : Run.Step s run network run' journal) :
      Move s (s.change network i run' journal)
  | work {i : Nat} {run : Run} {action : Pool.Action} {pool : Pool} {journal : Journal}
      (at_run : s.runs[i]? = some run) (step : Pool.Step s.clock run.pool action journal pool) :
      Move s (s.change s.network i { run with pool } journal)

theorem move_of_move? (moved : s.move? = some next) : s.Move next := by
  obtain ⟨i, _, moved⟩ := List.exists_of_findSome?_eq_some moved
  obtain ⟨run, at_run, moved⟩ := Option.bind_eq_some_iff.1 moved
  cases accepted : s.moveAcceptor? i run with
  | some server =>
    rw [accepted] at moved
    cases moved
    obtain ⟨network, run', journal, step, rfl⟩ := step_of_moveAcceptor? accepted
    exact .accept at_run step
  | none =>
    rw [accepted] at moved
    obtain ⟨⟨pool, journal⟩, worked, moved⟩ := Option.bind_eq_some_iff.1 moved
    cases moved
    obtain ⟨action, step⟩ := Pool.step_of_next? worked
    exact .work at_run step

theorem Move.spent (move : s.Move next) : Network.Spent s.network.faults next.network.faults := by
  cases move with
  | accept _ step => exact step.spent
  | work => exact .refl _

theorem of_move?_eq_none (rest : s.move? = none) (at_run : s.runs[i]? = some run) :
    s.moveAcceptor? i run = none ∧ run.pool.next? s.clock = none := by
  have bound : i < s.runs.length := (List.getElem?_eq_some_iff.1 at_run).1
  have stuck := List.findSome?_eq_none_iff.1 rest i (List.mem_range.2 bound)
  simp only [moveRun?, at_run, Option.bind_eq_bind, Option.bind_some] at stuck
  cases accepted : s.moveAcceptor? i run with
  | some server =>
    rw [accepted] at stuck
    cases stuck
  | none =>
    rw [accepted] at stuck
    refine ⟨rfl, ?_⟩
    cases worked : run.pool.next? s.clock with
    | none => rfl
    | some outcome =>
      rw [movePool?, worked] at stuck
      cases stuck

/-! ## Effort -/

theorem effort_of_take? {result : Except IoError Arrival} {number : Nat}
    (distinct : (s.network.sockets.map Endpoint.number).Nodup)
    (taken : s.network.take? number = (some result, network)) :
    12 * network.pending + network.faults.length + 12 ≤
      12 * s.network.pending + s.network.faults.length := by
  obtain ⟨one, fewer⟩ := Network.pending_of_take? distinct taken
  omega

theorem effort_of_fails {mode : Mode} {e : IoError}
    (distinct : (s.network.sockets.map Endpoint.number).Nodup)
    (failed : run.Fails s.network mode e network) :
    12 * network.pending + network.faults.length + 3 <
      run.acceptor.effort + 12 * s.network.pending + s.network.faults.length := by
  cases failed with
  | @early faults accepting _ failed =>
    have fewer : faults.length < s.network.faults.length := Network.length_of_trip failed
    rw [accepting]
    simp only [Acceptor.effort, Network.pending]
    omega
  | late calling failed =>
    have fewer := effort_of_take? distinct failed
    rw [calling]
    simp only [Acceptor.effort]
    omega

/-- A move of an accept thread uses up some of the effort of its run and of the sockets. -/
theorem effort_of_step (sound : s.network.Sound) (step : Run.Step s run network run' journal) :
    run'.pool.effort + run'.acceptor.effort + (12 * network.pending + network.faults.length) <
      run.pool.effort + run.acceptor.effort +
        (12 * s.network.pending + s.network.faults.length) := by
  cases step with
  | ready here | shut here | blind here | drained here =>
    rw [here]
    simp only [Acceptor.effort]
    omega
  | call here _ spent =>
    have spent := spent.length_le
    rw [here]
    simp only [Acceptor.effort, Network.pending]
    omega
  | @take mode arrival network faults before after calling taken spent =>
    have fewer := effort_of_take? sound.distinct taken
    have offered : (run.pool.offer (arrival.visitor s.rules).ticket).effort =
        run.pool.effort + 6 := by
      simp only [Pool.effort, Pool.offer, List.length_append, List.length_singleton]
      omega
    have spent := spent.length_le
    have same : { network with faults }.pending = network.pending := rfl
    rw [calling, offered, same]
    simp only [Acceptor.effort]
    omega
  | @dismiss mode arrival network faults before calling taken spent =>
    have fewer := effort_of_take? sound.distinct taken
    have spent := spent.length_le
    have same : { network with faults }.pending = network.pending := rfl
    rw [calling, same]
    simp only [Acceptor.effort]
    omega
  | @retry mode next e network faults before failed spent =>
    have fewer := effort_of_fails sound.distinct failed
    have spent := spent.length_le
    show run.pool.effort + 3 + (12 * network.pending + faults.length) < _
    omega
  | @broken _ _ network failed =>
    have fewer := effort_of_fails sound.distinct failed
    show run.pool.effort + 1 + (12 * network.pending + network.faults.length) < _
    omega
  | close here =>
    have closed := s.network.pending_close run.endpoint
    have same : (s.network.close run.endpoint).faults = s.network.faults := rfl
    have detached : run.pool.detach.effort = run.pool.effort := rfl
    rw [here, detached, same]
    simp only [Acceptor.effort]
    omega

theorem effort_eq_sum (s : Server) :
    s.effort = (s.runs.map fun run => run.pool.effort + run.acceptor.effort).sum +
      12 * s.network.pending + s.network.faults.length := rfl

theorem Move.effort_lt (sound : s.network.Sound) (move : s.Move next) :
    next.effort < s.effort := by
  cases move with
  | @accept i run run' network journal at_run step =>
    obtain ⟨others, before, after⟩ :=
      sum_split at_run fun run => run.pool.effort + run.acceptor.effort
    have less := effort_of_step sound step
    have after := after network run' journal
    simp only [effort_eq_sum, before, after]
    simp only [change, setRun, record]
    omega
  | @work i run action pool journal at_run step =>
    obtain ⟨others, before, after⟩ :=
      sum_split at_run fun run => run.pool.effort + run.acceptor.effort
    have less := step.effort_lt
    have after := after s.network { run with pool } journal
    simp only [effort_eq_sum, before, after]
    simp only [change, setRun, record]
    omega

/-- With enough moves the threads come to rest, and what every move keeps still holds. -/
theorem rest_of_moveFor {P : Server → Prop} (sound : ∀ s, P s → s.network.Sound)
    (kept : ∀ s next, P s → s.Move next → P next) :
    ∀ (limit : Nat) (s : Server), P s → s.effort ≤ limit →
      P (moveFor limit s) ∧ (moveFor limit s).move? = none
  | 0, s, here, enough => by
    refine ⟨here, ?_⟩
    cases moved : s.move? with
    | none => exact moved
    | some next =>
      have less := (move_of_move? moved).effort_lt (sound s here)
      omega
  | limit + 1, s, here, enough => by
    rw [moveFor]
    cases moved : s.move? with
    | none => exact ⟨here, moved⟩
    | some next =>
      have move := move_of_move? moved
      have less := move.effort_lt (sound s here)
      exact rest_of_moveFor sound kept limit next (kept s next here move) (by omega)

/-- What every move of a thread keeps still holds when the threads have moved. -/
theorem settle_keeps {P : Server → Prop} (kept : ∀ s next, P s → s.Move next → P next)
    (here : P s) : P s.settle := by
  have moves : ∀ (limit : Nat) (s : Server), P s → P (moveFor limit s) := by
    intro limit
    induction limit with
    | zero => exact fun s here => here
    | succ limit ih =>
      intro s here
      rw [moveFor]
      cases moved : s.move? with
      | none => exact here
      | some next => exact ih next (kept s next here (move_of_move? moved))
  exact moves s.effort s here

theorem settle_of_rest (rest : s.move? = none) : s.settle = s := by
  unfold settle
  cases s.effort with
  | zero => rfl
  | succ limit => rw [moveFor, rest]

/-! ## Rest -/

/-- At rest, an accept thread that is there waits for clients, nobody waits at its socket, and its
    pool is empty. -/
theorem calling_of_rest {stage : Run.Stage} (rest : s.move? = none)
    (at_run : s.runs[i]? = some run) (kept : run.Kept s.network stage)
    (alive : run.acceptor.isAlive) :
    run.acceptor = .calling .serving ∧ s.network.backlog run.endpoint = [] ∧
      run.pool.waiting = [] ∧ run.pool.queue = [] ∧
        ∀ worker ∈ run.pool.workers, worker = .idle := by
  obtain ⟨acceptor_rest, pool_rest⟩ := of_move?_eq_none rest at_run
  obtain ⟨_, fed, staffed, _⟩ := kept.of_alive alive
  have isOpen : run.pool.isOpen := by simp [Pool.isOpen, fed]
  obtain ⟨waiting, idle⟩ := Pool.idle_of_open pool_rest kept.sound isOpen staffed kept.roomy
  cases acceptor : run.acceptor with
  | absent | exited => simp [acceptor, Acceptor.isAlive] at alive
  | handing mode => simp [moveAcceptor?, acceptor, waiting, isOpen] at acceptor_rest
  | closing => simp [moveAcceptor?, acceptor] at acceptor_rest
  | accepting mode =>
    rcases tripped : s.network.trip .accept with ⟨_ | e, network⟩
    all_goals
      rcases mode with _ | _ | _ <;> simp [moveAcceptor?, acceptor, tripped] at acceptor_rest
  | calling mode =>
    rcases taken : s.network.take? run.endpoint with ⟨_ | e | arrival, network⟩
    · obtain ⟨empty, _⟩ := Network.backlog_of_take?_none taken
      cases mode with
      | serving => exact ⟨rfl, empty, waiting, idle⟩
      | draining => simp [moveAcceptor?, acceptor, taken] at acceptor_rest
    · simp [moveAcceptor?, acceptor, taken] at acceptor_rest
    · cases mode with
      | serving =>
        simp only [moveAcceptor?, acceptor, taken] at acceptor_rest
        split at acceptor_rest <;> cases acceptor_rest
      | draining => simp [moveAcceptor?, acceptor, taken] at acceptor_rest

end Server

end TimeServer
