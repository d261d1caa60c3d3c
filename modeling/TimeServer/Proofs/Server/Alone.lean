import TimeServer.Proofs.Server.Progress

/-! # One call at a time

A server on which one call at most is made at a time, by a host on which nothing fails but what a
start asks of it.

* `Server.Alone` — the invariant;
* `alone_of_step`, `alone_of_move` — the steps of the call and the moves of the threads keep it;
* `advance_of_rest` — the call gets on whenever the threads have come to rest;
* `carryOut_over` — so it comes to its end.
-/

namespace TimeServer

/-- Whether a start makes such a call to the host. -/
def Syscall.isForStart : Syscall → Bool
  | .socket | .bind | .listen | .spawnThread => true
  | _ => false

namespace Server

theorem covers_wakeTarget (e : Endpoint) : e.covers (wakeTarget e.address).ip := by
  cases ip : e.address.ip with
  | v4 a =>
    by_cases unspecified : a = .unspecified <;>
      simp [Endpoint.covers, wakeTarget, ip, unspecified, IpAddress.canonical,
        IpAddress.isUnspecified, IpAddress.isIpv6]
  | v6 a =>
    by_cases unspecified : a = .unspecified
    · have family : (IpAddress.v6 .unspecified).canonical.isUnspecified ∧
          (IpAddress.v6 .unspecified).canonical.isIpv6 =
            (IpAddress.v6 .localhost).canonical.isIpv6 := by
        decide
      simp [Endpoint.covers, wakeTarget, ip, unspecified, family]
    · simp [Endpoint.covers, wakeTarget, ip, unspecified]

theorem port_wakeTarget (address : SocketAddress) : (wakeTarget address).port = address.port := by
  unfold wakeTarget
  split <;> split <;> rfl

/-- These are the calls in progress, and only what a start asks of the host can fail. -/
structure Alone (s : Server) (calls : List Task) : Prop where
  ordered : System.Ordered s.phase s.locked s.slot (calls.filter Task.isActing)
    (calls.filter Task.isWaiting)
  kept : s.Kept (s.stage (calls.filter Task.isActing))
  faults : ∀ f ∈ s.network.faults, f.call.isForStart
  /-- Somebody waits at the socket until the accept thread has seen that it was woken. -/
  roused : ∀ (i : Nat) (run : Run), s.stage (calls.filter Task.isActing) i = .woken →
    s.runs[i]? = some run → run.acceptor.isServing → s.network.backlog run.endpoint ≠ []

variable {s next : Server} {calls : List Task} {task task' : Task}

theorem Alone.faultless (alone : s.Alone calls) :
    ∀ f ∈ s.network.faults, f.call ≠ .accept ∧ f.call ≠ .acceptLate := by
  intro f member
  have own := alone.faults f member
  constructor <;> intro same <;> simp [same, Syscall.isForStart] at own

theorem alone_of_idle (ordered : System.Ordered s.phase s.locked s.slot [] [])
    (kept : s.Kept (s.stage [])) (faults : ∀ f ∈ s.network.faults, f.call.isForStart) :
    s.Alone [] :=
  ⟨ordered, kept, faults, fun i run woken => by cases head_of_woken woken⟩

theorem alone_singleton_iff (idle : task.isActing = false ∧ task.isWaiting = false) :
    s.Alone [task] ↔ s.Alone [] := by
  have acts : [task].filter Task.isActing = [] := by rw [List.filter_singleton, idle.1]; rfl
  have waits : [task].filter Task.isWaiting = [] := by rw [List.filter_singleton, idle.2]; rfl
  constructor
  · rintro ⟨ordered, kept, faults, roused⟩
    rw [acts] at ordered kept roused
    rw [waits] at ordered
    exact ⟨ordered, kept, faults, roused⟩
  · rintro ⟨ordered, kept, faults, roused⟩
    refine ⟨?_, ?_, faults, ?_⟩ <;> rw [acts]
    · rw [waits]
      exact ordered
    · exact kept
    · exact roused

theorem idle_of_over (done : task.isOver) : task.isActing = false ∧ task.isWaiting = false := by
  cases task <;> simp [Task.isOver, Task.isActing, Task.isWaiting, Task.hasEmptied] at done ⊢

/-! ## Moves of the threads -/

theorem alone_of_accept {i : Nat} {run run' : Run} {network : Network} {journal : Journal}
    (alone : s.Alone calls) (at_run : s.runs[i]? = some run)
    (step : Run.Step s run network run' journal) :
    (s.change network i run' journal).Alone calls := by
  obtain ⟨live, kept⟩ := kept_of_accept alone.kept at_run step
  refine ⟨alone.ordered, kept, step.spent.all (·.isForStart) alone.faults, ?_⟩
  intro j other woken at_other serving
  have woken : s.stage (calls.filter Task.isActing) j = .woken := woken
  -- The run that was woken is the one that moves, since one run at most is not over.
  have here : j = i := by
    by_contra distinct
    have past := stage_unique live distinct
    rw [woken] at past
    cases past
  subst here
  obtain ⟨_, rfl⟩ | ⟨elsewhere, _⟩ := run_of_change at_other
  case inr => exact absurd rfl elsewhere
  have halted : s.phase ≠ .running := by
    rw [stopping_of_woken alone.ordered woken]
    decide
  have drains : ∀ mode network, (Acceptor.handing (s.nextMode network mode)).isServing = false ∧
      (Acceptor.accepting (s.nextMode network mode)).isServing = false := by
    intro mode network
    cases mode <;> simp [nextMode, halted, Acceptor.isServing]
  have awaits : ∀ {mode}, run.acceptor = .handing mode ∨ run.acceptor = .accepting mode →
      mode = .serving → s.network.backlog run.endpoint ≠ [] := by
    rintro mode there rfl
    refine alone.roused j run woken at_run ?_
    rcases there with here | here <;> rw [here] <;> rfl
  cases step with
  | @ready mode handing empty isOpen =>
    cases mode with
    | serving => exact awaits (.inl handing) rfl
    | draining => cases serving
  | @call mode faults accepting =>
    cases mode with
    | serving => exact awaits (.inr accepting) rfl
    | draining => cases serving
  | @take mode arrival network faults =>
    rw [(drains mode network).1] at serving
    cases serving
  | @dismiss mode arrival network faults =>
    rw [(drains mode network).2] at serving
    cases serving
  | retry _ failed | broken failed =>
    exact absurd failed (Run.not_fails_of_faultless alone.faultless)
  | shut | blind | drained | close => cases serving

theorem alone_of_work {i : Nat} {run : Run} {pool : Pool} {action : Pool.Action}
    {journal : Journal} (alone : s.Alone calls) (at_run : s.runs[i]? = some run)
    (step : Pool.Step s.clock run.pool action journal pool) :
    (s.change s.network i { run with pool } journal).Alone calls := by
  refine ⟨alone.ordered, kept_of_work alone.kept at_run step, alone.faults, ?_⟩
  intro j other woken at_other serving
  obtain ⟨rfl, rfl⟩ | ⟨_, at_other⟩ := run_of_change at_other
  · exact alone.roused j run woken at_run serving
  · exact alone.roused j other woken at_other serving

theorem alone_of_move (alone : s.Alone calls) (move : s.Move next) : next.Alone calls := by
  cases move with
  | accept at_run step => exact alone_of_accept alone at_run step
  | work at_run step => exact alone_of_work alone at_run step

/-- With enough moves the threads come to rest, and the server is still alone. -/
theorem Alone.settle (alone : s.Alone calls) :
    s.settle.Alone calls ∧ s.settle.move? = none :=
  rest_of_moveFor (fun _ alone => alone.kept.network) (fun _ _ => alone_of_move) s.effort s alone
    (Nat.le_refl _)

/-! ## Steps of the call -/

/-- While the accept thread is there, its socket answers for the address that it is woken at. -/
theorem reached_of_alive {run : Run} {stage : Run.Stage} (sound : s.network.Sound)
    (kept : run.Kept s.network stage) (alive : run.acceptor.isAlive) :
    ∃ e, s.network.reach? (wakeTarget run.address) = some e ∧ e.number = run.endpoint ∧
      e.address = run.address := by
  obtain ⟨_, _, _, bound⟩ := kept.of_alive alive
  obtain ⟨socket, socket_mem, number⟩ := List.mem_map.1 bound
  obtain ⟨e, member, rfl⟩ := List.mem_map.1 socket_mem
  rw [Endpoint.number_socket] at number
  have address : e.address = run.address := kept.located e.socket socket_mem number
  have reached := sound.reach? member (wakeTarget run.address)
    (by rw [port_wakeTarget, address]) (address ▸ covers_wakeTarget e)
  exact ⟨e, reached, number, address⟩

theorem backlog_of_wake {run : Run} {stage : Run.Stage} (sound : s.network.Sound)
    (kept : run.Kept s.network stage) (alive : run.acceptor.isAlive) (port : UInt16) :
    (s.network.connect ⟨(wakeTarget run.address).ip, port⟩ (wakeTarget run.address) {}).2.backlog
      run.endpoint ≠ [] := by
  obtain ⟨e, reached, number, _⟩ := reached_of_alive sound kept alive
  rw [Network.backlog_connect reached, if_pos number.symm]
  exact List.append_ne_nil_of_right_ne_nil _ (List.cons_ne_nil _ _)

theorem Alone.unstopped {error : ServerError} (alone : s.Alone [.failing error]) :
    s.phase ≠ .stopping := by
  intro stopping
  obtain ⟨_, _, _, nobody⟩ := alone.ordered.of_inside (by simp [Task.insidePhases])
  rw [stopping] at nobody
  cases nobody

theorem alone_of_step (alone : s.Alone [task]) (step : Task.Step s task task' next) :
    next.Alone [task'] := by
  obtain ⟨ordered, kept⟩ :
      System.Ordered next.phase next.locked next.slot ([task'].filter Task.isActing)
        ([task'].filter Task.isWaiting) ∧
        next.Kept (next.stage ([task'].filter Task.isActing)) := by
    have unstopped : ∀ error, task = .failing error → s.phase ≠ .stopping := by
      rintro error rfl
      exact alone.unstopped
    have ordered := alone.ordered
    have kept := alone.kept
    cases active : task.isActing with
    | true =>
      have waits : [task].filter Task.isWaiting = [] := by
        cases task <;> simp [Task.isActing, Task.isWaiting, Task.hasEmptied] at active ⊢
      rw [List.filter_singleton, active, cond_true, waits] at ordered
      rw [List.filter_singleton, active, cond_true] at kept
      rw [System.unwaiting_of_acting active step]
      exact ⟨System.ordered_of_acting active ordered step unstopped,
        kept_of_acting ordered active kept step⟩
    | false =>
      have acts : [task].filter Task.isActing = [] := by rw [List.filter_singleton, active]; rfl
      rw [acts] at ordered kept
      cases waits : task.isWaiting with
      | true =>
        rw [List.filter_singleton, waits, cond_true] at ordered
        exact ⟨(System.ordered_of_waiting waits ordered step).2,
          kept_of_waiting ordered waits kept step⟩
      | false =>
        rw [List.filter_singleton, waits, cond_false] at ordered
        obtain ⟨idle, ordered'⟩ :=
          System.ordered_of_entry [] [] ⟨active, waits⟩ ordered step
        rw [List.nil_append, List.append_nil] at ordered'
        rw [idle]
        exact ⟨ordered', kept_of_entry ⟨active, waits⟩ kept step⟩
  refine ⟨ordered, kept, (spent_of_step step).all (·.isForStart) alone.faults, ?_⟩
  intro i other woken at_other serving
  have joining : task' = .joining i := by
    have first := head_of_woken woken
    rw [List.filter_singleton] at first
    cases active : task'.isActing with
    | true => simpa [active] using first
    | false => simp [active] at first
  subst joining
  cases step with
  | @woke _ run nextPort faults notes at_run spent =>
    obtain ⟨_, rfl⟩ | ⟨elsewhere, _⟩ := run_of_change at_other
    case inr => exact absurd rfl elsewhere
    have alive : run.acceptor.isAlive := by
      cases acceptor : run.acceptor <;>
        simp [acceptor, Acceptor.isServing, Acceptor.isAlive] at serving ⊢
    exact backlog_of_wake alone.kept.network (alone.kept.runs i run at_run) alive _

/-! ## The end of the call -/

/-- How many workers a run has. -/
def staff (s : Server) (i : Nat) : Nat := ((s.runs[i]?).map (·.pool.workers.length)).getD 0

/-- An upper bound on the steps that the call is still to make. -/
def distance (s : Server) : Task → Nat
  | .entering => s.workerCount + 10
  | .locking => s.workerCount + 9
  | .binding => s.workerCount + 8
  | .hiring i => s.workerCount - s.staff i + 7
  | .opening _ => 6
  | .launching _ => 5
  | .dismissing .. => 4
  | .filling _ | .failing _ => 3
  | .releasing _ => 2
  | .halting => 7
  | .emptying => 6
  | .waking _ => 5
  | .joining _ => 4
  | .draining _ => 3
  | .settling => 2
  | .started _ | .stopped => 0

theorem settings_of_step (step : Task.Step s task task' next) : next.settings = s.settings := by
  cases step <;> rfl

theorem distance_of_step (step : Task.Step s task task' next) :
    next.distance task' < s.distance task := by
  have same : next.workerCount = s.workerCount := by
    rw [workerCount, settings_of_step step, workerCount]
  cases step with
  | @hired i run faults at_run short tripped =>
    -- The call stays where it is, but one worker more is there.
    have before : s.staff i = run.pool.workers.length := by simp [staff, at_run]
    have after : (s.change { s.network with faults } i { run with pool := run.pool.hire } []).staff
        i = run.pool.workers.length + 1 := by
      simp [staff, change, setRun, record, Pool.hire, (List.getElem?_eq_some_iff.1 at_run).1]
    simp only [distance, same, before, after]
    omega
  | _ =>
    simp only [distance, same]
    omega

theorem staff_change {i : Nat} {run run' : Run} {network : Network} {journal : Journal}
    (at_run : s.runs[i]? = some run)
    (same : run'.pool.workers.length = run.pool.workers.length) (j : Nat) :
    (s.change network i run' journal).staff j = s.staff j := by
  obtain ⟨bound, rfl⟩ := List.getElem?_eq_some_iff.1 at_run
  by_cases here : i = j
  · subst here
    simp [staff, change, setRun, record, bound, same]
  · simp [staff, change, setRun, record, here]

theorem distance_of_move (move : s.Move next) (task : Task) :
    next.distance task = s.distance task := by
  obtain ⟨settings, staff⟩ : next.settings = s.settings ∧ ∀ j, next.staff j = s.staff j := by
    cases move with
    | accept at_run step =>
      exact ⟨rfl, staff_change at_run (congrArg List.length (by cases step <;> rfl))⟩
    | work at_run step => exact ⟨rfl, staff_change at_run step.length_workers⟩
  have same : next.workerCount = s.workerCount := by rw [workerCount, settings, workerCount]
  cases task <;> simp only [distance, same, staff]

theorem advance_of_rest (alone : s.Alone [task]) (goesOn : task.isOver = false)
    (rest : s.move? = none ∨ task = .entering ∨ task = .halting) :
    ∃ task' next, s.advance task = some (task', next) := by
  have resting (waits : task ≠ .entering ∧ task ≠ .halting) : s.move? = none :=
    rest.resolve_right (not_or.2 waits)
  have present : ∀ {i st}, task.stage? s.phase.service = some (i, st) →
      ∃ run, s.runs[i]? = some run ∧ s.stage [task] i = st ∧ run.Kept s.network st := by
    intro i st own
    have active := Task.isActing_of_stage? own
    have kept := alone.kept
    rw [List.filter_singleton, active, cond_true] at kept
    have stage_eq : s.stage [task] i = st := by rw [stage_of_call own, if_pos rfl]
    have bound := kept.present i (stage_eq ▸ Task.live_of_stage? own)
    have at_run := List.getElem?_eq_getElem bound
    exact ⟨_, at_run, stage_eq, stage_eq ▸ kept.runs i _ at_run⟩
  have emptied {i : Nat} {run : Run} (waits : task ≠ .entering ∧ task ≠ .halting)
      (at_run : s.runs[i]? = some run) (shut : run.pool.feeds = 0) : run.pool.isDone := by
    have rests := (of_move?_eq_none (resting waits) at_run).2
    exact (Pool.isDone_of_shut rests (by simp [Pool.isOpen, shut])).1
  cases task with
  | started | stopped => cases goesOn
  | entering =>
    by_cases idle : s.phase = .stopped
    · exact ⟨_, _, by rw [advance, Phase.transition, if_pos idle]⟩
    · exact ⟨_, _, by rw [advance, Phase.transition, if_neg idle]⟩
  | halting =>
    by_cases running : s.phase = .running
    · exact ⟨_, _, by rw [advance, Phase.transition, if_pos running]⟩
    · exact ⟨_, _, by rw [advance, Phase.transition, if_neg running]⟩
  | locking =>
    have free : s.locked = false := alone.ordered.free_of_nil
    exact ⟨_, _, by rw [advance, free]; rfl⟩
  | binding =>
    rcases made : s.bindRun with ⟨error | run, next⟩
    · exact ⟨_, _, by rw [advance, made]⟩
    · exact ⟨_, _, by rw [advance, made]⟩
  | hiring i | launching i | filling i | waking i =>
    obtain ⟨run, at_run, _⟩ := present rfl
    exact ⟨_, _, by rw [advance, at_run]; rfl⟩
  | opening i | failing error | releasing result | settling => exact ⟨_, _, rfl⟩
  | dismissing i | draining i =>
    obtain ⟨run, at_run, _, kept⟩ := present rfl
    have done := emptied (by simp) at_run kept.fits.2.1
    exact ⟨_, _, by simp only [advance, at_run, Option.bind_eq_bind, Option.bind_some, done]; rfl⟩
  | emptying =>
    have free : s.locked = false := alone.ordered.free_of_nil
    rw [advance, free]
    cases s.slot with
    | none => exact ⟨_, _, rfl⟩
    | some i => exact ⟨_, _, rfl⟩
  | joining i =>
    obtain ⟨run, at_run, woken, kept⟩ := present rfl
    obtain ⟨_, ⟨alive, _⟩ | ⟨exited, _⟩⟩ := kept.fits
    · -- An accept thread at rest serves, with nobody waiting; but it has been woken.
      obtain ⟨calling, empty, _⟩ := calling_of_rest (resting (by simp)) at_run kept alive
      exact absurd empty (alone.roused i run woken at_run (by rw [calling]; rfl))
    · exact ⟨_, _, by rw [advance, at_run, Option.bind_eq_bind, Option.bind_some, if_pos exited]⟩

theorem over_of_distance (near : s.distance task = 0) : task.isOver := by
  cases task <;> simp [distance, Task.isOver] at near ⊢

theorem carryOut_of_over (done : task.isOver) (s : Server) (limit : Nat) :
    s.carryOut limit task = (task, s) := by
  cases limit with
  | zero => rfl
  | succ limit =>
    cases task with
    | started | stopped => rfl
    | _ => cases done

theorem carryOut_succ (advanced : s.advance task = some (task', next)) (limit : Nat) :
    s.carryOut (limit + 1) task = next.settle.carryOut limit task' := by
  rw [carryOut, advanced]

/-- What every step of a call and every move of a thread keeps still holds when the call has been
    carried out, whether it has come to its end or not. -/
theorem carryOut_keeps {P : Task → Server → Prop}
    (steps : ∀ s task task' next, P task s → Task.Step s task task' next → P task' next)
    (moves : ∀ s task next, P task s → s.Move next → P task next) (limit : Nat) (here : P task s) :
    P (s.carryOut limit task).1 (s.carryOut limit task).2 := by
  induction limit generalizing s task with
  | zero => exact here
  | succ limit ih =>
    rw [carryOut]
    cases advanced : s.advance task with
    | none => exact here
    | some outcome =>
      obtain ⟨task', next⟩ := outcome
      have stepped := steps s task task' next here (step_of_advance advanced)
      exact ih (settle_keeps (fun s next here move => moves s task' next here move) stepped)

/-- A call that is carried out comes to its end, with all that its steps and the moves of the
    threads keep. -/
theorem carryOut_over {P : Task → Server → Prop}
    (steps : ∀ s task task' next, s.Alone [task] → P task s → Task.Step s task task' next →
      P task' next)
    (moves : ∀ s task next, s.Alone [task] → P task s → s.Move next → P task next) :
    ∀ (limit : Nat) (s : Server) (task : Task), s.Alone [task] → P task s →
      (s.move? = none ∨ task = .entering ∨ task = .halting) → s.distance task ≤ limit →
        (s.carryOut limit task).1.isOver ∧ (s.carryOut limit task).2.Alone [] ∧
          (s.carryOut limit task).2.move? = none ∧
            P (s.carryOut limit task).1 (s.carryOut limit task).2 := by
  have ended : ∀ (limit : Nat) (s : Server) (task : Task), task.isOver → s.Alone [task] →
      P task s → (s.move? = none ∨ task = .entering ∨ task = .halting) →
        (s.carryOut limit task).1.isOver ∧ (s.carryOut limit task).2.Alone [] ∧
          (s.carryOut limit task).2.move? = none ∧
            P (s.carryOut limit task).1 (s.carryOut limit task).2 := by
    intro limit s task done alone here rest
    have rest := rest.resolve_right (by rintro (rfl | rfl) <;> cases done)
    rw [carryOut_of_over done]
    exact ⟨done, (alone_singleton_iff (idle_of_over done)).1 alone, rest, here⟩
  -- Between two steps the threads come to rest, so every step is possible.
  intro limit
  induction limit with
  | zero =>
    intro s task alone here rest near
    exact ended 0 s task (over_of_distance (Nat.le_zero.1 near)) alone here rest
  | succ limit ih =>
    intro s task alone here rest near
    cases done : task.isOver with
    | true => exact ended (limit + 1) s task done alone here rest
    | false =>
      obtain ⟨task', next, advanced⟩ := advance_of_rest alone done rest
      have step := step_of_advance advanced
      have closer := distance_of_step step
      rw [carryOut, advanced]
      have settled := rest_of_moveFor
        (P := fun s => s.Alone [task'] ∧ P task' s ∧ s.distance task' < limit + 1)
        (fun _ held => held.1.kept.network)
        (fun s next ⟨alone, here, near⟩ move => ⟨alone_of_move alone move,
          moves s task' next alone here move, distance_of_move move task' ▸ near⟩)
        next.effort next
        ⟨alone_of_step alone step, steps s task task' next alone here step, by omega⟩
        (Nat.le_refl _)
      obtain ⟨⟨alone, here, near⟩, rests⟩ := settled
      exact ih next.settle task' alone here (.inl rests) (Nat.le_of_lt_succ near)

end Server

end TimeServer
