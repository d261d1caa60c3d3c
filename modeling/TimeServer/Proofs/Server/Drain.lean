import TimeServer.Proofs.Server.Booking

/-! # Who comes too late

When a server is stopped its accept thread hands on the clients that wait until nobody does, and
then closes the socket.  Between its last accept call and that a client can still come, and is
turned away.

* `Run.DrainsWell` — the host lets the thread look for those who wait;
* `Run.Timely` — the clients that came too late, by where the accept thread stands;
* `timely_of_reaches` — on such a host, those who are turned away are those who came too late.
-/

namespace TimeServer

namespace Run

/-- The socket can be asked for clients that wait without blocking once the server is stopped, and
    nothing but interruptions makes the accept calls fail from then on. -/
structure DrainsWell (s : Server) (run : Run) : Prop where
  polls : run.acceptor.isServing → s.phase ≠ .running → (s.network.trip .setNonblocking).1 = none
  interrupts : ∀ canPoll e network, run.Fails s.network (.draining canPoll) e network →
    e.isInterrupted

/-- The clients that came after the last accept call still wait, or were turned away with the end of
    the thread; before that call nobody was. -/
def Timely (run : Run) (backlog late forsaken : List Arrival) : Prop :=
  match run.acceptor with
  | .absent => late = [] ∧ forsaken = []
  | .accepting mode | .calling mode | .handing mode =>
    late = [] ∧ forsaken = [] ∧ mode ≠ .draining false
  | .closing => late = run.clients backlog ∧ forsaken = []
  | .exited => forsaken = late

variable {run run' : Run} {backlog late forsaken : List Arrival} {s : Server} {network' : Network}
  {journal : Journal}

theorem Timely.of_mode {mode : Mode} (timely : run.Timely backlog late forsaken)
    (there : run.acceptor = .accepting mode ∨ run.acceptor = .calling mode ∨
      run.acceptor = .handing mode) : late = [] ∧ forsaken = [] ∧ mode ≠ .draining false := by
  rcases there with here | here | here
  all_goals
    rw [Timely, here] at timely
    exact timely

/-- Whether the socket can be asked without blocking does not depend on the accept call before. -/
theorem Fails.fst_trip {n network : Network} {mode : Mode} {e : IoError}
    (failed : run.Fails n mode e network) :
    (network.trip .setNonblocking).1 = (n.trip .setNonblocking).1 := by
  cases failed with
  | early _ _ failed =>
    have same := n.fst_trip_trip (show Syscall.accept ≠ .setNonblocking by decide)
    rwa [failed] at same
  | late _ failed =>
    have same := n.fst_trip_take? (show Syscall.acceptLate ≠ .setNonblocking by decide) run.endpoint
    rwa [failed] at same

/-- A thread that looks at the phase goes on as one that can ask the socket. -/
theorem DrainsWell.nextMode_ne {mode : Mode} {network : Network} (well : run.DrainsWell s)
    (there : run.acceptor = .accepting mode ∨ run.acceptor = .calling mode ∨
      run.acceptor = .handing mode)
    (polls : mode ≠ .draining false)
    (same : (network.trip .setNonblocking).1 = (s.network.trip .setNonblocking).1) :
    s.nextMode network mode ≠ .draining false := by
  cases mode with
  | draining canPoll => exact polls
  | serving =>
    by_cases running : s.phase = .running
    · simp [Server.nextMode, running]
    · have passes := well.polls (isServing_of_mode rfl there) running
      simp [Server.nextMode, running, same, passes]

/-- A move of the accept thread: it stops accepting only when nobody waits, and those whom it turns
    away came after that. -/
theorem Timely.of_accept
    (timely : run.Timely (s.network.backlog run.endpoint) late forsaken)
    (open_queue : run.pool.isOpen) (well : run.DrainsWell s)
    (step : Step s run network' run' journal) :
    run'.Timely (network'.backlog run'.endpoint) late (forsaken ++ run.forsakes s.network) := by
  have taken_trip : ∀ {result network}, s.network.take? run.endpoint = (result, network) →
      (network.trip .setNonblocking).1 = (s.network.trip .setNonblocking).1 := by
    intro result network taken
    have same := s.network.fst_trip_take?
      (show Syscall.acceptLate ≠ .setNonblocking by decide) run.endpoint
    rwa [taken] at same
  cases step with
  | shut handing empty closed =>
    rw [open_queue] at closed
    cases closed
  | ready here =>
    rw [forsakes_of_elsewhere (by simp [here]), List.append_nil]
    exact timely.of_mode (.inr (.inr here))
  | call here =>
    rw [forsakes_of_elsewhere (by simp [here]), List.append_nil]
    exact timely.of_mode (.inl here)
  | @take mode _ _ _ _ _ here taken | @dismiss mode _ _ _ _ here taken =>
    obtain ⟨none_late, none_forsaken, polls⟩ := timely.of_mode (.inr (.inl here))
    rw [forsakes_of_elsewhere (by simp [here]), List.append_nil]
    exact ⟨none_late, none_forsaken,
      well.nextMode_ne (.inr (.inl here)) polls (taken_trip taken)⟩
  | @retry mode _ _ _ _ _ failed _ goesOn =>
    have there : run.acceptor = .accepting mode ∨ run.acceptor = .calling mode ∨
        run.acceptor = .handing mode := failed.acceptor_eq.imp_right Or.inl
    obtain ⟨none_late, none_forsaken, polls⟩ := timely.of_mode there
    rw [forsakes_of_elsewhere (by rcases failed.acceptor_eq with h | h <;> simp [h]),
      List.append_nil]
    refine ⟨none_late, none_forsaken, ?_⟩
    obtain ⟨_, rfl⟩ | ⟨_, rfl, rfl⟩ := goesOn
    · exact polls
    · exact well.nextMode_ne there polls failed.fst_trip
  | broken failed fatal =>
    rw [well.interrupts _ _ _ failed] at fatal
    cases fatal
  | blind here => exact absurd rfl (timely.of_mode (.inl here)).2.2
  | drained here empty =>
    obtain ⟨none_late, none_forsaken, _⟩ := timely.of_mode (.inr (.inl here))
    rw [forsakes_of_elsewhere (by simp [here]), List.append_nil]
    refine ⟨?_, none_forsaken⟩
    rw [none_late, empty]
    rfl
  | close here =>
    rw [Timely, here] at timely
    rw [forsakes, if_pos here, timely.2, timely.1]
    rfl

theorem Timely.arrive (timely : run.Timely backlog late forsaken) {arrival : Arrival}
    (there : run.acceptor ≠ .exited) (isClient : run.wakePeer ≠ some arrival.peer) :
    run.Timely (backlog ++ [arrival])
      (late ++ if run.acceptor = .closing then [arrival] else []) forsaken := by
  have clients_eq : run.clients (backlog ++ [arrival]) = run.clients backlog ++ [arrival] := by
    simp [clients, isClient]
  cases acceptor : run.acceptor with
  | exited => exact absurd acceptor there
  | closing =>
    rw [Timely, acceptor] at timely ⊢
    exact ⟨by rw [timely.1, clients_eq]; rfl, timely.2⟩
  | absent | accepting | calling | handing =>
    rw [Timely, acceptor] at timely ⊢
    simpa using timely

/-- The source of the wake-up is known, and no client that waits comes from there. -/
theorem Timely.wake {source : SocketAddress} {backlog' : List Arrival}
    (timely : run.Timely backlog late forsaken) (unwoken : run.wakePeer = none)
    (others : ∀ arrival ∈ backlog, arrival.peer ≠ source)
    (woken : ∃ wakeUps, backlog' = backlog ++ wakeUps ∧
      ∀ arrival ∈ wakeUps, arrival.peer = source) :
    { run with wakePeer := some source }.Timely backlog' late forsaken := by
  cases acceptor : run.acceptor with
  | closing =>
    rw [Timely, acceptor] at timely
    exact ⟨timely.1.trans (clients_wake unwoken others woken).symm, timely.2⟩
  | absent | accepting | calling | handing | exited =>
    rw [Timely, acceptor] at timely
    exact timely

/-- Of a run that is over nobody waits at the socket, so it does not matter who does. -/
theorem Timely.of_past {network : Network} {backlog' : List Arrival}
    (timely : run.Timely backlog late forsaken) (past : run.Kept network .past) :
    run.Timely backlog' late forsaken := by
  obtain ⟨absent, _⟩ | exited := past.fits.1
  · rw [Timely, absent] at timely ⊢
    exact timely
  · rw [Timely, exited] at timely ⊢
    exact timely

theorem Kept.unbound_of_exited {network : Network} {stage : Stage} (kept : run.Kept network stage)
    (exited : run.acceptor = .exited) :
    run.endpoint ∉ network.sockets.map Endpoint.number := by
  have manned : run.Manned (run.endpoint ∈ network.sockets.map Endpoint.number) →
      run.endpoint ∉ network.sockets.map Endpoint.number := by
    rintro ⟨_, ⟨alive, _⟩ | ⟨_, _, _, unbound⟩⟩
    · simp [exited, Acceptor.isAlive] at alive
    · exact unbound
  have fits := kept.fits
  cases stage with
  | hiring | staffed | dismissing | serving => simp [Fits, exited, Acceptor.isServing] at fits
  | halted => exact manned fits.1
  | woken => exact manned fits
  | draining | past => exact fits.2.2.2.2

end Run

namespace Server

/-- In every run the clients that came too late are where they should be. -/
def Timely (late forsaken : Nat → List Arrival) (s : Server) : Prop :=
  ∀ (i : Nat) (run : Run), s.runs[i]? = some run →
    run.Timely (s.network.backlog run.endpoint) (late run.endpoint) (forsaken run.endpoint)

variable {late forsaken forsaken' : Nat → List Arrival} {s server : Server} {i : Nat}
  {run run' : Run} {network : Network} {journal : Journal}

theorem Timely.congr (timely : s.Timely late forsaken) (runs : server.runs = s.runs)
    (endpoints : server.network.endpoints = s.network.endpoints) :
    server.Timely late forsaken := by
  intro j other at_other
  rw [runs] at at_other
  have same : server.network.backlog other.endpoint = s.network.backlog other.endpoint := by
    simp only [Network.backlog, endpoints]
  rw [same]
  exact timely j other at_other

theorem Timely.change
    (own : run'.Timely (network.backlog run'.endpoint) (late run'.endpoint)
      (forsaken' run'.endpoint))
    (others : ∀ j other, j ≠ i → s.runs[j]? = some other →
      other.Timely (network.backlog other.endpoint) (late other.endpoint)
        (forsaken' other.endpoint)) :
    (s.change network i run' journal).Timely late forsaken' := by
  intro j other at_other
  obtain ⟨rfl, rfl⟩ | ⟨distinct, at_other⟩ := run_of_change at_other
  · exact own
  · exact others j other distinct at_other

/-- The pool of one run has changed, which is nothing to the clients at the door. -/
theorem Timely.ofPool {pool : Pool} (timely : s.Timely late forsaken)
    (at_run : s.runs[i]? = some run) (same : network.endpoints = s.network.endpoints) :
    (s.change network i { run with pool } journal).Timely late forsaken := by
  have backlog : ∀ number, network.backlog number = s.network.backlog number := by
    intro number
    simp only [Network.backlog, same]
  refine Timely.change ?_ fun j other _ at_other => ?_
  · rw [backlog]
    exact timely i run at_run
  · rw [backlog]
    exact timely j other at_other

/-- A step of a call leaves the clients that came too late where they should be. -/
theorem timely_of_step {stage : Nat → Run.Stage} {task task' : Task} (kept : s.Kept stage)
    (own : ∀ i st, task.stage? s.phase.service = some (i, st) →
      ∀ j, stage j = if j = i then st else .past)
    (unknown : late s.network.nextNumber = [] ∧ forsaken s.network.nextNumber = [])
    (wakes : ∀ i run, task = .waking i → s.runs[i]? = some run → s.WakesApart run)
    (timely : s.Timely late forsaken) (step : Task.Step s task task' server) :
    server.Timely late forsaken := by
  cases step with
  | enter | reject | lock | misnamed | opened | filled | failed | release | halt | ignore | emptied
  | vacant | settled => exact timely.congr rfl rfl
  | unbound resolved failed =>
    exact timely.congr rfl (Network.of_bind?_error kept.network.fresh failed).1
  | bound resolved made =>
    obtain ⟨number_eq, empty, _, _, grown, _⟩ := Network.of_bind?_ok made
    intro j other at_other
    obtain ⟨_, at_old⟩ | ⟨_, rfl⟩ := run_of_append at_other
    · rw [Network.backlog_of_append grown empty]
      exact timely j other at_old
    · show late _ = [] ∧ forsaken _ = []
      rw [number_eq]
      exact unknown
  | hired at_run | unstaffed at_run | unlaunched at_run | staffed at_run | joined at_run
  | drained at_run => exact timely.ofPool at_run rfl
  | @launched i run faults at_run =>
    refine Timely.change ?_ fun j other distinct at_other => ?_
    · have before := timely i run at_run
      rw [Run.Timely, (kept.of_own (own _ _ rfl) at_run).fits.1] at before
      exact ⟨before.1, before.2, by simp⟩
    · exact (timely j other at_other).of_past (kept.past_of_own (own _ _ rfl) distinct at_other)
  | @dismissed i run error at_run done =>
    refine Timely.change ?_ fun j other distinct at_other => ?_
    · have before := timely i run at_run
      rw [Run.Timely, (kept.of_own (own _ _ rfl) at_run).fits.1] at before
      rw [Run.Timely, (kept.of_own (own _ _ rfl) at_run).fits.1]
      exact before
    · exact (timely j other at_other).of_past (kept.past_of_own (own _ _ rfl) distinct at_other)
  | @woke i run nextPort faults notes at_run =>
    have run_kept := kept.of_own (own _ _ rfl) at_run
    obtain ⟨shows, apart⟩ := wakes i run rfl at_run
    have woken := wakeUps_of_connect s.network.takePort.1 shows run_kept.located
    refine Timely.change ?_ fun j other distinct at_other => ?_
    · exact (timely i run at_run).wake run_kept.fits.2 apart woken
    · exact (timely j other at_other).of_past (kept.past_of_own (own _ _ rfl) distinct at_other)

end Server

namespace System

/-- The host lets accept threads look for the clients that wait. -/
def DrainsWell (h : System) : Move → Prop
  | .accept i => ∀ run, h.server.runs[i]? = some run → run.DrainsWell h.server
  | _ => True

/-- The clients that came too late are where they should be. -/
structure Timely (h : System) : Prop where
  runs : h.server.Timely (Guest.atSocket h.late) (Guest.atSocket h.forsaken)
  came : h.late ⊆ h.guests

variable {times : Clock → Prop} {h next : System}

/-- A client that comes to the socket of a run is late if the thread of that run has made its last
    accept call. -/
theorem comesLate_iff (kept : h.server.Kept h.stage) (guest : Guest)
    {i : Nat} {run : Run} (at_run : h.server.runs[i]? = some run)
    (here : run.endpoint = guest.endpoint)
    (bound : guest.endpoint ∈ h.server.network.sockets.map Endpoint.number) :
    h.comesLate guest ↔ run.acceptor = .closing := by
  have live : ∀ j other, h.server.runs[j]? = some other → other.endpoint = guest.endpoint →
      h.stage j ≠ .past := by
    intro j other at_other same past
    have other_kept := kept.runs j other at_other
    rw [past] at other_kept
    exact other_kept.fits.2.2.2.2 (same ▸ bound)
  simp only [comesLate, List.any_eq_true, Bool.and_eq_true, decide_eq_true_eq]
  constructor
  · rintro ⟨other, member, same, closing⟩
    obtain ⟨j, at_other⟩ := List.getElem?_of_mem member
    -- No two runs that are not over have one socket.
    have same_place : j = i := by
      by_contra distinct
      exact live j other at_other same
        (Server.stage_unique (live i run at_run here) distinct)
    subst same_place
    cases at_run.symm.trans at_other
    exact closing
  · intro closing
    exact ⟨run, List.mem_of_getElem? at_run, here, closing⟩

theorem Timely.arrive {source target : SocketAddress} {stream : Stream} (timely : h.Timely)
    (kept : h.server.Kept h.stage)
    (apart : ∀ guest, h.guest? source target stream = some guest →
      ∀ run ∈ h.server.runs, run.endpoint = guest.endpoint →
        run.wakePeer ≠ some guest.arrival.peer)
    (moved : h.step? (.arrive source target stream) = some next) : next.Timely := by
  cases moved
  refine ⟨fun i run at_run => ?_, ?_⟩
  · obtain ⟨nobody, unreached⟩ | ⟨guest, came, bound, -, -, backlog⟩ :=
      h.guest?_cases source target stream
    · simp only [unreached, nobody, Option.toList_none, List.filter_nil, List.append_nil]
      exact timely.runs i run at_run
    · rw [backlog, came, Option.toList_some, Guest.atSocket_append]
      by_cases here : guest.endpoint = run.endpoint
      · have isClient := apart _ came run (List.mem_of_getElem? at_run) here.symm
        have late_iff := comesLate_iff kept guest at_run here.symm bound
        have there : run.acceptor ≠ .exited := fun exited =>
          (kept.runs i run at_run).unbound_of_exited exited (here ▸ bound)
        have late_eq : Guest.atSocket ([guest].filter h.comesLate) run.endpoint =
            if run.acceptor = .closing then [guest.arrival] else [] := by
          by_cases closing : run.acceptor = .closing
          · simp [Guest.atSocket, here, late_iff.2 closing, closing]
          · have punctual : h.comesLate guest = false := by
              rw [← Bool.not_eq_true]
              exact fun late => closing (late_iff.1 late)
            simp [Guest.atSocket, punctual, closing]
        rw [late_eq, Guest.atSocket_singleton, if_pos here]
        exact (timely.runs i run at_run).arrive there isClient
      · have elsewhere : Guest.atSocket ([guest].filter h.comesLate) run.endpoint = [] := by
          rw [Guest.atSocket, List.map_eq_nil_iff, List.filter_eq_nil_iff]
          intro late member
          obtain rfl := List.mem_singleton.1 (List.mem_of_mem_filter member)
          simpa using here
        rw [elsewhere, Guest.atSocket_singleton, if_neg here, List.append_nil, List.append_nil]
        exact timely.runs i run at_run
  · intro guest member
    cases List.mem_append.1 member with
    | inl old => exact List.mem_append_left _ (timely.came old)
    | inr new => exact List.mem_append_right _ (List.mem_of_mem_filter new)

theorem timely_accept {i : Nat} (timely : h.Timely) (kept : h.server.Kept h.stage)
    (well : ∀ run, h.server.runs[i]? = some run → run.DrainsWell h.server)
    (moved : h.step? (.accept i) = some next) : next.Timely := by
  obtain ⟨run, network, run', journal, at_run, step, rfl⟩ := step?_accept moved
  have run_kept := kept.runs i run at_run
  obtain ⟨_, fed, _, bound⟩ := run_kept.of_alive step.isAlive
  refine ⟨Server.Timely.change ?_ fun j other distinct at_other => ?_, timely.came⟩
  · have own := (timely.runs i run at_run).of_accept (by simp [Pool.isOpen, fed]) (well run at_run)
      step
    rw [step.endpoint_eq] at own ⊢
    rw [Guest.atSocket_append, Guest.atSocket_map, if_pos rfl]
    exact own
  · -- The socket of another run is closed.
    have live := (Server.kept_of_accept kept at_run step).1
    have past := kept.past_of_live live distinct at_other
    have elsewhere : run.endpoint ≠ other.endpoint := fun same =>
      past.fits.2.2.2.2 (same ▸ bound)
    rw [Guest.atSocket_append, Guest.atSocket_map, if_neg elsewhere, List.append_nil]
    exact (timely.runs j other at_other).of_past past

/-- Every move of a host that lets the accept threads look for clients leaves those who came too
    late where they should be. -/
theorem timely_step {move : Move} (timely : h.Timely) (booked : h.Booked times)
    (ordered : h.InOrder) (kept : h.server.Kept h.stage) (orderly : h.Orderly times move)
    (well : h.DrainsWell move) (moved : h.step? move = some next) : next.Timely := by
  obtain ⟨_, orderly⟩ := orderly
  cases move with
  | accept i => exact timely_accept timely kept well moved
  | arrive source target stream => exact timely.arrive kept orderly moved
  | advance call =>
    obtain ⟨task, task', at_call, step, ⟨guests, late, _, forsaken⟩, _⟩ :=
      ordered.advance_cases moved
    have unknown : Guest.atSocket h.late h.server.network.nextNumber = [] ∧
        Guest.atSocket h.forsaken h.server.network.nextNumber = [] :=
      ⟨Guest.atSocket_eq_nil fun guest member => (booked.known guest (timely.came member)).1,
        Guest.atSocket_eq_nil fun guest member =>
          booked.gone_known guest (List.mem_append_right _ member)⟩
    refine ⟨?_, ?_⟩
    · rw [late, forsaken]
      refine Server.timely_of_step kept (ordered.stage_of_call at_call) unknown ?_ timely.runs step
      rintro i run rfl at_run
      exact orderly i run at_call at_run
    · rw [late, guests]
      exact timely.came
  | work i action =>
    obtain ⟨run, pool, journal, at_run, step, rfl⟩ := step?_work moved
    exact ⟨timely.runs.ofPool at_run rfl, timely.came⟩
  | start | stop | nextPort | fault | setClock =>
    cases moved
    exact ⟨timely.runs.congr rfl rfl, timely.came⟩

end System

end TimeServer
