import TimeServer.Proofs.Daemon.Run

/-! # How a daemon ends

However a daemon came to its end, and whatever its clients and the host did meanwhile, its server is
stopped, and the last thing that it logged is what became of its clients.

* `Stage.Agrees` — what it returns follows from how its wait has ended;
* `Scene.Settled`, `settled_of_world` — nothing happens to a server that was stopped;
* `Scene.Reported` — so the last report stays true;
* `Server.Deserted`, `System.ServedAll` — what is left of the server and what became of the clients;
* `Outcome.Concluded` — how a run has ended, by its course;
* `leaves_nothing` — at the end of every run.
-/

namespace TimeServer

/-! ## What is left of the server -/

/-- The server is stopped and nothing of it is left: every thread has ended, no socket is bound, and
    the counters show that everybody who was taken on is gone. -/
structure Server.Deserted (s : Server) : Prop where
  phase : s.phase = .stopped
  threads : ∀ run ∈ s.runs,
    (run.acceptor = .absent ∨ run.acceptor = .exited) ∧ run.pool.workers = []
  unbound : ∀ address, ¬ s.ListensAt address
  unfinished : s.unfinished = 0
  total : s.stats.total = UInt64.ofNat s.connections
  active : s.stats.active = 0

namespace System

/-- How many clients came to the sockets of the runs whose accept thread has ended, and are not
    gone. -/
def remaining (h : System) : Nat :=
  (h.server.runs.map fun run =>
    if run.acceptor = .exited then (h.remainingAt run.endpoint).length else 0).sum

/-- Every client that came to a socket of the server was served and counted, unless an accept call
    that failed has lost it or it still waited when the socket was closed. -/
structure ServedAll (times : Clock → Prop) (h : System) : Prop where
  runs : ∀ run ∈ h.server.runs, run.acceptor = .exited →
    run.Served times h.server.rules (h.remainingAt run.endpoint)
  total : h.server.stats.total = UInt64.ofNat h.remaining

variable {allowed : System → Move → Prop} {settings : Settings} {network : Network} {clock : Clock}
  {h : System}

theorem deserted_of_stopped (sound : network.Sound)
    (unovertaken : ∀ h move, allowed h move → h.Unovertaken move)
    (reached : Reaches allowed (ofServer (.ofSettings settings network clock)) h)
    (stopped : h.server.phase = .stopped) : h.server.Deserted := by
  obtain ⟨ordered, kept⟩ := kept_of_reaches sound unovertaken reached
  have counted := counted_of_reaches reached
  -- A server that is stopped has no run but past ones.
  have fits : ∀ run ∈ h.server.runs,
      run.Fits (run.endpoint ∈ h.server.network.sockets.map Endpoint.number) .past := by
    intro run member
    obtain ⟨i, at_run⟩ := List.getElem?_of_mem member
    exact (past_of_stopped ordered kept stopped at_run).fits
  have unfinished : h.server.unfinished = 0 :=
    Server.unfinished_eq_zero fun run member => (fits run member).2.2.1
  refine ⟨stopped, ?_, ?_, unfinished, counted.total, ?_⟩
  · intro run member
    obtain ⟨ended, _, _, workers, _⟩ := fits run member
    exact ⟨ended.imp_left And.left, workers⟩
  · rintro address ⟨run, member, e, bound, number, _⟩
    apply (fits run member).2.2.2.2
    rw [← number, ← Endpoint.number_socket e]
    exact List.mem_map_of_mem (List.mem_map_of_mem bound)
  · -- The gauge never shows more than is unfinished, also when it has wrapped around.
    have shows := modest_of_reaches reached
    rw [Server.Modest, unfinished] at shows
    exact UInt64.toNat_inj.1 (Nat.le_zero.1 shows)

theorem servedAll_of_stopped {times : Clock → Prop} (sound : network.Sound) (shown : times clock)
    (orderly : ∀ h move, allowed h move → h.Orderly times move)
    (reached : Reaches allowed (ofServer (.ofSettings settings network clock)) h)
    (stopped : h.server.phase = .stopped) : h.ServedAll times := by
  obtain ⟨⟨ordered, kept⟩, booked⟩ := booked_of_reaches sound shown orderly reached
  have past : ∀ (i : Nat) (run : Run), h.server.runs[i]? = some run →
      run.Kept h.server.network .past :=
    fun _ _ at_run => past_of_stopped ordered kept stopped at_run
  refine ⟨fun run member exited => ?_, ?_⟩
  · obtain ⟨i, at_run⟩ := List.getElem?_of_mem member
    exact booked.served at_run (past i run at_run) exited
  · rw [(counted_of_reaches reached).total, (booked.connections_eq past).2, remaining]

end System

namespace Daemon

open TimeServer.Log (Record)

/-! ## What it returns -/

/-- The end of the wait, if that is the move. -/
def Move.finish? : Move → Option (Except IoError Signal)
  | .finish how => some how
  | _ => none

/-- What the daemon is to return agrees with how its wait has ended, if it has. -/
def Stage.Agrees (finishes : List (Except IoError Signal)) : Stage → Prop
  | .starting | .preparing | .waiting => finishes = []
  | .stopping finish => finishes = [finish]
  | .leaving result | .returned result =>
    (finishes = [] ∧ ∃ error, result = .error error) ∨
      ∃ finish, finishes = [finish] ∧ result = verdict finish

/-- Whether the daemon has nothing left to do but to give up its server. -/
def Stage.isGoing : Stage → Bool
  | .leaving _ | .returned _ => true
  | _ => false

/-- How a run has ended: nothing of the server is left; it has succeeded exactly if the server
    started and a signal came; and if it had waited at all, the last thing it logged are the
    counters as they are now. -/
structure Outcome.Concluded (launched : Prop) (course : Course)
    (outcome : Outcome) : Prop where
  deserted : outcome.state.server.Deserted
  ok_iff : outcome.result = .ok () ↔
    launched ∧ ∃ happenings signal, course = .waited happenings (.ok signal)
  reported : ∀ happenings finish, launched → course = .waited happenings finish →
    ∃ shown, outcome.state.records.getLast? = some (.ofStats shown outcome.state.server.stats)

namespace Scene

variable {c : Config} {allowed : System → System.Move → Prop} {first s next : Scene}
  {moves : List Move} {move : Move}

theorem agrees_of_step (agrees : s.stage.Agrees (moves.filterMap Move.finish?))
    (step : Step c s move next) :
    next.stage.Agrees ((moves ++ [move]).filterMap Move.finish?) := by
  rw [List.filterMap_append]
  generalize moves.filterMap Move.finish? = finishes at agrees
  cases step with
  | world | reported =>
    show s.stage.Agrees (finishes ++ [])
    rw [List.append_nil]
    exact agrees
  | refused stage | unprepared stage =>
    rw [stage] at agrees
    subst agrees
    exact .inl ⟨rfl, _, rfl⟩
  | started stage | prepared stage =>
    rw [stage] at agrees
    subst agrees
    rfl
  | finished stage =>
    rw [stage] at agrees
    subst agrees
    rfl
  | halted stage =>
    rw [stage] at agrees
    subst agrees
    exact .inr ⟨_, rfl, rfl⟩
  | @returned result stage =>
    show Stage.Agrees (finishes ++ []) (.returned result)
    rw [List.append_nil]
    rw [stage] at agrees
    exact agrees

theorem Reaches.agrees {network : Network} {clock : Clock}
    (reached : Reaches c allowed (ofConfig c network clock) moves s) :
    s.stage.Agrees (moves.filterMap Move.finish?) := by
  induction reached with
  | refl => rfl
  | step move _ _ moved ih => exact agrees_of_step ih (step_of_step? moved)

/-- A daemon that returns without an error has been sent a signal, and the other way round. -/
theorem ok_iff_of_agrees {result : Except DaemonError Unit}
    (agrees : Stage.Agrees (moves.filterMap Move.finish?) (.returned result)) :
    result = .ok () ↔ ∃ signal, .finish (.ok signal) ∈ moves := by
  have among : ∀ finish, .finish finish ∈ moves → finish ∈ moves.filterMap Move.finish? :=
    fun finish member => List.mem_filterMap.2 ⟨.finish finish, member, rfl⟩
  constructor
  · rintro rfl
    obtain ⟨_, error, failed⟩ | ⟨finish, only, same⟩ := agrees
    · cases failed
    · cases finish with
      | error e => cases same
      | ok signal =>
        obtain ⟨move, member, found⟩ := List.mem_filterMap.1 (only ▸ List.mem_singleton_self _)
        cases move <;> cases found
        exact ⟨signal, member⟩
  · rintro ⟨signal, member⟩
    have came := among _ member
    obtain ⟨none_came, _⟩ | ⟨finish, only, rfl⟩ := agrees
    · rw [none_came] at came
      cases came
    · rw [only, List.mem_singleton] at came
      rw [← came]
      rfl

/-! ## A server that was stopped -/

/-- The server is stopped, and no call on it has anything to do. -/
def Settled (s : Scene) : Prop :=
  s.system.server.phase = .stopped ∧ (s.task? = some .halting ∨ s.task? = some .stopped)

/-- Whatever happens around it, such a server counts nothing and tells nothing. -/
theorem settled_of_world {outer : System.Move} {system : System} (ordered : s.system.InOrder)
    (kept : s.system.server.Kept s.system.stage) (inTurn : s.InTurn) (settled : s.Settled)
    (outside : outer.isCall = false) (moved : s.system.step? outer = some system) :
    Settled { s with system, records := s.records ++ told s.system system } ∧
      system.server.stats = s.system.server.stats ∧ told s.system system = [] := by
  have silent : ∀ system : System, system.server.journal = s.system.server.journal →
      told s.system system = [] := by
    intro system same
    rw [told, same, List.drop_length]
    rfl
  -- All its runs are past, so no thread of it can move.
  have still : ¬ ∃ server, s.system.server.Move server := by
    rintro ⟨server, move⟩
    exact Server.not_move_of_past kept (ordered.past_of_stopped settled.1) move
  cases outer with
  | start | stop => cases outside
  | advance call =>
    obtain ⟨past, task, split, ended, _, _⟩ := inTurn
    obtain ⟨task', server, step, rfl⟩ := System.last_of_advance split ended moved
    obtain ⟨stopped, last⟩ := settled
    rw [task?_eq split, Option.some.injEq, Option.some.injEq] at last
    obtain rfl | rfl := last
    · cases step with
      | halt running =>
        rw [stopped] at running
        cases running
      | ignore => exact ⟨⟨stopped, .inr (List.getLast?_concat)⟩, rfl, silent _ rfl⟩
    · cases step
  | accept i =>
    obtain ⟨run, network, run', journal, at_run, step, rfl⟩ := System.step?_accept moved
    exact absurd ⟨_, .accept at_run step⟩ still
  | work i action =>
    obtain ⟨run, pool, journal, at_run, step, rfl⟩ := System.step?_work moved
    exact absurd ⟨_, .work at_run step⟩ still
  | arrive | nextPort | fault | setClock =>
    cases moved
    exact ⟨settled, rfl, silent _ rfl⟩

/-- The last record shows the statistics of a server that was stopped. -/
def Reported (s : Scene) : Prop :=
  s.Settled ∧ ∃ clock, s.records.getLast? = some (.ofStats clock s.system.server.stats)

theorem reported_of_step (ordered : s.system.InOrder)
    (kept : s.system.server.Kept s.system.stage) (inTurn : s.InTurn)
    (agrees : s.stage.Agrees (moves.filterMap Move.finish?))
    (reported : s.stage.isGoing → moves.filterMap Move.finish? ≠ [] → s.Reported)
    (step : Step c s move next) :
    next.stage.isGoing → (moves ++ [move]).filterMap Move.finish? ≠ [] → next.Reported := by
  rw [List.filterMap_append]
  generalize moves.filterMap Move.finish? = finishes at agrees reported
  intro going ended
  cases step with
  | @world outer system outside moved =>
    obtain ⟨settled, clock, last⟩ := reported going (by simpa [Move.finish?] using ended)
    obtain ⟨settled, stats, silent⟩ :=
      settled_of_world ordered kept inTurn settled outside moved
    refine ⟨settled, clock, ?_⟩
    show (s.records ++ told s.system system).getLast? = some (.ofStats clock system.server.stats)
    rw [silent, List.append_nil, stats, last]
  | refused stage | unprepared stage =>
    -- The daemon leaves without having waited.
    rw [stage] at agrees
    subst agrees
    exact absurd rfl ended
  | started | prepared | finished => cases going
  | reported stage =>
    have : s.stage.isGoing := going
    rw [stage] at this
    cases this
  | halted stage last =>
    -- The report comes behind the stop, so it shows the clients that the stop served.
    obtain ⟨past, task, split, _, _, stopped⟩ := inTurn
    rw [task?_eq split, Option.some.injEq] at last
    exact ⟨⟨stopped last, .inl List.getLast?_concat⟩, _, List.getLast?_concat⟩
  | returned stage =>
    have before := reported (by rw [stage]; rfl) (by simpa [Move.finish?] using ended)
    exact before

theorem Reaches.reported {network : Network} {clock : Clock} (sound : network.Sound)
    (reached : Reaches c allowed (ofConfig c network clock) moves s) :
    s.stage.isGoing → moves.filterMap Move.finish? ≠ [] → s.Reported := by
  induction reached with
  | refl => exact nofun
  | step move before _ moved ih =>
    obtain ⟨ordered, kept⟩ := before.kept sound
    exact reported_of_step ordered kept before.inTurn.2 before.agrees ih (step_of_step? moved)

theorem Reaches.stopped {network : Network} {clock : Clock} {result : Except DaemonError Unit}
    (reached : Reaches c allowed (ofConfig c network clock) moves s)
    (returned : s.stage = .returned result) :
    s.system.server.phase = .stopped ∧ ∀ call ∈ s.system.calls, call.isOver := by
  obtain ⟨-, past, task, split, ended, admits, stopped⟩ := reached.inTurn
  rw [returned] at admits
  refine ⟨stopped admits, ?_⟩
  rw [split]
  intro call member
  obtain member | member := List.mem_append.1 member
  · exact ended call member
  · rw [List.mem_singleton.1 member, (admits : task = .stopped)]
    rfl

theorem Reaches.deserted {network : Network} {clock : Clock} {result : Except DaemonError Unit}
    (sound : network.Sound) (reached : Reaches c allowed (ofConfig c network clock) moves s)
    (returned : s.stage = .returned result) : s.system.server.Deserted :=
  System.deserted_of_stopped sound (fun _ _ ok => ok.2)
    (reached.unrestricted.system fun _ => ⟨trivial, trivial⟩) (reached.stopped returned).1

theorem Reaches.last_record {network : Network} {clock : Clock} {result : Except DaemonError Unit}
    (sound : network.Sound) (reached : Reaches c allowed (ofConfig c network clock) moves s)
    (returned : s.stage = .returned result) {finish : Except IoError Signal}
    (waited : .finish finish ∈ moves) :
    ∃ shown, s.records.getLast? = some (.ofStats shown s.system.server.stats) := by
  have finished : finish ∈ moves.filterMap Move.finish? := List.mem_filterMap.2 ⟨_, waited, rfl⟩
  exact (reached.reported sound (by rw [returned]; rfl) (List.ne_nil_of_mem finished)).2

/-! ## The end of a run -/

theorem finish_mem_iff {finish : Except IoError Signal} :
    .finish finish ∈ moves ↔ .finish finish ∈ moves.filter Move.isVisible := by
  simp [List.mem_filter, Move.isVisible]

theorem finish_notMem_of_seenAs {happenings : List Happening} {finish : Except IoError Signal}
    (shown : List.Forall₂ Happening.SeenAs happenings moves) : .finish finish ∉ moves := by
  induction shown with
  | nil => exact List.not_mem_nil
  | @cons happening move _ _ seen _ ih =>
    rw [List.mem_cons]
    rintro (rfl | member)
    · cases happening <;> exact seen.elim
    · exact ih member

theorem finish_mem_of_seenAs {course : Course} {seen : List Move} {finish : Except IoError Signal}
    (shows : course.SeenAs c seen) :
    .finish finish ∈ seen ↔ ∃ happenings, course = .waited happenings finish := by
  cases course with
  | unprepared cause =>
    rw [show seen = [.unprepared cause] from shows]
    simp
  | waited happenings how =>
    obtain ⟨during, rfl, shown⟩ := shows
    have apart : .finish finish ∉ during := finish_notMem_of_seenAs shown
    simp [apart, eq_comm]

/-- Whatever the configuration is, whoever comes and whatever fails: when the daemon returns,
    nothing of its server is left; it has succeeded exactly if a signal came; if it had waited at
    all, the last thing it logged are the counters as they are now; and on a host that keeps its
    promises they show every client that came and is not gone, each of them served.  A daemon that
    is left alone by all but clients that come one by one does return: this is its run, which shows
    its course and has ended accordingly. -/
theorem leaves_nothing (c : Config) {network : Network} (sound : network.Sound) (clock : Clock) :
    (∀ allowed moves s result, Reaches c allowed (ofConfig c network clock) moves s →
      s.stage = .returned result →
        s.system.server.Deserted ∧ (∀ call ∈ s.system.calls, call.isOver) ∧
        (result = .ok () ↔ ∃ signal, .finish (.ok signal) ∈ moves) ∧
        ((∃ finish, .finish finish ∈ moves) →
          ∃ shown, s.records.getLast? = some (.ofStats shown s.system.server.stats)) ∧
        ∀ times : Clock → Prop, times clock →
          (∀ h move, allowed h move → h.Orderly times move) → s.system.ServedAll times) ∧
    ((∀ f ∈ network.faults, f.call.isForStart) → ∀ course,
      (run c network clock course).Concluded ((launch c network clock).1 = .ok ()) course ∧
      ∃ moves s, Reaches c System.anyMove (ofConfig c network clock) moves s ∧
        s.stage = .returned (run c network clock course).result ∧
        s.Shows (run c network clock course).state ∧
        (∀ error, (launch c network clock).1 = .error error →
          moves.filter Move.isVisible = []) ∧
        ((launch c network clock).1 = .ok () →
          course.SeenAs c (moves.filter Move.isVisible))) := by
  refine ⟨?_, fun faults course => ?_⟩
  · intro allowed moves s result reached returned
    obtain ⟨stopped, ended⟩ := reached.stopped returned
    have agrees := reached.agrees
    rw [returned] at agrees
    refine ⟨reached.deserted sound returned, ended, ok_iff_of_agrees agrees, ?_, ?_⟩
    · rintro ⟨finish, waited⟩
      exact reached.last_record sound returned waited
    · intro times shown orderly
      have called := (reached.mono orderly).system fun _ => ⟨⟨rfl, trivial⟩, ⟨rfl, trivial⟩⟩
      exact System.servedAll_of_stopped sound shown (fun _ _ ok => ok.1) called stopped
  · obtain ⟨seen, ⟨moves, s, reached, rfl, returned, shows⟩, refused, started⟩ :=
      @reaches_run c network clock sound faults course
    refine ⟨?_, moves, s, reached, returned, shows, refused, started⟩
    have agrees := reached.agrees
    rw [returned] at agrees
    have finished : ∀ finish, .finish finish ∈ moves ↔ (launch c network clock).1 = .ok () ∧
        ∃ happenings, course = .waited happenings finish := by
      intro finish
      rw [finish_mem_iff]
      cases launched : (launch c network clock).1 with
      | error error => simp [refused error launched]
      | ok => simp [finish_mem_of_seenAs (started launched)]
    constructor
    · exact shows.server ▸ reached.deserted sound returned
    · rw [ok_iff_of_agrees agrees]
      simp only [finished, exists_and_left]
      exact and_congr_right fun _ => exists_comm
    · intro happenings finish launched waited
      have last := reached.last_record sound returned
        ((finished finish).2 ⟨launched, happenings, waited⟩)
      rwa [shows.records, shows.server] at last

/-! ## A daemon with clients at its door -/

/-- A move in which the host does its part. -/
def orderlyStep? (c : Config) (s : Scene) (move : Move) : Option Scene :=
  match move with
  | .world outer => if s.system.isOrderly outer then s.step? c move else none
  | _ => s.step? c move

theorem orderly_of_step {times : Clock → Prop} (moved : s.orderlyStep? c move = some next) :
    (∀ outer, move = .world outer → s.system.Orderly times outer) ∧ s.step? c move = some next := by
  unfold orderlyStep? at moved
  split at moved
  · rename_i outer
    split at moved
    · rename_i orderly
      refine ⟨fun other same => ?_, moved⟩
      cases same
      exact System.orderly_of_isOrderly orderly
    · cases moved
  · rename_i elsewhere
    exact ⟨fun outer same => absurd same (elsewhere outer), moved⟩

theorem Reaches.run {times : Clock → Prop} {more : List Move} {last : Scene}
    (reached : Reaches c (System.Orderly times) first moves s)
    (ran : more.foldlM (orderlyStep? c) s = some last) :
    Reaches c (System.Orderly times) first (moves ++ more) last := by
  induction more generalizing moves s with
  | nil =>
    cases ran
    rw [List.append_nil]
    exact reached
  | cons move more ih =>
    rw [List.foldlM_cons] at ran
    obtain ⟨middle, moved, ran⟩ := Option.bind_eq_some_iff.1 ran
    obtain ⟨orderly, moved⟩ : (∀ outer, move = .world outer → s.system.Orderly times outer) ∧
        s.step? c move = some middle := orderly_of_step moved
    have further := ih (reached.step move orderly moved) ran
    rwa [List.append_assoc] at further

/-- One worker, and room for one client in its queue. -/
def narrow : Config where
  network := { listenAddress := "127.0.0.1", maxConnections := 1 }
  performance := { workerThreads := 1 }

/-- Two clients wait when the signal comes, and a third comes behind the wake-up. -/
def rush : List Move :=
  let arrive : UInt16 → System.Move :=
    fun port => .arrive ⟨.v4 .localhost, port⟩ ⟨.v4 .localhost, 37⟩ {}
  let enqueue : System.Move := .work 0 (.enqueue 0)
  let work : System.Move := .work 0 (.work 0)
  let start : List System.Move := List.replicate 9 (.advance 0)
  let stop : List System.Move := List.replicate 3 (.advance 1) ++ [arrive 5002, .accept 0,
    .accept 0, enqueue, .accept 0, .accept 0, .accept 0, work, enqueue, .accept 0, .accept 0,
    .accept 0, .accept 0, .accept 0, work, work, work, work, enqueue, .accept 0, .accept 0,
    .accept 0, .accept 0, .advance 1] ++ List.replicate 8 work ++ List.replicate 2 (.advance 1)
  start.map .world ++ [.proceed, .proceed, .world (arrive 5000), .world (arrive 5001), .report,
    .finish (.ok .terminate)] ++ stop.map .world ++ [.proceed, .world (.advance 2), .proceed]

/-- The result, once the daemon has returned. -/
def isOk (s : Scene) : Bool :=
  match s.stage with
  | .returned (.ok _) => true
  | _ => false

theorem leaves_nothing_rush : ∃ moves s,
    Reaches narrow (System.Orderly fun _ => True) (ofConfig narrow {} ⟨0, 0⟩) moves s ∧
      s.stage = .returned (.ok ()) ∧ s.system.server.Deserted ∧
        s.system.ServedAll (fun _ => True) ∧ s.system.server.stats.total = 3 ∧
          ∃ shown, s.records.getLast? = some (.ofStats shown s.system.server.stats) := by
  have ends : ((rush.foldlM (orderlyStep? narrow) (ofConfig narrow {} ⟨0, 0⟩)).map fun s =>
      (s.isOk, s.system.remaining)) = some (true, 3) := by
    decide +kernel
  obtain ⟨s, ran, ends⟩ := Option.map_eq_some_iff.1 ends
  obtain ⟨ok, came⟩ := Prod.mk.inj ends
  have returned : s.stage = .returned (.ok ()) := by
    unfold isOk at ok
    split at ok
    · assumption
    · cases ok
  have reached : Reaches narrow (System.Orderly fun _ => True) (ofConfig narrow {} ⟨0, 0⟩) rush s :=
    Reaches.refl.run ran
  obtain ⟨deserted, _, _, reported, served⟩ :=
    (leaves_nothing narrow Network.sound_empty ⟨0, 0⟩).1 _ rush s _ reached returned
  have all := served (fun _ => True) trivial fun _ _ orderly => orderly
  have waited : .finish (.ok .terminate) ∈ rush := by simp [rush]
  exact ⟨rush, s, reached, returned, deserted, all, by rw [all.total, came]; rfl,
    reported ⟨_, waited⟩⟩

end Scene

end Daemon

end TimeServer
