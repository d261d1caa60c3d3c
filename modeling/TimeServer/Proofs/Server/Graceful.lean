import TimeServer.Proofs.Server.Drain
import TimeServer.Proofs.Server.Gauge

/-! # Stopping gracefully

A stop returns when every client has been served whose connection was complete before the accept
thread made its last accept call.

* `Run.Served` — what was done to the clients of a run that is over;
* `System.guestsAt`, `System.punctualAt` — the clients that came to a socket and were not lost, and
  those among them that did not come too late;
* `served_of_stop` — whatever the order of moves, a stop that returns leaves none of these unserved,
  and the counters show each of them once;
* `unserved_late` — those who come too late are turned away.
-/

namespace TimeServer

/-- What a client was given: its connection was served and closed as a whole visit, at one of these
    times, and its stream shut down once. -/
structure Arrival.Visited (times : Clock → Prop) (rules : AccessRules) (arrival : Arrival)
    (connection : Connection) : Prop where
  visit : (arrival.visitor rules).Released times connection
  shutdowns : connection.stream.shutdowns = arrival.stream.shutdowns + 1
  /-- An admitted client whose stream takes everything got exactly the time. -/
  admitted : rules.check (clientAddress arrival.peer) = .allow → arrival.stream.acceptsAll →
    ∃ clock, times clock ∧ connection.stream.accepted = arrival.stream.accepted ++ encode clock.now
  /-- A rejected client got nothing, and no call was made on its stream but the one that shuts it
      down. -/
  rejected : rules.check (clientAddress arrival.peer) ≠ .allow →
    connection.stream.accepted = arrival.stream.accepted ∧
      connection.stream.calls = arrival.stream.calls ++ [.shutdown]

theorem Arrival.visited_of_released {times : Clock → Prop} {rules : AccessRules} {arrival : Arrival}
    {connection : Connection} (released : (arrival.visitor rules).Released times connection) :
    arrival.Visited times rules connection where
  visit := released
  shutdowns := released.shutdowns
  admitted allow all := by
    obtain ⟨clock, shown, rfl⟩ := released
    exact ⟨clock, shown, Connection.accepted_visit_of_allow allow all⟩
  rejected refused := by
    obtain ⟨clock, _, rfl⟩ := released
    exact Connection.calls_visit_of_refused refused

/-- The clients of a run are served: their connections are over, one for each of them and no
    other. -/
structure Run.Served (times : Clock → Prop) (rules : AccessRules) (run : Run)
    (guests : List Arrival) : Prop where
  unfinished : run.pool.unfinished = []
  numbers : (run.pool.finished.map Ticket.number).Perm (guests.map Arrival.number)
  visited : ∀ arrival ∈ guests, ∃ connection,
    run.pool.finished.filter (·.number = arrival.number) = [⟨arrival.number, connection⟩] ∧
      arrival.Visited times rules connection

namespace Run

variable {times : Clock → Prop} {rules : AccessRules} {run : Run} {guests gone : List Arrival}

/-- The numbers that are left when some clients are gone are those of the others. -/
theorem perm_of_gone {numbers : List Nat} (distinct : (guests.map Arrival.number).Nodup)
    (known : gone ⊆ guests)
    (all : (numbers ++ gone.map Arrival.number).Perm (guests.map Arrival.number)) :
    numbers.Perm ((guests.filter (· ∉ gone)).map Arrival.number) := by
  have gone_distinct : gone.Nodup :=
    (List.nodup_append.1 (all.nodup_iff.2 distinct)).2.1.of_map _
  have gone_perm : (guests.filter (· ∈ gone)).Perm gone := by
    refine (List.perm_ext_iff_of_nodup (distinct.of_map _ |>.filter _) gone_distinct).2 fun a => ?_
    simpa using fun member => known member
  have parts : (guests.filter (· ∈ gone) ++ guests.filter (· ∉ gone)).Perm guests := by
    simpa using List.filter_append_perm (fun a => decide (a ∈ gone)) guests
  have split : (guests.map Arrival.number).Perm
      ((guests.filter (· ∉ gone)).map Arrival.number ++ gone.map Arrival.number) := by
    refine (parts.symm.map Arrival.number).trans ?_
    rw [List.map_append]
    exact List.perm_append_comm.trans ((gone_perm.map _).append_left _)
  exact (List.perm_append_right_iff _).1 (all.trans split)

/-- In a run without unfinished connections at whose socket nobody waits every client was served,
    but for those that are gone. -/
theorem Accounted.served (accounted : run.Accounted times rules [] guests gone)
    (unfinished : run.pool.unfinished = []) (distinct : (guests.map Arrival.number).Nodup) :
    run.Served times rules (guests.filter (· ∉ gone)) := by
  have numbers : (run.pool.finished.map Ticket.number).Perm
      ((guests.filter (· ∉ gone)).map Arrival.number) := by
    refine perm_of_gone distinct accounted.known ?_
    simpa [clients, Pool.numbers, unfinished] using accounted.numbers
  have left_distinct := distinct.sublist
    ((List.filter_sublist (p := fun a => decide (a ∉ gone))).map Arrival.number)
  refine ⟨unfinished, numbers, fun arrival member => ?_⟩
  obtain ⟨ticket, past, same⟩ :=
    List.mem_map.1 (numbers.mem_iff.2 (List.mem_map_of_mem (f := Arrival.number) member))
  obtain ⟨visitor, known, number_eq, ⟨_, released⟩ | ⟨refused, _⟩⟩ :=
    accounted.faithful.finished ticket past
  · -- The connection of that number is the one of this client.
    obtain ⟨other, other_mem, rfl⟩ := List.mem_map.1 known
    obtain rfl : other = arrival :=
      List.inj_on_of_nodup_map distinct other_mem (List.mem_of_mem_filter member)
        (number_eq.symm.trans same)
    have alone := Pool.filter_number (numbers.nodup_iff.2 left_distinct) past
    refine ⟨ticket.connection, ?_, Arrival.visited_of_released released⟩
    rw [← same]
    exact alone
  · exact refused.elim

end Run

namespace System

variable {times : Clock → Prop} {h next : System}

/-- The clients that came to a socket and were not lost by accept calls which failed. -/
def guestsAt (h : System) (endpoint : Nat) : List Arrival :=
  (Guest.atSocket h.guests endpoint).filter (· ∉ Guest.atSocket h.lost endpoint)

/-- Those among them for which the last accept call was still to be made when they came. -/
def punctualAt (h : System) (endpoint : Nat) : List Arrival :=
  (h.guestsAt endpoint).filter (· ∉ Guest.atSocket h.late endpoint)

/-- The clients that came to a socket and are not gone. -/
def remainingAt (h : System) (endpoint : Nat) : List Arrival :=
  (Guest.atSocket h.guests endpoint).filter (· ∉ Guest.atSocket h.gone endpoint)

theorem remainingAt_eq (h : System) (endpoint : Nat) :
    h.remainingAt endpoint =
      (h.guestsAt endpoint).filter (· ∉ Guest.atSocket h.forsaken endpoint) := by
  rw [remainingAt, guestsAt, List.filter_filter]
  apply List.filter_congr
  intro arrival _
  simp [gone, Guest.atSocket_append, Bool.and_comm]

/-- How many clients came in time to the sockets of the runs whose accept thread was created and has
    ended. -/
def clients (h : System) : Nat :=
  (h.server.runs.map fun run =>
    if run.acceptor = .exited then (h.punctualAt run.endpoint).length else 0).sum

theorem Booked.distinctAt (booked : h.Booked times) (endpoint : Nat) :
    ((Guest.atSocket h.guests endpoint).map Arrival.number).Nodup := by
  rw [Guest.atSocket, List.map_map]
  exact booked.distinct.sublist (List.filter_sublist.map _)

/-- At the socket of a run that is over every client is in the pool or gone. -/
theorem Booked.accounted_of_past (booked : h.Booked times) {i : Nat} {run : Run}
    (at_run : h.server.runs[i]? = some run) (past : run.Kept h.server.network .past)
    (exited : run.acceptor = .exited) :
    run.Accounted times h.server.rules [] (Guest.atSocket h.guests run.endpoint)
      (Guest.atSocket h.gone run.endpoint) := by
  have accounted := booked.accounts i run at_run fun absent => by
    rw [exited] at absent
    cases absent
  rwa [not_imp_comm.1 Network.mem_sockets_of_backlog past.fits.2.2.2.2] at accounted

theorem Booked.served (booked : h.Booked times) {i : Nat} {run : Run}
    (at_run : h.server.runs[i]? = some run) (past : run.Kept h.server.network .past)
    (exited : run.acceptor = .exited) :
    run.Served times h.server.rules (h.remainingAt run.endpoint) :=
  (booked.accounted_of_past at_run past exited).served past.fits.2.2.1 (booked.distinctAt _)

theorem InOrder.past_of_stopped (ordered : h.InOrder) (stopped : h.server.phase = .stopped)
    (i : Nat) : h.stage i = .past := by
  -- No run is in the slot, and none in the hands of a call that acts.
  have vacant : h.acting.head?.bind (Task.stage? h.server.phase.service) = none ∧
      h.server.slot = none := by
    rw [InOrder, stopped] at ordered
    generalize h.acting = acting at ordered ⊢
    generalize h.waiting = waiting at ordered
    generalize h.server.slot = slot at ordered ⊢
    generalize h.server.locked = locked at ordered
    cases ordered with
    | stopped | failed => exact ⟨rfl, rfl⟩
    | @inside _ task fits => cases task <;> simp [Task.insidePhases] at fits
    | filled fits | running fits => simp at fits
  exact Server.stage_of_vacant _ vacant.1 vacant.2 i

theorem past_of_stopped (ordered : h.InOrder) (kept : h.server.Kept h.stage)
    (stopped : h.server.phase = .stopped) {i : Nat} {run : Run}
    (at_run : h.server.runs[i]? = some run) : run.Kept h.server.network .past := by
  have run_kept := kept.runs i run at_run
  rwa [ordered.past_of_stopped stopped] at run_kept

/-- When every run is over, as many connections were taken on as clients remain. -/
theorem Booked.connections_eq (booked : h.Booked times)
    (past : ∀ (i : Nat) (run : Run),
      h.server.runs[i]? = some run → run.Kept h.server.network .past) :
    h.server.unfinished = 0 ∧ h.server.connections = (h.server.runs.map fun run =>
      if run.acceptor = .exited then (h.remainingAt run.endpoint).length else 0).sum := by
  have at_end : ∀ run ∈ h.server.runs, run.pool.unfinished = [] ∧ run.pool.numbers.length =
      if run.acceptor = .exited then (h.remainingAt run.endpoint).length else 0 := by
    intro run member
    obtain ⟨i, at_run⟩ := List.getElem?_of_mem member
    obtain ⟨⟨absent, none_came⟩ | exited, _, unfinished, _⟩ := (past i run at_run).fits
    · refine ⟨unfinished, ?_⟩
      simp [absent, none_came]
    · have length_eq := (booked.served at_run (past i run at_run) exited).numbers.length_eq
      rw [List.length_map, List.length_map] at length_eq
      refine ⟨unfinished, ?_⟩
      rw [if_pos exited, ← length_eq, Pool.numbers, unfinished, List.nil_append, List.length_map]
  constructor
  · exact Server.unfinished_eq_zero fun run member => (at_end run member).1
  · rw [Server.connections, List.map_congr_left fun run member => (at_end run member).2]

theorem stopped_of_returned (times : Clock → Prop) {call : Nat}
    (settling : h.calls[call]? = some .settling) (returned : h.step? (.advance call) = some next) :
    h.Orderly times (.advance call) ∧ next.server.phase = .stopped := by
  refine ⟨⟨by simp [Unovertaken, overtakes, settling], fun i run waking => ?_⟩, ?_⟩
  · rw [settling] at waking
    cases waking
  · obtain ⟨before, task, after, task', server, split, rfl, step, rfl⟩ := step?_advance returned
    obtain rfl : task = .settling := by simpa [split] using settling
    exact (Server.stopped_of_settling step).2

/-- The host does its part in a move and lets the accept threads look for clients. -/
def Graceful (times : Clock → Prop) (h : System) (move : Move) : Prop :=
  h.Orderly times move ∧ h.DrainsWell move

theorem timely_of_reaches {settings : Settings} {network : Network} {clock : Clock}
    (sound : network.Sound) (shown : times clock)
    (reached : Reaches (Graceful times) (ofServer (.ofSettings settings network clock)) h) :
    ((h.InOrder ∧ h.server.Kept h.stage) ∧ h.Booked times) ∧ h.Timely := by
  refine reached.induction
    (P := fun h => ((h.InOrder ∧ h.server.Kept h.stage) ∧ h.Booked times) ∧ h.Timely)
    ⟨booked_of_reaches sound shown (fun _ _ orderly => orderly) .refl, ?_⟩ ?_
  · refine ⟨fun i run at_run => ?_, List.Subset.refl _⟩
    cases at_run
  · intro h next move ⟨⟨⟨ordered, kept⟩, booked⟩, timely⟩ ⟨orderly, well⟩ moved
    exact ⟨⟨⟨inOrder_step ordered orderly.1 moved, kept_step ordered kept moved⟩,
      booked_step booked ordered kept orderly moved⟩,
      timely_step timely booked ordered kept orderly well moved⟩

/-- Whatever the settings and the order of moves: when a stop returns, every client whose connection
    was complete before the last accept call, and that no failing call lost, was served and closed
    exactly once, unless the run had failed to start; those who came after that call, and nobody
    else, were turned away; the wake-up was dropped; and the counters show every client that was
    served once and none as active. -/
theorem served_of_stop {settings : Settings} {network : Network} {clock : Clock} {call : Nat}
    (sound : network.Sound) (shown : times clock)
    (reached : Reaches (Graceful times) (ofServer (.ofSettings settings network clock)) h)
    (settling : h.calls[call]? = some .settling) (returned : h.step? (.advance call) = some next) :
    next.server.phase = .stopped ∧
      (∀ run ∈ next.server.runs,
        run.acceptor = .absent ∧ run.pool.numbers = [] ∨
          run.acceptor = .exited ∧
            run.Served times next.server.rules (next.punctualAt run.endpoint) ∧
            Guest.atSocket next.forsaken run.endpoint =
              Guest.atSocket next.late run.endpoint) ∧
      next.server.stats.total = UInt64.ofNat next.clients ∧
      (next.crowd < 2 ^ 64 → next.server.stats.active = 0) := by
  obtain ⟨orderly, stopped⟩ := stopped_of_returned times settling returned
  have reached' := reached.step _ ⟨orderly, trivial⟩ returned
  have counted := counted_of_reaches reached'
  obtain ⟨⟨⟨ordered, kept⟩, booked⟩, timely⟩ := timely_of_reaches sound shown reached'
  have past : ∀ (i : Nat) (run : Run), next.server.runs[i]? = some run →
      run.Kept next.server.network .past :=
    fun _ _ at_run => past_of_stopped ordered kept stopped at_run
  obtain ⟨unfinished, connections⟩ := booked.connections_eq past
  have turned_away : ∀ run ∈ next.server.runs, run.acceptor = .exited →
      Guest.atSocket next.forsaken run.endpoint = Guest.atSocket next.late run.endpoint := by
    intro run member exited
    obtain ⟨i, at_run⟩ := List.getElem?_of_mem member
    have at_end := timely.runs i run at_run
    rwa [Run.Timely, exited] at at_end
  have remaining : ∀ run ∈ next.server.runs, run.acceptor = .exited →
      next.remainingAt run.endpoint = next.punctualAt run.endpoint := by
    intro run member exited
    rw [remainingAt_eq, turned_away run member exited, punctualAt]
  refine ⟨stopped, fun run member => ?_, ?_, fun few => ?_⟩
  · obtain ⟨i, at_run⟩ := List.getElem?_of_mem member
    refine (past i run at_run).fits.1.imp_right fun exited => ⟨exited, ?_, ?_⟩
    · rw [← remaining run member exited]
      exact booked.served at_run (past i run at_run) exited
    · exact turned_away run member exited
  · rw [counted.total, connections, clients, List.map_congr_left fun run member => ?_]
    split
    · rename_i exited
      rw [remaining run member exited]
    · rfl
  · have shows := counted.active few
    rw [unfinished] at shows
    exact UInt64.toNat_inj.1 shows

/-! ## A stop among clients -/

/-- Whether the host does its part in a move. -/
def isOrderly (h : System) (move : Move) : Bool :=
  !h.overtakes move &&
    match move with
    | .advance call =>
      match h.calls[call]? with
      | some (.waking i) => (h.server.runs[i]?).all fun run => h.server.WakesApart run
      | _ => true
    | .arrive source target stream => (h.guest? source target stream).all fun guest =>
      h.server.runs.all fun run =>
        run.endpoint = guest.endpoint → run.wakePeer ≠ some guest.arrival.peer
    | .setClock _ => false
    | _ => true

theorem orderly_of_isOrderly {move : Move} (orderly : h.isOrderly move) :
    h.Orderly times move := by
  simp only [isOrderly, Bool.and_eq_true, Bool.not_eq_true'] at orderly
  obtain ⟨unovertaken, orderly⟩ := orderly
  refine ⟨unovertaken, ?_⟩
  cases move with
  | advance call =>
    intro i run waking at_run
    simpa [waking, at_run] using orderly
  | arrive source target stream =>
    intro guest came run member
    simp only [came, Option.all_some, List.all_eq_true, decide_eq_true_eq] at orderly
    exact orderly run member
  | setClock clock => cases orderly
  | start | stop | accept | work | nextPort | fault => trivial

/-- Where nothing but interruptions is in store for the calls of the host, accept threads can look
    for the clients that wait. -/
theorem drainsWell_of_interruptions {s : Server}
    (only : ∀ f ∈ s.network.faults, f.call = .acceptLate ∧ f.code = 4) (run : Run) :
    run.DrainsWell s := by
  have passes : ∀ {call}, call ≠ .acceptLate → s.network.trip call = (none, s.network) := by
    intro call other
    exact Network.trip_of_absent fun f member same => other (same ▸ (only f member).1)
  refine ⟨fun _ _ => congrArg Prod.fst (passes (by decide)), fun canPoll e network failed => ?_⟩
  cases failed with
  | early _ _ failed =>
    rw [passes (by decide)] at failed
    cases failed
  | late _ failed =>
    cases waits : s.network.backlog run.endpoint with
    | nil => simp [Network.take?, waits] at failed
    | cons arrival rest =>
      simp only [Network.take?, waits, Network.trip] at failed
      cases met : (Network.takeFault .acceptLate s.network.faults).1 with
      | none => simp [Network.changeBacklog, met] at failed
      | some code =>
        obtain ⟨f, member, _, rfl⟩ := Network.mem_of_takeFault met
        simp only [Network.changeBacklog, met, Option.map_some, Prod.mk.injEq, Option.some.injEq,
          Except.error.injEq] at failed
        rw [← failed.1, (only f member).2]
        decide

/-- A move of a host that lets the accept threads look for clients. -/
def gracefulStep? (h : System) (move : Move) : Option System :=
  if h.isOrderly move ∧ ∀ f ∈ h.server.network.faults, f.call = .acceptLate ∧ f.code = 4 then
    h.step? move
  else none

theorem graceful_of_step {move : Move} (moved : h.gracefulStep? move = some next) :
    h.Graceful times move ∧ h.step? move = some next := by
  simp only [gracefulStep?] at moved
  split at moved
  · rename_i calm
    refine ⟨⟨orderly_of_isOrderly calm.1, ?_⟩, moved⟩
    cases move with
    | accept i => exact fun run _ => drainsWell_of_interruptions calm.2 run
    | start | stop | advance | work | arrive | nextPort | fault | setClock => trivial
  · cases moved

/-- A server with one worker and room for one client in its queue. -/
def small : System :=
  ofServer (.ofSettings { listenAddress := "127.0.0.1", workerThreads := 1, maxConnections := 1 } {}
    ⟨0, 0⟩)

/-- Two clients wait when the server is stopped, a third comes behind the wake-up, and a fourth when
    the accept thread has found nobody waiting any more. -/
def rush : List Move :=
  let arrive : UInt16 → Move := fun port => .arrive ⟨.v4 .localhost, port⟩ ⟨.v4 .localhost, 37⟩ {}
  let enqueue : Move := .work 0 (.enqueue 0)
  let work : Move := .work 0 (.work 0)
  [.start] ++ List.replicate 9 (.advance 0) ++ [arrive 5000, arrive 5001, .stop] ++
    List.replicate 3 (.advance 1) ++ [arrive 5002, .accept 0, .accept 0, enqueue, .accept 0,
      .accept 0, .accept 0, work, enqueue, .accept 0, .accept 0, .accept 0, .accept 0, .accept 0,
      work, work, work, work, enqueue, .accept 0, .accept 0, .accept 0, arrive 5003, .accept 0,
      .advance 1] ++ List.replicate 8 work ++ [.advance 1]

/-- One client comes when the server is stopped, and the call that takes it is interrupted. -/
def interrupted : List Move :=
  [.start] ++ List.replicate 9 (.advance 0) ++ [.fault ⟨.acceptLate, 4, 0⟩,
    .arrive ⟨.v4 .localhost, 5000⟩ ⟨.v4 .localhost, 37⟩ {}, .stop, .advance 1, .accept 0, .accept 0,
    .advance 1, .advance 1] ++ List.replicate 5 (.accept 0) ++ [.advance 1, .work 0 (.work 0),
      .advance 1]

/-- What a schedule comes to: a stop is about to return, and after that the server is like this. -/
def ends (first : System) (move? : System → Move → Option System) (moves : List Move)
    (summary : System → Bool) : Bool :=
  ((first.run move? moves).bind fun h => (h.step? (.advance 1)).map fun next =>
    (h.calls[1]?).any (fun task => task.hasEmptied && (task.stage? .halted).isNone) &&
      next.server.runs.all (·.acceptor = .exited) && summary next) = some true

theorem of_ends {first : System} {move? : System → Move → Option System}
    {moves : List Move} {summary : System → Bool}
    (allowed : System → Move → Prop)
    (steps : ∀ h move next, move? h move = some next → allowed h move ∧ h.step? move = some next)
    (seen : ends first move? moves summary) : ∃ h next, Reaches allowed first h ∧
      h.calls[1]? = some .settling ∧ h.step? (.advance 1) = some next ∧
        (∀ run ∈ next.server.runs, run.acceptor = .exited) ∧ summary next := by
  obtain ⟨h, ran, seen⟩ := Option.bind_eq_some_iff.1 (of_decide_eq_true seen)
  obtain ⟨next, moved, seen⟩ := Option.map_eq_some_iff.1 seen
  simp only [Bool.and_eq_true, List.all_eq_true, decide_eq_true_eq] at seen
  obtain ⟨⟨stands, exited⟩, summed⟩ := seen
  obtain ⟨task, found, settling⟩ := (Option.any_eq_true _ _).1 stands
  have is_settling : task = .settling := by
    cases task <;> simp [Task.hasEmptied, Task.stage?] at settling ⊢
  subst is_settling
  exact ⟨h, next, Reaches.refl.run ran steps, found, moved, exited, summed⟩

theorem served_of_stop_rush : ∃ h next, Reaches (Graceful fun _ => True) small h ∧
    h.calls[1]? = some .settling ∧ h.step? (.advance 1) = some next ∧ next.clients = 3 ∧
      next.forsaken.length = 1 ∧ next.server.stats.total = 3 ∧ next.server.stats.active = 0 := by
  have seen : ends small gracefulStep? rush (fun next => next.clients = 3 ∧ next.crowd = 3 ∧
      next.forsaken.length = 1) := by
    decide +kernel
  obtain ⟨h, next, reached, found, moved, _, summed⟩ := of_ends (Graceful fun _ => True)
    (fun _ _ _ => graceful_of_step) seen
  obtain ⟨came, crowd, away⟩ := of_decide_eq_true summed
  obtain ⟨_, _, total, active⟩ := served_of_stop Network.sound_empty trivial reached found moved
  rw [came] at total
  rw [crowd] at active
  exact ⟨h, next, reached, found, moved, came, away, total, active (by decide)⟩

/-- How many connections of each run are over, and how many clients they should be. -/
def tally (h : System) (guests : Nat → List Arrival) : List (Nat × Nat) :=
  h.server.runs.map fun run => (run.pool.finished.length, (guests run.endpoint).length)

theorem unserved_of_tally {rules : AccessRules} {guests : Nat → List Arrival} {done came : Nat}
    (tallied : h.tally guests = [(done, came)]) (fewer : done ≠ came) :
    ∃ run ∈ h.server.runs, ¬ run.Served times rules (guests run.endpoint) := by
  obtain ⟨run, rest, split, counts, _⟩ := List.map_eq_cons_iff.1 tallied
  obtain ⟨rfl, rfl⟩ := Prod.mk.inj counts
  refine ⟨run, by simp [split], fun served => fewer ?_⟩
  have same := served.numbers.length_eq
  rwa [List.length_map, List.length_map] at same

/-- A host on which a connection shows the loopback address if its socket is bound to an unspecified
    one. -/
def redirecting : NetworkRules :=
  { NetworkRules.loopback with
    shown := fun ip => if ip.canonical = .v4 .unspecified then .v6 (.mapped .localhost) else ip }

/-- A server on the mapped form of the unspecified address. -/
def onMapped : System :=
  ofServer (.ofSettings { listenAddress := "::ffff:0.0.0.0", workerThreads := 1 }
    { rules := redirecting } ⟨0, 0⟩)

/-- A move of a host where no call fails. -/
def faultlessStep? (h : System) (move : Move) : Option System :=
  if h.server.network.faults = [] then keepStep? h move else none

theorem drainsWell_of_faultless {move : Move} (moved : h.faultlessStep? move = some next) :
    (h.Unovertaken move ∧ h.DrainsWell move) ∧ h.step? move = some next := by
  simp only [faultlessStep?] at moved
  split at moved
  · rename_i faultless
    obtain ⟨unovertaken, moved⟩ := of_keepStep? moved
    refine ⟨⟨unovertaken, ?_⟩, moved⟩
    cases move with
    | accept i => exact fun run _ => drainsWell_of_interruptions (by simp [faultless]) run
    | start | stop | advance | work | arrive | nextPort | fault | setClock => trivial
  · cases moved

/-- Nobody comes, and the server is stopped. -/
def deserted : List Move :=
  [.start] ++ List.replicate 9 (.advance 0) ++ [.stop] ++ List.replicate 3 (.advance 1) ++
    [.accept 0, .accept 0, .work 0 (.enqueue 0)] ++ List.replicate 4 (.accept 0) ++ [.advance 1] ++
      List.replicate 5 (.work 0 (.work 0)) ++ [.advance 1]

/-- Not every client is served that comes before the socket is closed: neither one that comes after
    the last accept call nor one that an interrupted call has lost.  And where the wake-up does not
    show the address that its socket is bound to, it is counted as a client. -/
theorem unserved_late :
    (∃ h next, Reaches (Graceful fun _ => True) small h ∧ h.calls[1]? = some .settling ∧
      h.step? (.advance 1) = some next ∧ next.lost = [] ∧ ∃ run ∈ next.server.runs,
        run.acceptor = .exited ∧ ¬ run.Served (fun _ => True) next.server.rules
          (Guest.atSocket next.guests run.endpoint)) ∧
    (∃ h next, Reaches (Graceful fun _ => True) small h ∧ h.calls[1]? = some .settling ∧
      h.step? (.advance 1) = some next ∧ next.late = [] ∧ ∃ run ∈ next.server.runs,
        run.acceptor = .exited ∧ ¬ run.Served (fun _ => True) next.server.rules
          (Guest.atSocket next.guests run.endpoint)) ∧
    (∃ h next, Reaches (fun h move => h.Unovertaken move ∧ h.DrainsWell move) onMapped h ∧
      h.calls[1]? = some .settling ∧ h.step? (.advance 1) = some next ∧ next.guests = [] ∧
        next.server.stats.total = 1) := by
  refine ⟨?_, ?_, ?_⟩
  · have seen : ends small gracefulStep? rush (fun next =>
        next.lost = [] ∧ next.tally (Guest.atSocket next.guests) = [(3, 4)]) := by
      decide +kernel
    obtain ⟨h, next, reached, found, moved, exited, summed⟩ :=
      of_ends _ (fun _ _ _ => graceful_of_step) seen
    obtain ⟨lost, tallied⟩ := of_decide_eq_true summed
    obtain ⟨run, member, unserved⟩ := unserved_of_tally tallied (by decide)
    exact ⟨h, next, reached, found, moved, lost, run, member, exited run member, unserved⟩
  · have seen : ends small gracefulStep? interrupted (fun next =>
        next.late = [] ∧ next.tally (Guest.atSocket next.guests) = [(0, 1)]) := by
      decide +kernel
    obtain ⟨h, next, reached, found, moved, exited, summed⟩ :=
      of_ends _ (fun _ _ _ => graceful_of_step) seen
    obtain ⟨late, tallied⟩ := of_decide_eq_true summed
    obtain ⟨run, member, unserved⟩ := unserved_of_tally tallied (by decide)
    exact ⟨h, next, reached, found, moved, late, run, member, exited run member, unserved⟩
  · have seen : ends onMapped faultlessStep? deserted
        (fun next => next.guests = [] ∧ next.server.stats.total = 1) := by
      decide +kernel
    obtain ⟨h, next, reached, found, moved, _, summed⟩ :=
      of_ends _ (fun _ _ _ => drainsWell_of_faultless) seen
    exact ⟨h, next, reached, found, moved, of_decide_eq_true summed⟩

end System

end TimeServer
