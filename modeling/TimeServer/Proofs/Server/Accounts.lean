import TimeServer.Proofs.Server.Run
import TimeServer.Server.Schedule

/-! # The clients of a run

A run answers for every client that came to its socket: the client waits in the backlog, its
connection is in the pool, or it is gone, because an accept call lost it or the socket was closed.

* `Run.Accounted` — every client is in one of these places, and what was done to it is what its
  place tells;
* `Accounted.arrive`, `Accounted.of_accept`, `Accounted.of_work` and others — new clients and the
  moves of the threads keep it so.
-/

namespace TimeServer

namespace Run

/-- Every client that came to the socket of the run waits there, is in the pool or is gone. -/
structure Accounted (times : Clock → Prop) (rules : AccessRules) (run : Run)
    (backlog guests gone : List Arrival) : Prop where
  numbers : ((run.clients backlog).map Arrival.number ++ run.pool.numbers ++
    gone.map Arrival.number).Perm (guests.map Arrival.number)
  waiting : run.clients backlog ⊆ guests
  known : gone ⊆ guests
  faithful : run.pool.Faithful times (guests.map (·.visitor rules)) (fun _ => True)
    (fun _ => False)

variable {times : Clock → Prop} {rules : AccessRules} {run : Run}
  {backlog guests gone : List Arrival}

/-! ## Clients that come and go -/

theorem Accounted.perm {gone' : List Arrival}
    (accounted : run.Accounted times rules backlog guests gone) (same : gone.Perm gone') :
    run.Accounted times rules backlog guests gone' where
  numbers := ((same.symm.map _).append_left _).trans accounted.numbers
  waiting := accounted.waiting
  known _ member := accounted.known (same.symm.subset member)
  faithful := accounted.faithful

theorem Accounted.arrive (accounted : run.Accounted times rules backlog guests gone)
    {arrival : Arrival} (isClient : run.wakePeer ≠ some arrival.peer) :
    run.Accounted times rules (backlog ++ [arrival]) (guests ++ [arrival]) gone := by
  have clients_eq : run.clients (backlog ++ [arrival]) = run.clients backlog ++ [arrival] := by
    simp [clients, isClient]
  refine ⟨?_, ?_, fun a member => List.mem_append_left _ (accounted.known member), ?_⟩
  · have numbers := accounted.numbers
    rw [List.perm_iff_count] at numbers ⊢
    intro number
    have count := numbers number
    simp only [clients_eq, List.map_append, List.count_append] at count ⊢
    omega
  · rw [clients_eq]
    exact List.append_subset.2 ⟨fun a member => List.mem_append_left _ (accounted.waiting member),
      List.subset_append_right _ _⟩
  · refine accounted.faithful.mono ?_ (fun _ => id) (fun _ => id)
    rw [List.map_append]
    exact List.subset_append_left _ _

theorem Accounted.take {arrival : Arrival} (acceptor : Acceptor)
    (accounted : run.Accounted times rules (arrival :: backlog) guests gone)
    (isClient : run.wakePeer ≠ some arrival.peer) :
    { run with pool := run.pool.offer (arrival.visitor rules).ticket, acceptor }.Accounted times
      rules backlog guests gone := by
  have clients_eq : run.clients (arrival :: backlog) = arrival :: run.clients backlog := by
    simp [clients, isClient]
  have numbers := accounted.numbers
  have waiting := accounted.waiting
  rw [clients_eq] at numbers waiting
  refine ⟨?_, (List.cons_subset.1 waiting).2, accounted.known, ?_⟩
  · show ((run.clients backlog).map Arrival.number ++
      (run.pool.offer (arrival.visitor rules).ticket).numbers ++ gone.map Arrival.number).Perm _
    have more := Pool.perm_numbers_offer run.pool (arrival.visitor rules).ticket
    rw [List.perm_iff_count] at numbers more ⊢
    intro number
    have count := numbers number
    have count_offer := more number
    simp only [List.map_cons, List.count_append, List.count_cons, List.count_nil,
      Visitor.number_ticket, Arrival.visitor] at count count_offer ⊢
    omega
  · exact accounted.faithful.offer (List.mem_map_of_mem (List.cons_subset.1 waiting).1)

theorem Accounted.dismiss {arrival : Arrival} (acceptor : Acceptor)
    (accounted : run.Accounted times rules (arrival :: backlog) guests gone)
    (wakes : run.wakePeer = some arrival.peer) :
    { run with acceptor }.Accounted times rules backlog guests gone := by
  have clients_eq : run.clients (arrival :: backlog) = run.clients backlog := by
    simp [clients, wakes]
  have numbers := accounted.numbers
  have waiting := accounted.waiting
  rw [clients_eq] at numbers waiting
  exact ⟨numbers, waiting, accounted.known, accounted.faithful⟩

theorem Accounted.lose (taken : List Arrival) (acceptor : Acceptor)
    (accounted : run.Accounted times rules (taken ++ backlog) guests gone) :
    { run with acceptor }.Accounted times rules backlog guests (gone ++ run.clients taken) := by
  have clients_eq : run.clients (taken ++ backlog) = run.clients taken ++ run.clients backlog :=
    List.filter_append _ _
  have numbers := accounted.numbers
  have waiting := accounted.waiting
  rw [clients_eq] at numbers waiting
  obtain ⟨taken_known, waiting⟩ := List.append_subset.1 waiting
  refine ⟨?_, waiting, List.append_subset.2 ⟨accounted.known, taken_known⟩, accounted.faithful⟩
  show ((run.clients backlog).map Arrival.number ++ run.pool.numbers ++
    (gone ++ run.clients taken).map Arrival.number).Perm _
  rw [List.perm_iff_count] at numbers ⊢
  intro number
  have count := numbers number
  simp only [List.map_append, List.count_append] at count ⊢
  omega

theorem Accounted.ofAcceptor (acceptor : Acceptor)
    (accounted : run.Accounted times rules backlog guests gone) :
    { run with acceptor }.Accounted times rules backlog guests gone :=
  ⟨accounted.numbers, accounted.waiting, accounted.known, accounted.faithful⟩

/-- Once the source of the wake-up is known, those who waited before are still clients, where none
    of them comes from there, and the wake-up is not. -/
theorem clients_wake {source : SocketAddress} {backlog' : List Arrival}
    (unwoken : run.wakePeer = none) (others : ∀ arrival ∈ backlog, arrival.peer ≠ source)
    (woken : ∃ wakeUps, backlog' = backlog ++ wakeUps ∧
      ∀ arrival ∈ wakeUps, arrival.peer = source) :
    { run with wakePeer := some source }.clients backlog' = run.clients backlog := by
  obtain ⟨wakeUps, rfl, from_source⟩ := woken
  have before : run.clients backlog = backlog := by
    simp [clients, unwoken]
  have kept : backlog.filter (fun arrival => decide (some source ≠ some arrival.peer)) =
      backlog := by
    rw [List.filter_eq_self]
    intro arrival member
    simpa using (others arrival member).symm
  have dropped : wakeUps.filter (fun arrival => decide (some source ≠ some arrival.peer)) = [] := by
    rw [List.filter_eq_nil_iff]
    intro arrival member
    simpa using (from_source arrival member).symm
  rw [before, clients, List.filter_append, kept, dropped, List.append_nil]

/-- The source of the wake-up is known, and no client that waits comes from there; the wake-up
    itself may wait behind the others. -/
theorem Accounted.wake {source : SocketAddress} {backlog' : List Arrival}
    (accounted : run.Accounted times rules backlog guests gone) (unwoken : run.wakePeer = none)
    (others : ∀ arrival ∈ backlog, arrival.peer ≠ source)
    (woken : ∃ wakeUps, backlog' = backlog ++ wakeUps ∧
      ∀ arrival ∈ wakeUps, arrival.peer = source) :
    { run with wakePeer := some source }.Accounted times rules backlog' guests gone := by
  have same := clients_wake unwoken others woken
  refine ⟨?_, ?_, accounted.known, accounted.faithful⟩
  · rw [same]
    exact accounted.numbers
  · rw [same]
    exact accounted.waiting

/-! ## Moves of the threads -/

/-- Handles to the queue and workers come and go, but for workers with a connection. -/
theorem Accounted.ofWorkers (accounted : run.Accounted times rules backlog guests gone)
    (feeds : Nat) {workers : List Worker} (same : workers.filterMap Worker.ticket? = run.pool.held)
    (known : ∀ worker ∈ workers, worker.ticket? ≠ none → worker ∈ run.pool.workers) :
    { run with pool := { run.pool with feeds, workers } }.Accounted times rules backlog guests
      gone where
  numbers := by
    have numbers_eq : { run.pool with feeds, workers }.numbers = run.pool.numbers := by
      simp only [Pool.numbers, Pool.unfinished, Pool.held, same]
    rw [numbers_eq]
    exact accounted.numbers
  waiting := accounted.waiting
  known := accounted.known
  faithful := ⟨accounted.faithful.waiting, accounted.faithful.queue,
    fun worker member busy => accounted.faithful.workers worker (known worker member busy) busy,
    accounted.faithful.finished⟩

theorem Accounted.ofFeeds (accounted : run.Accounted times rules backlog guests gone)
    (feeds : Nat) :
    { run with pool := { run.pool with feeds } }.Accounted times rules backlog guests gone :=
  accounted.ofWorkers feeds rfl fun _ member _ => member

theorem Accounted.of_work {network : Network} {stage : Stage} {clock : Clock}
    {action : Pool.Action} {journal : Journal} {pool : Pool}
    (accounted : run.Accounted times rules backlog guests gone) (kept : run.Kept network stage)
    (shown : times clock) (step : Pool.Step clock run.pool action journal pool) :
    { run with pool }.Accounted times rules backlog guests gone where
  numbers := ((step.perm_numbers.append_left _).append_right _).trans accounted.numbers
  waiting := accounted.waiting
  known := accounted.known
  faithful := by
    refine step.faithful shown accounted.faithful (fun _ _ => trivial) fun number refused => ?_
    -- Who waits does so with the accept thread, which holds a handle to the queue.
    obtain ⟨ticket, waits, _⟩ := Pool.mem_waiting_of_refuses refused
    obtain ⟨mode, handing⟩ := kept.handing (List.ne_nil_of_mem waits)
    obtain ⟨_, fed, _⟩ := kept.of_alive (by simp [handing, Acceptor.isAlive])
    rw [step.refuses?_of_open (by simp [Pool.isOpen, fed])] at refused
    cases refused

theorem loses_of_elsewhere (elsewhere : ∀ mode, run.acceptor ≠ .calling mode) (network : Network) :
    run.loses network = [] := by
  cases acceptor : run.acceptor with
  | calling mode => exact absurd acceptor (elsewhere mode)
  | _ => simp [loses, acceptor]

theorem loses_of_calling {mode : Mode} (calling : run.acceptor = .calling mode)
    (network : Network) : run.loses network = match (network.take? run.endpoint).1 with
      | some (.error _) => run.clients ((network.backlog run.endpoint).take 1)
      | _ => [] := by
  rcases taken : network.take? run.endpoint with ⟨_ | _ | _, _⟩ <;> simp [loses, calling, taken]

theorem forsakes_of_elsewhere (elsewhere : run.acceptor ≠ .closing) (network : Network) :
    run.forsakes network = [] := if_neg elsewhere

theorem Accounted.stay {network : Network} (acceptor : Acceptor)
    (accounted : run.Accounted times rules backlog guests gone)
    (uncalled : ∀ mode, run.acceptor ≠ .calling mode) (unclosed : run.acceptor ≠ .closing) :
    { run with acceptor }.Accounted times rules backlog guests
      (gone ++ run.loses network ++ run.forsakes network) := by
  rw [loses_of_elsewhere uncalled, forsakes_of_elsewhere unclosed, List.append_nil,
    List.append_nil]
  exact accounted.ofAcceptor acceptor

theorem Accounted.of_fails {network network' : Network} {mode : Mode} {e : IoError}
    (accounted : run.Accounted times rules (network.backlog run.endpoint) guests gone)
    (failed : run.Fails network mode e network') (acceptor : Acceptor) :
    { run with acceptor }.Accounted times rules (network'.backlog run.endpoint) guests
      (gone ++ run.loses network ++ run.forsakes network) := by
  cases failed with
  | early accepting => exact accounted.stay _ (by simp [accepting]) (by simp [accepting])
  | late calling failed =>
    obtain ⟨first, waits, _⟩ := Network.backlog_of_take? failed
    rw [loses_of_calling calling, failed, forsakes_of_elsewhere (by simp [calling]),
      List.append_nil]
    rw [waits] at accounted ⊢
    exact Accounted.lose [first] _ accounted

/-- A move of the accept thread takes the first client that waits into the pool, or loses it, or
    leaves it, and the last one turns away those who still wait. -/
theorem Accounted.of_accept {s : Server} {network' : Network} {run' : Run} {journal : Journal}
    (accounted : run.Accounted times s.rules (s.network.backlog run.endpoint) guests gone)
    (unwoken : s.phase = .running → run.wakePeer = none)
    (step : Step s run network' run' journal) :
    run'.Accounted times s.rules (network'.backlog run'.endpoint) guests
      (gone ++ run.loses s.network ++ run.forsakes s.network) := by
  cases step with
  | ready here | blind here | shut here | call here =>
    exact accounted.stay _ (by simp [here]) (by simp [here])
  | retry before failed | broken failed => exact accounted.of_fails failed _
  | @take mode arrival network faults before after calling taken _ isClient =>
    obtain ⟨first, waits, outcome⟩ := Network.backlog_of_take? taken
    obtain rfl : arrival = first := by simpa using outcome
    -- While the server runs nobody was sent to wake the thread, and later the thread looks.
    have client : run.wakePeer ≠ some arrival.peer := by
      refine isClient.elim (fun serving => ?_) id
      have running : s.phase = .running := by
        by_contra halted
        cases mode <;> simp [Server.nextMode, halted] at serving
      simp [unwoken running]
    rw [loses_of_calling calling, taken, forsakes_of_elsewhere (by simp [calling]),
      List.append_nil, List.append_nil]
    rw [waits] at accounted
    exact accounted.take (.handing (s.nextMode network mode)) client
  | @dismiss mode arrival network faults before calling taken _ drains wakes =>
    obtain ⟨first, waits, outcome⟩ := Network.backlog_of_take? taken
    obtain rfl : arrival = first := by simpa using outcome
    rw [loses_of_calling calling, taken, forsakes_of_elsewhere (by simp [calling]),
      List.append_nil, List.append_nil]
    rw [waits] at accounted
    exact accounted.dismiss (.accepting (s.nextMode network mode)) wakes
  | drained calling empty =>
    have none_taken : (s.network.take? run.endpoint).1 = none := by
      simp [Network.take?, empty]
    rw [loses_of_calling calling, none_taken, forsakes_of_elsewhere (by simp [calling]),
      List.append_nil, List.append_nil]
    exact accounted.ofAcceptor _
  | close closing =>
    rw [loses_of_elsewhere (by simp [closing]), forsakes, if_pos closing, List.append_nil,
      Network.backlog_close, if_pos rfl]
    have left : { run with acceptor := .exited }.Accounted times s.rules [] guests
        (gone ++ run.clients (s.network.backlog run.endpoint)) :=
      Accounted.lose (s.network.backlog run.endpoint) .exited (by rwa [List.append_nil])
    exact left.ofFeeds (run.pool.feeds - 1)

end Run

end TimeServer
