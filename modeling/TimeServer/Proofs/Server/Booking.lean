import TimeServer.Proofs.Address.Client
import TimeServer.Proofs.Server.Accounts
import TimeServer.Proofs.Server.Runs

/-! # The clients of a server

Every client that came to the socket of a run is accounted for, whatever the order of moves.

* `System.Orderly` — what it takes: the host gives every connection a source of its own and shows
  the accept thread that of the wake-up, and no start that failed sets the phase back under a stop;
* `System.Booked` — the invariant;
* `booked_of_reaches` — it holds in every state.
-/

namespace TimeServer

/-- The source of a wake-up is in the family of its target, where the socket shows it as it is. -/
theorem Endpoint.seenAs_wakeTarget (e : Endpoint) :
    e.seenAs (Server.wakeTarget e.address).ip = (Server.wakeTarget e.address).ip := by
  cases ip : e.address.ip with
  | v4 a => by_cases unspecified : a = .unspecified <;>
      simp [seenAs, Server.wakeTarget, ip, unspecified, IpAddress.canonical]
  | v6 a => by_cases unspecified : a = .unspecified <;>
      simp [seenAs, Server.wakeTarget, ip, unspecified]

/-- Those of the clients that came to this socket. -/
def Guest.atSocket (guests : List Guest) (endpoint : Nat) : List Arrival :=
  (guests.filter (·.endpoint = endpoint)).map (·.arrival)

theorem Guest.atSocket_append (guests more : List Guest) (endpoint : Nat) :
    atSocket (guests ++ more) endpoint = atSocket guests endpoint ++ atSocket more endpoint := by
  simp [atSocket]

theorem Guest.atSocket_singleton (guest : Guest) (endpoint : Nat) :
    atSocket [guest] endpoint = if guest.endpoint = endpoint then [guest.arrival] else [] := by
  by_cases here : guest.endpoint = endpoint <;> simp [atSocket, here]

/-- To a socket that is yet to be bound nobody has come. -/
theorem Guest.atSocket_eq_nil {guests : List Guest} {endpoint : Nat}
    (older : ∀ guest ∈ guests, guest.endpoint < endpoint) : atSocket guests endpoint = [] := by
  simp only [atSocket, List.map_eq_nil_iff, List.filter_eq_nil_iff, decide_eq_true_eq]
  exact fun guest member => Nat.ne_of_lt (older guest member)

theorem Guest.atSocket_map (arrivals : List Arrival) (endpoint other : Nat) :
    atSocket (arrivals.map (Guest.mk endpoint)) other =
      if endpoint = other then arrivals else [] := by
  by_cases here : endpoint = other <;> simp [atSocket, List.filter_map, Function.comp_def, here]

/-- At the socket of a run that is over nobody waits, before and after sockets are closed. -/
theorem Run.Kept.elsewhere {network network' : Network} {run : Run}
    (past : run.Kept network .past) (shrinks : network.Shrinks network') :
    network'.backlog run.endpoint = network.backlog run.endpoint ∧
      run.endpoint ∉ network'.sockets.map Endpoint.number := by
  have unbound := past.fits.2.2.2.2
  have unbound' := (past.of_shrinks shrinks).fits.2.2.2.2
  refine ⟨?_, unbound'⟩
  rw [not_imp_comm.1 Network.mem_sockets_of_backlog unbound,
    not_imp_comm.1 Network.mem_sockets_of_backlog unbound']

namespace Server

/-- The source of the connection that wakes the accept thread of a run. -/
def wakeSource (s : Server) (run : Run) : SocketAddress :=
  ⟨(wakeTarget run.address).ip, s.network.takePort.1⟩

/-- That connection can be told from those of the clients who wait: it shows the address that its
    socket is bound to, and none of them comes from there. -/
def WakesApart (s : Server) (run : Run) : Prop :=
  s.network.rules.Shows (wakeTarget run.address).ip ∧
    ∀ arrival ∈ s.network.backlog run.endpoint, arrival.peer ≠ s.wakeSource run

instance (s : Server) (run : Run) : Decidable (s.WakesApart run) :=
  inferInstanceAs (Decidable (_ ∧ _))

/-- Every client that came to the socket of a run is accounted for, unless the start of the run
    failed and the socket is closed. -/
def Booked (times : Clock → Prop) (guests gone : Nat → List Arrival) (s : Server) : Prop :=
  ∀ (i : Nat) (run : Run), s.runs[i]? = some run →
    (run.acceptor = .absent → run.endpoint ∈ s.network.sockets.map Endpoint.number) →
      run.Accounted times s.rules (s.network.backlog run.endpoint) (guests run.endpoint)
        (gone run.endpoint)

variable {times : Clock → Prop} {guests gone : Nat → List Arrival} {s server : Server} {i : Nat}
  {run run' : Run} {network : Network} {journal : Journal}

theorem Booked.congr (booked : s.Booked times guests gone) (runs : server.runs = s.runs)
    (rules : server.rules = s.rules) (endpoints : server.network.endpoints = s.network.endpoints) :
    server.Booked times guests gone := by
  have sockets : server.network.sockets = s.network.sockets := by
    simp only [Network.sockets, endpoints]
  have backlog : ∀ number, server.network.backlog number = s.network.backlog number := by
    intro number
    simp only [Network.backlog, endpoints]
  intro j other at_other bound
  rw [runs] at at_other
  rw [sockets] at bound
  rw [rules, backlog]
  exact booked j other at_other bound

theorem Booked.change {gone' : Nat → List Arrival} (booked : s.Booked times guests gone)
    (own : (run'.acceptor = .absent → run'.endpoint ∈ network.sockets.map Endpoint.number) →
      run'.Accounted times s.rules (network.backlog run'.endpoint) (guests run'.endpoint)
        (gone' run'.endpoint))
    (others : ∀ j other, j ≠ i → s.runs[j]? = some other →
      network.backlog other.endpoint = s.network.backlog other.endpoint ∧
        gone' other.endpoint = gone other.endpoint ∧
          (other.endpoint ∈ network.sockets.map Endpoint.number →
            other.endpoint ∈ s.network.sockets.map Endpoint.number)) :
    (s.change network i run' journal).Booked times guests gone' := by
  intro j other at_other bound
  obtain ⟨rfl, rfl⟩ | ⟨distinct, at_other⟩ := run_of_change at_other
  · exact own bound
  · obtain ⟨backlog, none_gone, sockets⟩ := others j other distinct at_other
    have accounted := booked j other at_other fun absent => sockets (bound absent)
    rw [← backlog, ← none_gone] at accounted
    exact accounted

theorem Booked.replace (booked : s.Booked times guests gone) (at_run : s.runs[i]? = some run)
    (same : network.endpoints = s.network.endpoints) (endpoint : run'.endpoint = run.endpoint)
    (bound : run.acceptor = .absent → run'.acceptor ≠ .absent →
      run.endpoint ∈ s.network.sockets.map Endpoint.number)
    (own : run.Accounted times s.rules (s.network.backlog run.endpoint) (guests run.endpoint)
        (gone run.endpoint) →
      run'.Accounted times s.rules (s.network.backlog run.endpoint) (guests run.endpoint)
        (gone run.endpoint)) :
    (s.change network i run' journal).Booked times guests gone := by
  have sockets : network.sockets = s.network.sockets := by
    simp only [Network.sockets, same]
  have backlog : ∀ number, network.backlog number = s.network.backlog number := by
    intro number
    simp only [Network.backlog, same]
  refine booked.change (fun present => ?_) fun j other _ _ => ⟨backlog _, rfl, sockets ▸ id⟩
  rw [backlog, endpoint]
  refine own (booked i run at_run fun absent => ?_)
  by_cases stays : run'.acceptor = .absent
  · rw [← endpoint, ← sockets]
    exact present stays
  · exact bound absent stays

theorem Booked.bind {stage : Nat → Run.Stage} {address : SocketAddress} {dualStack : Bool}
    {endpoint : Endpoint} {capacity : Nat} (booked : s.Booked times guests gone)
    (kept : s.Kept stage)
    (made : s.network.bind? address dualStack = (.ok endpoint, network))
    (unknown : guests s.network.nextNumber = [] ∧ gone s.network.nextNumber = []) :
    { s with
      network
      runs := s.runs ++
        [Run.mk endpoint.number endpoint.address (.ofCapacity capacity) .absent none] }.Booked
          times guests gone := by
  obtain ⟨number_eq, empty, _, _, grown, _⟩ := Network.of_bind?_ok made
  have backlog := Network.backlog_of_append grown empty
  have sockets_eq : network.sockets = s.network.sockets ++ [endpoint.socket] := by
    simp [Network.sockets, grown]
  intro j other at_other bound
  rw [backlog]
  obtain ⟨_, at_old⟩ | ⟨_, rfl⟩ := run_of_append at_other
  · refine booked j other at_old fun absent => ?_
    have older := (kept.runs j other at_old).older
    have present := bound absent
    rw [sockets_eq, List.map_append, List.mem_append, List.map_singleton,
      List.mem_singleton] at present
    refine present.resolve_right fun same => ?_
    rw [same, Endpoint.number_socket, number_eq] at older
    exact Nat.lt_irrefl _ older
  · have fresh : endpoint.number ∉ s.network.sockets.map Endpoint.number := by
      rw [number_eq, List.mem_map]
      rintro ⟨e, member, same⟩
      have older := kept.network.fresh e member
      omega
    have none_waits := not_imp_comm.1 Network.mem_sockets_of_backlog fresh
    rw [none_waits, number_eq, unknown.1, unknown.2]
    exact ⟨.refl _, List.Subset.refl _, List.Subset.refl _,
      ⟨by simp [Pool.ofCapacity], by simp [Pool.ofCapacity], by simp [Pool.ofCapacity],
        by simp [Pool.ofCapacity]⟩⟩

/-- The accept thread is woken by a connection that comes after those that wait, if it reaches the
    socket. -/
theorem wakeUps_of_connect {address : SocketAddress} {number : Nat} (port : UInt16)
    (shows : s.network.rules.Shows (wakeTarget address).ip)
    (located : ∀ e ∈ s.network.sockets, e.number = number → e.address = address) :
    ∃ wakeUps, (s.network.connect ⟨(wakeTarget address).ip, port⟩ (wakeTarget address) {}).2.backlog
        number = s.network.backlog number ++ wakeUps ∧
      ∀ arrival ∈ wakeUps, arrival.peer = ⟨(wakeTarget address).ip, port⟩ := by
  cases reached : s.network.reach? (wakeTarget address) with
  | none =>
    rw [Network.connect_of_unreached _ _ reached]
    exact ⟨[], (List.append_nil _).symm, by simp⟩
  | some e =>
    rw [Network.backlog_connect reached]
    by_cases here : number = e.number
    · subst here
      rw [if_pos rfl]
      refine ⟨_, rfl, fun arrival member => ?_⟩
      have same : e.address = address :=
        located e.socket (List.mem_map_of_mem (List.mem_of_find?_eq_some reached)) rfl
      have shown := (e.seenAs_eq_iff _ _).2 shows
      rw [List.mem_singleton.1 member, shown, ← same, e.seenAs_wakeTarget]
    · rw [if_neg here]
      exact ⟨[], (List.append_nil _).symm, by simp⟩

theorem booked_of_step {stage : Nat → Run.Stage} {task task' : Task} (kept : s.Kept stage)
    (own : ∀ i st, task.stage? s.phase.service = some (i, st) →
      ∀ j, stage j = if j = i then st else .past)
    (unknown : guests s.network.nextNumber = [] ∧ gone s.network.nextNumber = [])
    (wakes : ∀ i run, task = .waking i → s.runs[i]? = some run → s.WakesApart run)
    (booked : s.Booked times guests gone) (step : Task.Step s task task' server) :
    server.Booked times guests gone := by
  cases step with
  | enter | reject | lock | misnamed | opened | filled | failed | release | halt | ignore | emptied
  | vacant | settled => exact booked.congr rfl rfl rfl
  | unbound resolved failed =>
    exact booked.congr rfl rfl (Network.of_bind?_error kept.network.fresh failed).1
  | bound resolved made =>
    exact booked.bind kept made unknown
  | @hired i run faults at_run short tripped =>
    refine booked.replace at_run rfl rfl (fun absent there => absurd absent there) fun accounted =>
      accounted.ofWorkers run.pool.feeds ?_ fun worker member busy => ?_
    · simp [Pool.held, Worker.ticket?]
    · cases List.mem_append.1 member with
      | inl old => exact old
      | inr new =>
        rw [List.mem_singleton.1 new] at busy
        exact absurd rfl busy
  | unstaffed at_run | staffed at_run | unlaunched at_run | joined at_run =>
    exact booked.replace at_run rfl rfl (fun absent there => absurd absent there) fun accounted =>
      accounted.ofFeeds _
  | launched at_run tripped =>
    obtain ⟨_, _, _, _, _, bound⟩ := (kept.of_own (own _ _ rfl) at_run).fits
    exact booked.replace at_run rfl rfl (fun _ _ => bound) fun accounted =>
      accounted.ofAcceptor _
  | @dismissed i run error at_run done =>
    obtain ⟨absent, _⟩ := (kept.of_own (own _ _ rfl) at_run).fits
    refine booked.change (fun bound => ?_) fun j other distinct at_other => ?_
    · exact absurd (bound absent) (by simp [Network.sockets_close])
    · have past := kept.past_of_own (own _ _ rfl) distinct at_other
      obtain ⟨backlog, unbound⟩ := past.elsewhere (Network.shrinks_close _ run.endpoint)
      exact ⟨backlog, rfl, fun bound => absurd bound unbound⟩
  | @drained i run at_run done =>
    have idle : run.pool.held = [] := Pool.held_of_isDone done
    exact booked.replace at_run rfl rfl (fun absent there => absurd absent there) fun accounted =>
      accounted.ofWorkers run.pool.feeds idle.symm fun worker member => by cases member
  | @woke i run nextPort faults notes at_run =>
    have run_kept := kept.of_own (own _ _ rfl) at_run
    have shrinks := s.network.shrinks_connect
      ⟨(wakeTarget run.address).ip, s.network.takePort.1⟩ (wakeTarget run.address) {}
    obtain ⟨shows, apart⟩ := wakes i run rfl at_run
    have woken := wakeUps_of_connect s.network.takePort.1 shows run_kept.located
    refine booked.change (fun _ => ?_) fun j other distinct at_other => ?_
    · refine Run.Accounted.wake (booked i run at_run fun absent => ?_) run_kept.fits.2
        apart woken
      obtain ⟨_, _, bound⟩ | ⟨exited, _⟩ := run_kept.fits.1.2
      · exact bound
      · rw [absent] at exited
        cases exited
    · have past := kept.past_of_own (own _ _ rfl) distinct at_other
      obtain ⟨backlog, unbound⟩ := past.elsewhere shrinks
      exact ⟨backlog, rfl, fun bound => absurd bound unbound⟩

end Server

namespace System

/-- The host does its part in a move: a wake-up can be told from clients, and the clock shows one of
    these times.  And the move is not that of a start which sets the phase back under a stop. -/
def Orderly (times : Clock → Prop) (h : System) (move : Move) : Prop :=
  h.Unovertaken move ∧
    match move with
    | .advance call => ∀ i run, h.calls[call]? = some (.waking i) → h.server.runs[i]? = some run →
        h.server.WakesApart run
    | .arrive source target stream => ∀ guest, h.guest? source target stream = some guest →
        ∀ run ∈ h.server.runs, run.endpoint = guest.endpoint →
          run.wakePeer ≠ some guest.arrival.peer
    | .setClock clock => times clock
    | .start | .stop | .accept _ | .work .. | .nextPort _ | .fault _ => True

/-- The clients that nobody took on and nobody will: an accept call lost them, or they still waited
    when their socket was closed. -/
def gone (h : System) : List Guest := h.lost ++ h.forsaken

/-- Every client that came is accounted for, and no two have one number. -/
structure Booked (times : Clock → Prop) (h : System) : Prop where
  shown : times h.server.clock
  accounts : h.server.Booked times (Guest.atSocket h.guests) (Guest.atSocket h.gone)
  known : ∀ guest ∈ h.guests, guest.endpoint < h.server.network.nextNumber ∧
    guest.arrival.number < h.server.network.nextNumber
  gone_known : ∀ guest ∈ h.gone, guest.endpoint < h.server.network.nextNumber
  distinct : (h.guests.map (·.arrival.number)).Nodup

section Moves

variable {times : Clock → Prop} {h next : System}

theorem Booked.stay (booked : h.Booked times) (clock : next.server.clock = h.server.clock)
    (record : next.guests = h.guests ∧ next.gone = h.gone)
    (later : h.server.network.nextNumber ≤ next.server.network.nextNumber)
    (accounts : next.server.Booked times (Guest.atSocket h.guests) (Guest.atSocket h.gone)) :
    next.Booked times where
  shown := clock ▸ booked.shown
  accounts := by
    rw [record.1, record.2]
    exact accounts
  known guest member := by
    rw [record.1] at member
    obtain ⟨endpoint, number⟩ := booked.known guest member
    exact ⟨Nat.lt_of_lt_of_le endpoint later, Nat.lt_of_lt_of_le number later⟩
  gone_known guest member := by
    rw [record.2] at member
    exact Nat.lt_of_lt_of_le (booked.gone_known guest member) later
  distinct := record.1 ▸ booked.distinct

/-- A client that connects reaches nobody, or it waits from then on at a socket that is bound, under
    a new number. -/
theorem guest?_cases (h : System) (source target : SocketAddress) (stream : Stream) :
    (h.guest? source target stream = none ∧
      (h.server.network.connect source target stream).2 = h.server.network) ∨
    ∃ guest, h.guest? source target stream = some guest ∧
      guest.endpoint ∈ h.server.network.sockets.map Endpoint.number ∧
      guest.arrival.number = h.server.network.nextNumber ∧
      (h.server.network.connect source target stream).2.nextNumber =
        h.server.network.nextNumber + 1 ∧
      ∀ number, (h.server.network.connect source target stream).2.backlog number =
        h.server.network.backlog number ++ Guest.atSocket [guest] number := by
  cases reached : h.server.network.reach? target with
  | none =>
    exact .inl ⟨by simp [guest?, reached], by rw [Network.connect_of_unreached _ _ reached]⟩
  | some e =>
    let arrival : Arrival := ⟨h.server.network.nextNumber,
      ⟨e.seenAs (h.server.network.rules.shown source.ip), source.port⟩, stream⟩
    refine .inr ⟨⟨e.number, arrival⟩, by simp [guest?, reached, arrival],
      Network.mem_sockets_of_reached reached, rfl, by rw [Network.connect_of_reached reached],
      fun number => ?_⟩
    rw [Network.backlog_connect reached, Guest.atSocket_singleton]
    by_cases here : number = e.number
    · rw [if_pos here, if_pos here.symm, here]
    · rw [if_neg here, if_neg (Ne.symm here), List.append_nil]

theorem Booked.arrive {source target : SocketAddress} {stream : Stream} (booked : h.Booked times)
    (sound : h.server.network.Sound)
    (apart : ∀ guest, h.guest? source target stream = some guest →
      ∀ run ∈ h.server.runs, run.endpoint = guest.endpoint →
        run.wakePeer ≠ some guest.arrival.peer)
    (moved : h.step? (.arrive source target stream) = some next) : next.Booked times := by
  obtain ⟨sockets, _⟩ := h.server.network.sockets_connect source target stream
  cases moved
  obtain ⟨nobody, unreached⟩ | ⟨guest, came, bound, number, later, backlog⟩ :=
    h.guest?_cases source target stream
  · exact booked.stay rfl ⟨by simp [nobody], rfl⟩ (by simp [unreached])
      (booked.accounts.congr rfl rfl (by simp [unreached]))
  · rw [came, Option.toList_some]
    refine ⟨booked.shown, fun j other at_other bound => ?_, fun any member => ?_,
      fun any member => ?_, ?_⟩
    · rw [sockets] at bound
      have accounted := booked.accounts j other at_other bound
      rw [backlog, Guest.atSocket_append]
      -- The client is accounted for at the run of its socket, and nowhere else.
      by_cases here : guest.endpoint = other.endpoint
      · rw [Guest.atSocket_singleton, if_pos here]
        exact accounted.arrive (apart _ came other (List.mem_of_getElem? at_other) here.symm)
      · rw [Guest.atSocket_singleton, if_neg here, List.append_nil, List.append_nil]
        exact accounted
    · rw [later]
      cases List.mem_append.1 member with
      | inl old =>
        obtain ⟨endpoint, number⟩ := booked.known any old
        exact ⟨Nat.lt_succ_of_lt endpoint, Nat.lt_succ_of_lt number⟩
      | inr new =>
        obtain rfl := List.mem_singleton.1 new
        obtain ⟨e, e_mem, same⟩ := List.mem_map.1 bound
        exact ⟨Nat.lt_succ_of_lt (same ▸ sound.fresh e e_mem), number ▸ Nat.lt_succ_self _⟩
    · rw [later]
      exact Nat.lt_succ_of_lt (booked.gone_known any member)
    · rw [List.map_append, List.nodup_append]
      refine ⟨booked.distinct, List.nodup_singleton _, ?_⟩
      intro old old_mem new new_mem same
      obtain ⟨any, member, rfl⟩ := List.mem_map.1 old_mem
      have older := (booked.known any member).2
      rw [same, List.mem_singleton.1 new_mem] at older
      exact Nat.lt_irrefl _ (number ▸ older)

/-- The clients that are gone after a move of an accept thread, at each socket. -/
theorem atSocket_gone_accept (h : System) (run : Run) (server : Server) (crowd : Nat)
    (endpoint : Nat) :
    (Guest.atSocket h.gone endpoint ++
      if run.endpoint = endpoint then run.loses h.server.network ++ run.forsakes h.server.network
      else []).Perm
      (Guest.atSocket
        { h with
          server
          lost := h.lost ++ (run.loses h.server.network).map (Guest.mk run.endpoint)
          forsaken := h.forsaken ++ (run.forsakes h.server.network).map (Guest.mk run.endpoint)
          crowd }.gone endpoint) := by
  simp only [gone, Guest.atSocket_append, Guest.atSocket_map]
  rw [List.perm_iff_count]
  intro arrival
  split <;> simp only [List.count_append, List.count_nil] <;> omega

theorem booked_accept {i : Nat} (booked : h.Booked times) (ordered : h.InOrder)
    (kept : h.server.Kept h.stage) (moved : h.step? (.accept i) = some next) :
    next.Booked times := by
  obtain ⟨run, network, run', journal, at_run, step, rfl⟩ := step?_accept moved
  have run_kept := kept.runs i run at_run
  have alive := step.isAlive
  have bound := (run_kept.of_alive alive).2.2.2
  have unwoken := Server.unwoken_of_running ordered run_kept alive
  refine ⟨booked.shown, booked.accounts.change (fun _ => ?_) ?_, fun guest member => ?_,
    fun guest member => ?_, booked.distinct⟩
  · have accounted := booked.accounts i run at_run fun absent => by
      simp [absent, Acceptor.isAlive] at alive
    have accounted' := accounted.of_accept unwoken step
    rw [step.endpoint_eq, List.append_assoc] at accounted'
    rw [step.endpoint_eq]
    exact accounted'.perm
      (by simpa using atSocket_gone_accept h run _ _ run.endpoint)
  · -- Nobody waits at the sockets of the other runs, which are over and have closed them.
    intro j other distinct at_other
    have live := (Server.kept_of_accept kept at_run step).1
    have past := kept.past_of_live live distinct at_other
    obtain ⟨backlog, unbound⟩ := past.elsewhere step.shrinks
    have elsewhere : run.endpoint ≠ other.endpoint := by
      intro same
      exact past.fits.2.2.2.2 (same ▸ bound)
    refine ⟨backlog, ?_, fun bound => absurd bound unbound⟩
    simp only [gone, Guest.atSocket_append, Guest.atSocket_map, if_neg elsewhere, List.append_nil]
  · obtain ⟨endpoint, number⟩ := booked.known guest member
    exact ⟨Nat.lt_of_lt_of_le endpoint step.shrinks.later,
      Nat.lt_of_lt_of_le number step.shrinks.later⟩
  · refine Nat.lt_of_lt_of_le ?_ step.shrinks.later
    have gone_before : guest ∈ h.gone ∨ guest.endpoint = run.endpoint := by
      simp only [gone, List.mem_append, List.mem_map] at member ⊢
      rcases member with (old | ⟨_, _, rfl⟩) | (old | ⟨_, _, rfl⟩)
      · exact .inl (.inl old)
      · exact .inr rfl
      · exact .inl (.inr old)
      · exact .inr rfl
    cases gone_before with
    | inl old => exact booked.gone_known guest old
    | inr here => exact here ▸ run_kept.older

theorem booked_step {move : Move} (booked : h.Booked times) (ordered : h.InOrder)
    (kept : h.server.Kept h.stage) (orderly : h.Orderly times move)
    (moved : h.step? move = some next) : next.Booked times := by
  obtain ⟨_, orderly⟩ := orderly
  cases move with
  | accept i => exact booked_accept booked ordered kept moved
  | arrive source target stream => exact booked.arrive kept.network orderly moved
  | advance call =>
    obtain ⟨task, task', at_call, step, ⟨guests, _, lost, forsaken⟩, _⟩ :=
      ordered.advance_cases moved
    have unknown : Guest.atSocket h.guests h.server.network.nextNumber = [] ∧
        Guest.atSocket h.gone h.server.network.nextNumber = [] :=
      ⟨Guest.atSocket_eq_nil fun guest member => (booked.known guest member).1,
        Guest.atSocket_eq_nil booked.gone_known⟩
    refine booked.stay ?_ ⟨guests, by rw [gone, gone, lost, forsaken]⟩
      (Server.nextNumber_of_step kept.network.fresh step)
      (Server.booked_of_step kept (ordered.stage_of_call at_call) unknown ?_ booked.accounts step)
    · exact Server.clock_of_step step
    · rintro i run rfl at_run
      exact orderly i run at_call at_run
  | work i action =>
    obtain ⟨run, pool, journal, at_run, step, rfl⟩ := step?_work moved
    refine booked.stay rfl ⟨rfl, rfl⟩ (Nat.le_refl _) (booked.accounts.replace at_run rfl rfl
      (fun absent there => absurd absent there) fun accounted => ?_)
    exact accounted.of_work (kept.runs i run at_run) booked.shown step
  | setClock clock =>
    cases moved
    exact ⟨orderly, booked.accounts.congr rfl rfl rfl, booked.known, booked.gone_known,
      booked.distinct⟩
  | start | stop | nextPort | fault =>
    cases moved
    exact booked.stay rfl ⟨rfl, rfl⟩ (Nat.le_refl _) (booked.accounts.congr rfl rfl rfl)

theorem booked_of_reaches {allowed : System → Move → Prop} {settings : Settings}
    {network : Network} {clock : Clock} (sound : network.Sound) (shown : times clock)
    (orderly : ∀ h move, allowed h move → h.Orderly times move)
    (reached : Reaches allowed (ofServer (.ofSettings settings network clock)) h) :
    (h.InOrder ∧ h.server.Kept h.stage) ∧ h.Booked times := by
  refine reached.induction (P := fun h => (h.InOrder ∧ h.server.Kept h.stage) ∧ h.Booked times)
    ⟨⟨.stopped, Server.kept_ofSettings settings clock sound⟩, ?_⟩ ?_
  · refine ⟨shown, fun i run at_run => ?_, fun guest member => ?_, fun guest member => ?_,
      List.nodup_nil⟩
    · cases at_run
    · cases member
    · cases member
  · intro h next move ⟨⟨ordered, kept⟩, booked⟩ ok moved
    exact ⟨⟨inOrder_step ordered (orderly h move ok).1 moved, kept_step ordered kept moved⟩,
      booked_step booked ordered kept (orderly h move ok) moved⟩

end Moves

end System

end TimeServer
