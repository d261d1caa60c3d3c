import TimeServer.Proofs.Server.Call

/-! # The stages of a run

From the binding of its socket to the end of its last thread a run comes through several stages.

* `Run.Stage`, `Run.Fits` — the stages, and where the threads and the socket of a run are at each;
* `Run.Kept` — a run fits its stage and keeps to the rules that hold at all of them;
* `Kept.of_work`, `Kept.of_accept` — the threads leave a run at its stage;
* `Kept.staff`, `Kept.launch`, `Kept.drain` and others — the steps of calls take it to the next.
-/

namespace TimeServer

/-- How far a run has come. -/
inductive Run.Stage
  /-- Workers are being hired. -/
  | hiring
  /-- There are enough workers, and no accept thread yet. -/
  | staffed
  /-- The workers hired so far are being waited for, the start having failed. -/
  | dismissing
  | serving
  /-- The server is being stopped, and the accept thread may not know. -/
  | halted
  /-- The accept thread was woken. -/
  | woken
  /-- The accept thread has ended, and the workers are being waited for. -/
  | draining
  | past
  deriving DecidableEq, Repr

/-- Whether the accept thread waits for clients and has not seen that the server is being
    stopped. -/
def Acceptor.isServing : Acceptor → Bool
  | .accepting .serving | .calling .serving | .handing .serving => true
  | _ => false

/-- Whether the accept thread is there. -/
def Acceptor.isAlive : Acceptor → Bool
  | .absent | .exited => false
  | _ => true

namespace Run

/-- The accept thread and the workers are there, or the workers alone after the accept thread has
    closed the socket. -/
def Manned (bound : Prop) (run : Run) : Prop :=
  run.pool.workers ≠ [] ∧
    (run.acceptor.isAlive ∧ run.pool.feeds = 2 ∧ bound ∨
      run.acceptor = .exited ∧ run.pool.feeds = 1 ∧ run.pool.waiting = [] ∧ ¬ bound)

/-- Where the threads of a run are at each stage, and whether its socket is bound. -/
def Fits (bound : Prop) (run : Run) : Stage → Prop
  | .hiring =>
    run.acceptor = .absent ∧ run.pool.feeds = 1 ∧ run.pool.numbers = [] ∧ run.wakePeer = none ∧
      bound
  | .staffed =>
    run.acceptor = .absent ∧ run.pool.feeds = 2 ∧ run.pool.numbers = [] ∧
      run.pool.workers ≠ [] ∧ run.wakePeer = none ∧ bound
  | .dismissing => run.acceptor = .absent ∧ run.pool.feeds = 0 ∧ run.pool.numbers = [] ∧ bound
  | .serving =>
    run.acceptor.isServing ∧ run.pool.feeds = 2 ∧ run.pool.workers ≠ [] ∧ run.wakePeer = none ∧
      bound
  | .halted => run.Manned bound ∧ run.wakePeer = none
  | .woken => run.Manned bound
  | .draining =>
    run.acceptor = .exited ∧ run.pool.feeds = 0 ∧ run.pool.waiting = [] ∧
      run.pool.workers ≠ [] ∧ ¬ bound
  | .past =>
    (run.acceptor = .absent ∧ run.pool.numbers = [] ∨ run.acceptor = .exited) ∧
      run.pool.feeds = 0 ∧ run.pool.unfinished = [] ∧ run.pool.workers = [] ∧ ¬ bound

/-- A run is at a stage and keeps its promises. -/
structure Kept (network : Network) (stage : Stage) (run : Run) : Prop where
  sound : run.pool.Sound
  roomy : 0 < run.pool.capacity
  older : run.endpoint < network.nextNumber
  /-- The socket of the run is bound to its address, if it is bound. -/
  located : ∀ e ∈ network.sockets, e.number = run.endpoint → e.address = run.address
  /-- A client waits only while the accept thread waits with it. -/
  handing : run.pool.waiting ≠ [] → ∃ mode, run.acceptor = .handing mode
  fits : run.Fits (run.endpoint ∈ network.sockets.map Endpoint.number) stage

end Run

/-! ## Changes of the network -/

namespace Run

variable {network network' : Network} {stage : Stage} {run : Run}

theorem Kept.of_sockets (kept : run.Kept network stage) (same : network'.sockets = network.sockets)
    (later : network.nextNumber ≤ network'.nextNumber) : run.Kept network' stage where
  sound := kept.sound
  roomy := kept.roomy
  older := Nat.lt_of_lt_of_le kept.older later
  located := by
    rw [same]
    exact kept.located
  handing := kept.handing
  fits := by
    rw [same]
    exact kept.fits

theorem Kept.of_faults (kept : run.Kept network stage) (faults : List Fault) :
    run.Kept { network with faults } stage :=
  kept.of_sockets rfl (Nat.le_refl _)

theorem Kept.of_shrinks (kept : run.Kept network .past) (shrinks : network.Shrinks network') :
    run.Kept network' .past where
  sound := kept.sound
  roomy := kept.roomy
  older := Nat.lt_of_lt_of_le kept.older shrinks.later
  located e member := kept.located e (shrinks.sockets.subset member)
  handing := kept.handing
  fits := by
    obtain ⟨acceptor, feeds, unfinished, workers, unbound⟩ := kept.fits
    exact ⟨acceptor, feeds, unfinished, workers,
      fun bound => unbound ((shrinks.sockets.map _).subset bound)⟩

theorem Kept.of_bind {address : SocketAddress} {dualStack : Bool} {e : Endpoint}
    (kept : run.Kept network .past)
    (bound : network.bind? address dualStack = (.ok e, network')) : run.Kept network' .past := by
  obtain ⟨number_eq, _, _, _, grown, later⟩ := Network.of_bind?_ok bound
  -- The number of the new socket is later than that of the run.
  have new : e.number ≠ run.endpoint := by
    have older := kept.older
    omega
  have sockets_eq : network'.sockets = network.sockets ++ [e.socket] := by
    simp [Network.sockets, grown]
  refine ⟨kept.sound, kept.roomy, ?_, fun f member here => ?_, kept.handing, ?_⟩
  · rw [later]
    exact Nat.lt_succ_of_lt kept.older
  · rw [sockets_eq] at member
    cases List.mem_append.1 member with
    | inl old => exact kept.located f old here
    | inr added =>
      rw [List.mem_singleton.1 added] at here
      exact absurd here new
  · obtain ⟨acceptor, feeds, unfinished, workers, unbound⟩ := kept.fits
    refine ⟨acceptor, feeds, unfinished, workers, ?_⟩
    rw [sockets_eq, List.map_append, List.mem_append, not_or]
    exact ⟨unbound, by simpa using new.symm⟩

/-! ## Moves of the threads -/

theorem Kept.of_work {clock : Clock} {action : Pool.Action} {journal : Journal} {pool : Pool}
    (kept : run.Kept network stage) (step : Pool.Step clock run.pool action journal pool) :
    { run with pool }.Kept network stage where
  sound := step.sound kept.sound
  roomy := by
    rw [step.capacity_eq]
    exact kept.roomy
  older := kept.older
  located := kept.located
  handing waits := by
    refine kept.handing fun empty => waits ?_
    exact List.subset_nil.1 (empty ▸ step.waiting_subset)
  fits := by
    have staffed : run.pool.workers ≠ [] → pool.workers ≠ [] := by
      simp only [← List.length_pos_iff, step.length_workers]
      exact id
    have unused : run.pool.numbers = [] → pool.numbers = [] := fun none_came =>
      List.perm_nil.1 (none_came ▸ step.perm_numbers)
    have unwaited : run.pool.waiting = [] → pool.waiting = [] := fun empty =>
      List.subset_nil.1 (empty ▸ step.waiting_subset)
    have manned : ∀ {bound : Prop}, run.Manned bound → { run with pool }.Manned bound := by
      rintro bound ⟨workers, ⟨alive, feeds, held⟩ | ⟨exited, feeds, waiting, gone⟩⟩
      · exact ⟨staffed workers, .inl ⟨alive, step.feeds_eq.trans feeds, held⟩⟩
      · exact ⟨staffed workers, .inr ⟨exited, step.feeds_eq.trans feeds, unwaited waiting, gone⟩⟩
    have fits := kept.fits
    cases stage with
    | hiring | dismissing =>
      obtain ⟨absent, feeds, none_came, rest⟩ := fits
      exact ⟨absent, step.feeds_eq.trans feeds, unused none_came, rest⟩
    | staffed =>
      obtain ⟨absent, feeds, none_came, workers, rest⟩ := fits
      exact ⟨absent, step.feeds_eq.trans feeds, unused none_came, staffed workers, rest⟩
    | serving =>
      obtain ⟨serving, feeds, workers, unwoken, bound⟩ := fits
      exact ⟨serving, step.feeds_eq.trans feeds, staffed workers, unwoken, bound⟩
    | halted => exact ⟨manned fits.1, fits.2⟩
    | woken => exact manned fits
    | draining =>
      obtain ⟨exited, feeds, waiting, workers, unbound⟩ := fits
      exact ⟨exited, step.feeds_eq.trans feeds, unwaited waiting, staffed workers, unbound⟩
    | past =>
      obtain ⟨acceptor, feeds, unfinished, workers, unbound⟩ := fits
      refine ⟨acceptor.imp_left fun ⟨absent, none_came⟩ => ⟨absent, unused none_came⟩,
        step.feeds_eq.trans feeds, ?_, ?_, unbound⟩
      · have fewer := step.length_unfinished_le
        rw [unfinished] at fewer
        exact List.eq_nil_of_length_eq_zero (Nat.le_zero.1 fewer)
      · rw [← List.length_eq_zero_iff, step.length_workers, workers, List.length_nil]

theorem Kept.of_alive (kept : run.Kept network stage) (alive : run.acceptor.isAlive) :
    (stage = .serving ∨ stage = .halted ∨ stage = .woken) ∧ run.pool.feeds = 2 ∧
      run.pool.workers ≠ [] ∧ run.endpoint ∈ network.sockets.map Endpoint.number := by
  have manned : run.Manned (run.endpoint ∈ network.sockets.map Endpoint.number) →
      run.pool.feeds = 2 ∧ run.pool.workers ≠ [] ∧
        run.endpoint ∈ network.sockets.map Endpoint.number := by
    rintro ⟨workers, ⟨_, feeds, bound⟩ | ⟨exited, _⟩⟩
    · exact ⟨feeds, workers, bound⟩
    · simp [exited, Acceptor.isAlive] at alive
  have fits := kept.fits
  cases stage with
  | serving => exact ⟨.inl rfl, fits.2.1, fits.2.2.1, fits.2.2.2.2⟩
  | halted => exact ⟨.inr (.inl rfl), manned fits.1⟩
  | woken => exact ⟨.inr (.inr rfl), manned fits⟩
  | hiring | staffed | dismissing | draining => simp [fits.1, Acceptor.isAlive] at alive
  | past => rcases fits.1 with ⟨absent, _⟩ | exited <;> simp_all [Acceptor.isAlive]

theorem Kept.goesOn (kept : run.Kept network stage) (waiting : List Ticket) (acceptor : Acceptor)
    (alive : run.acceptor.isAlive) (alive' : acceptor.isAlive)
    (same : network'.sockets = network.sockets) (later : network.nextNumber ≤ network'.nextNumber)
    (handing : waiting ≠ [] → ∃ mode, acceptor = .handing mode)
    (serving : stage = .serving → acceptor.isServing) :
    { run with pool := { run.pool with waiting }, acceptor }.Kept network' stage := by
  obtain ⟨stages, fed, staffed, bound⟩ := kept.of_alive alive
  refine ⟨⟨kept.sound.bounded, kept.sound.drained⟩, kept.roomy, Nat.lt_of_lt_of_le kept.older later,
    ?_, handing, ?_⟩
  · rw [same]
    exact kept.located
  · rw [same]
    have fits := kept.fits
    obtain rfl | rfl | rfl := stages
    · exact ⟨serving rfl, fits.2⟩
    · exact ⟨⟨staffed, .inl ⟨alive', fed, bound⟩⟩, fits.2⟩
    · exact ⟨staffed, .inl ⟨alive', fed, bound⟩⟩

theorem Kept.ends (kept : run.Kept network stage) (alive : run.acceptor.isAlive)
    (halted : stage ≠ .serving) (empty : run.pool.waiting = [])
    (later : network.nextNumber ≤ network'.nextNumber) :
    { run with pool := run.pool.detach, acceptor := .exited }.Kept (network'.close run.endpoint)
      stage := by
  obtain ⟨stages, fed, staffed, bound⟩ := kept.of_alive alive
  have closed := network'.notMem_sockets_close run.endpoint
  have manned : { run with pool := run.pool.detach, acceptor := .exited }.Manned
      (run.endpoint ∈ (network'.close run.endpoint).sockets.map Endpoint.number) :=
    ⟨staffed, .inr ⟨rfl, by simp [Pool.detach, fed], empty, closed⟩⟩
  refine ⟨⟨kept.sound.bounded, fun exited => ?_⟩, kept.roomy,
    Nat.lt_of_lt_of_le kept.older later, fun e member here => ?_,
    fun waits => absurd empty waits, ?_⟩
  · have shut := (kept.sound.drained exited).1
    simp [Pool.isOpen, fed] at shut
  · exact absurd (List.mem_map.2 ⟨e, member, here⟩) closed
  · have fits := kept.fits
    obtain rfl | rfl | rfl := stages
    · exact absurd rfl halted
    · exact ⟨manned, fits.2⟩
    · exact manned

theorem sockets_of_take? {number : Nat} {result : Option (Except IoError Arrival)}
    (ended : network.take? number = (result, network')) :
    network'.sockets = network.sockets ∧ network.nextNumber = network'.nextNumber := by
  obtain ⟨sockets, later⟩ := network.sockets_take? number
  rw [ended] at sockets later
  exact ⟨sockets, later.symm⟩

theorem Fails.sockets_eq {mode : Mode} {e : IoError} (failed : run.Fails network mode e network') :
    network'.sockets = network.sockets ∧ network.nextNumber = network'.nextNumber := by
  cases failed with
  | early => exact ⟨rfl, rfl⟩
  | late _ failed => exact sockets_of_take? failed

theorem Fails.spent {mode : Mode} {e : IoError} (failed : run.Fails network mode e network') :
    Network.Spent network.faults network'.faults := by
  cases failed with
  | early _ _ _ spent => exact spent
  | late _ failed =>
    have spent := network.spent_take? run.endpoint
    rwa [failed] at spent

theorem Fails.rules_eq {mode : Mode} {e : IoError} (failed : run.Fails network mode e network') :
    network'.rules = network.rules := by
  cases failed with
  | early => rfl
  | late _ failed =>
    have rules := network.rules_take? run.endpoint
    rwa [failed] at rules

theorem Fails.acceptor_eq {mode : Mode} {e : IoError} (failed : run.Fails network mode e network') :
    run.acceptor = .accepting mode ∨ run.acceptor = .calling mode := by
  cases failed with
  | early accepting => exact .inl accepting
  | late calling => exact .inr calling

theorem not_fails_of_faultless {mode : Mode} {e : IoError}
    (faultless : ∀ f ∈ network.faults, f.call ≠ .accept ∧ f.call ≠ .acceptLate) :
    ¬ run.Fails network mode e network' := by
  rintro (⟨_, _, failed, _⟩ | ⟨_, failed⟩)
  · rw [Network.trip_of_absent fun f member => (faultless f member).1] at failed
    cases failed
  · rcases Network.take?_of_faultless run.endpoint fun f member => (faultless f member).2 with
      ⟨none_waits, _⟩ | ⟨_, _, _, took⟩
    · rw [none_waits] at failed
      cases failed
    · rw [took] at failed
      cases failed

theorem Step.isAlive {s : Server} {run' : Run} {journal : Journal}
    (step : Step s run network' run' journal) : run.acceptor.isAlive := by
  cases step with
  | retry _ failed | broken failed =>
    rcases failed.acceptor_eq with here | here <;> rw [here] <;> rfl
  | ready here | shut here | call here | take _ _ here | dismiss _ here | blind here
  | drained here | close here =>
    rw [here]
    rfl

theorem Step.endpoint_eq {s : Server} {run' : Run} {journal : Journal}
    (step : Step s run network' run' journal) : run'.endpoint = run.endpoint := by
  cases step <;> rfl

theorem Step.shrinks {s : Server} {run' : Run} {journal : Journal}
    (step : Step s run network' run' journal) : s.network.Shrinks network' := by
  cases step with
  | ready | shut | call | blind | drained => exact .of_eq rfl (Nat.le_refl _)
  | close => exact Network.shrinks_close _ _
  | take _ _ _ ended | dismiss _ _ ended =>
    obtain ⟨sockets, later⟩ := sockets_of_take? ended
    exact .of_eq sockets (Nat.le_of_eq later)
  | retry _ failed | broken failed =>
    obtain ⟨sockets, later⟩ := failed.sockets_eq
    exact .of_eq sockets (Nat.le_of_eq later)

theorem Step.spent {s : Server} {run' : Run} {journal : Journal}
    (step : Step s run network' run' journal) : Network.Spent s.network.faults network'.faults := by
  have spent := s.network.spent_take? run.endpoint
  cases step with
  | ready | shut | blind | drained | close => exact .refl _
  | call _ _ spent => exact spent
  | take _ _ _ ended more | dismiss _ _ ended more =>
    rw [ended] at spent
    exact spent.trans more
  | retry _ failed more => exact failed.spent.trans more
  | broken failed => exact failed.spent

theorem Step.rules_eq {s : Server} {run' : Run} {journal : Journal}
    (step : Step s run network' run' journal) : network'.rules = s.network.rules := by
  have rules := s.network.rules_take? run.endpoint
  cases step with
  | ready | shut | call | blind | drained | close => rfl
  | take _ _ _ ended | dismiss _ _ ended => rwa [ended] at rules
  | retry _ failed | broken failed => exact failed.rules_eq

theorem Kept.unwaited (kept : run.Kept network stage)
    (elsewhere : ∀ mode, run.acceptor ≠ .handing mode) : run.pool.waiting = [] := by
  by_contra waits
  obtain ⟨mode, handing⟩ := kept.handing waits
  exact elsewhere mode handing

theorem Kept.serving_mode {mode : Mode} (kept : run.Kept network stage) (serving : stage = .serving)
    (there : run.acceptor = .accepting mode ∨ run.acceptor = .calling mode ∨
      run.acceptor = .handing mode) : mode = .serving := by
  subst serving
  have waits := kept.fits.1
  rcases there with here | here | here <;> rw [here] at waits <;> cases mode <;>
    simp [Acceptor.isServing] at waits ⊢

theorem isServing_of_mode {mode : Mode} {acceptor : Acceptor} (serving : mode = .serving)
    (there : acceptor = .accepting mode ∨ acceptor = .calling mode ∨ acceptor = .handing mode) :
    acceptor.isServing := by
  subst serving
  rcases there with here | here | here <;> rw [here] <;> rfl

theorem Kept.of_accept {s : Server} {run' : Run} {journal : Journal}
    (kept : run.Kept s.network stage) (step : Step s run network' run' journal)
    (running : stage = .serving → s.phase = .running) : run'.Kept network' stage := by
  have alive := step.isAlive
  -- In a run that serves, every case has to show that the thread does not look for its end.
  have stays : ∀ {mode network}, stage = .serving → mode = .serving →
      s.nextMode network mode = .serving := by
    intro mode network serving same
    rw [same, Server.nextMode_of_running (running serving)]
  cases step with
  | @ready mode handing empty isOpen =>
    exact kept.goesOn run.pool.waiting (.accepting mode) alive rfl rfl (Nat.le_refl _)
      (fun waits => absurd empty waits) fun serving =>
        isServing_of_mode (kept.serving_mode serving (.inr (.inr handing))) (.inl rfl)
  | shut handing empty closed =>
    -- The thread holds the queue open itself.
    obtain ⟨_, fed, _⟩ := kept.of_alive alive
    simp [Pool.isOpen, fed] at closed
  | @call mode faults accepting =>
    have unwaited := kept.unwaited (by simp [accepting])
    exact Kept.of_faults (kept.goesOn run.pool.waiting (.calling mode) alive rfl rfl (Nat.le_refl _)
      (fun waits => absurd unwaited waits) fun serving =>
        isServing_of_mode (kept.serving_mode serving (.inl accepting)) (.inr (.inl rfl))) faults
  | @take mode arrival network faults before after calling taken =>
    obtain ⟨sockets, later⟩ := sockets_of_take? taken
    exact Kept.of_faults (kept.goesOn _ (.handing (s.nextMode network mode)) alive rfl sockets
      (Nat.le_of_eq later) (fun _ => ⟨_, rfl⟩) fun serving =>
        isServing_of_mode (stays serving (kept.serving_mode serving (.inr (.inl calling))))
          (.inr (.inr rfl))) faults
  | @dismiss mode arrival network faults before calling taken _ drains =>
    obtain ⟨sockets, later⟩ := sockets_of_take? taken
    have unwaited := kept.unwaited (by simp [calling])
    refine Kept.of_faults (kept.goesOn run.pool.waiting (.accepting (s.nextMode network mode))
      alive rfl sockets (Nat.le_of_eq later) (fun waits => absurd unwaited waits)
      fun serving => ?_) faults
    exact absurd (stays serving (kept.serving_mode serving (.inr (.inl calling)))) drains
  | @retry mode next e network faults before failed _ goesOn =>
    obtain ⟨sockets, later⟩ := failed.sockets_eq
    have unwaited := kept.unwaited (by rcases failed.acceptor_eq with here | here <;> simp [here])
    refine Kept.of_faults (kept.goesOn run.pool.waiting (.accepting next) alive rfl sockets
      (Nat.le_of_eq later) (fun waits => absurd unwaited waits) fun serving =>
        isServing_of_mode ?_ (.inl rfl)) faults
    have mode_eq := kept.serving_mode serving (failed.acceptor_eq.imp_right .inl)
    obtain ⟨_, rfl⟩ | ⟨_, _, rfl⟩ := goesOn
    · exact mode_eq
    · exact stays serving mode_eq
  | @broken canPoll e _ failed fatal =>
    obtain ⟨sockets, later⟩ := failed.sockets_eq
    have unwaited := kept.unwaited (by rcases failed.acceptor_eq with here | here <;> simp [here])
    refine kept.goesOn run.pool.waiting .closing alive rfl sockets (Nat.le_of_eq later)
      (fun waits => absurd unwaited waits) fun serving => ?_
    cases kept.serving_mode serving (failed.acceptor_eq.imp_right .inl)
  | blind accepting =>
    have unwaited := kept.unwaited (by simp [accepting])
    refine kept.goesOn run.pool.waiting .closing alive rfl rfl (Nat.le_refl _)
      (fun waits => absurd unwaited waits) fun serving => ?_
    cases kept.serving_mode serving (.inl accepting)
  | drained calling empty =>
    have unwaited := kept.unwaited (by simp [calling])
    refine kept.goesOn run.pool.waiting .closing alive rfl rfl (Nat.le_refl _)
      (fun waits => absurd unwaited waits) fun serving => ?_
    cases kept.serving_mode serving (.inr (.inl calling))
  | close closing =>
    have unwaited := kept.unwaited (by simp [closing])
    refine kept.ends alive (fun serving => ?_) unwaited (Nat.le_refl _)
    subst serving
    have waits := kept.fits.1
    rw [closing] at waits
    cases waits

/-! ## Steps of calls -/

theorem Kept.hire (kept : run.Kept network .hiring) :
    { run with pool := run.pool.hire }.Kept network .hiring := by
  obtain ⟨absent, feeds, none_came, rest⟩ := kept.fits
  refine ⟨⟨kept.sound.bounded, fun exited => kept.sound.drained ?_⟩, kept.roomy, kept.older,
    kept.located, kept.handing, absent, feeds, ?_, rest⟩
  · simpa [Pool.hire] using exited
  · simpa [Pool.numbers, Pool.unfinished, Pool.held, Pool.hire, Worker.ticket?] using none_came

theorem Kept.unexited (kept : run.Kept network stage) (isOpen : 0 < run.pool.feeds) :
    .exited ∉ run.pool.workers := by
  intro exited
  have shut := (kept.sound.drained exited).1
  simp [Pool.isOpen] at shut
  omega

theorem Kept.ofFeeds (kept : run.Kept network stage) (isOpen : 0 < run.pool.feeds) {feeds : Nat}
    {stage' : Stage}
    (fits : { run with pool := { run.pool with feeds } }.Fits
      (run.endpoint ∈ network.sockets.map Endpoint.number) stage') :
    { run with pool := { run.pool with feeds } }.Kept network stage' :=
  ⟨⟨kept.sound.bounded, fun exited => absurd exited (kept.unexited isOpen)⟩, kept.roomy, kept.older,
    kept.located, kept.handing, fits⟩

theorem Kept.unstaff (kept : run.Kept network .hiring) :
    { run with pool := run.pool.detach }.Kept network .dismissing := by
  obtain ⟨absent, feeds, none_came, _, bound⟩ := kept.fits
  refine kept.ofFeeds (by omega) ⟨absent, ?_, none_came, bound⟩
  simp [feeds]

theorem Kept.staff (kept : run.Kept network .hiring) (staffed : run.pool.workers ≠ []) :
    { run with pool := run.pool.attach }.Kept network .staffed := by
  obtain ⟨absent, feeds, none_came, rest⟩ := kept.fits
  refine kept.ofFeeds (by omega) ⟨absent, ?_, none_came, staffed, rest⟩
  simp [feeds]

theorem Kept.unlaunch (kept : run.Kept network .staffed) :
    { run with pool := run.pool.detach.detach }.Kept network .dismissing := by
  obtain ⟨absent, feeds, none_came, _, _, bound⟩ := kept.fits
  refine kept.ofFeeds (by omega) ⟨absent, ?_, none_came, bound⟩
  simp [Pool.detach, feeds]

theorem Kept.launch (kept : run.Kept network .staffed) :
    { run with acceptor := .accepting .serving }.Kept network .serving := by
  obtain ⟨absent, feeds, none_came, staffed, unwoken, bound⟩ := kept.fits
  refine ⟨kept.sound, kept.roomy, kept.older, kept.located, fun waits => ?_,
    rfl, feeds, staffed, unwoken, bound⟩
  obtain ⟨_, handing⟩ := kept.handing waits
  rw [absent] at handing
  cases handing

/-- The workers that were hired for nothing have ended, and the socket is closed. -/
theorem Kept.dismiss (kept : run.Kept network .dismissing) :
    { run with pool := run.pool.join }.Kept (network.close run.endpoint) .past := by
  obtain ⟨absent, feeds, none_came, _⟩ := kept.fits
  obtain ⟨empty, none_left⟩ := List.append_eq_nil_iff.1 (List.map_eq_nil_iff.1 none_came)
  have joined : run.pool.join.unfinished = [] := by
    simp only [Pool.unfinished, List.append_eq_nil_iff] at empty
    simp [Pool.unfinished, Pool.join, Pool.held, empty.1]
  have closed := network.notMem_sockets_close run.endpoint
  refine ⟨⟨kept.sound.bounded, fun exited => by cases exited⟩, kept.roomy, kept.older,
    fun e member here => absurd (List.mem_map.2 ⟨e, member, here⟩) closed, kept.handing,
    .inl ⟨absent, ?_⟩, feeds, joined, rfl, closed⟩
  rw [Pool.numbers, joined]
  simp [Pool.join, none_left]

theorem Kept.halt (kept : run.Kept network .serving) : run.Kept network .halted := by
  obtain ⟨serving, feeds, staffed, unwoken, bound⟩ := kept.fits
  have alive : run.acceptor.isAlive := by
    cases acceptor : run.acceptor <;> simp [acceptor, Acceptor.isServing, Acceptor.isAlive] at *
  exact ⟨kept.sound, kept.roomy, kept.older, kept.located, kept.handing,
    ⟨staffed, .inl ⟨alive, feeds, bound⟩⟩, unwoken⟩

theorem Kept.wake (kept : run.Kept network .halted) (wakePeer : Option SocketAddress) :
    { run with wakePeer }.Kept network .woken :=
  ⟨kept.sound, kept.roomy, kept.older, kept.located, kept.handing, kept.fits.1⟩

theorem Kept.drain (kept : run.Kept network .woken) (exited : run.acceptor = .exited) :
    { run with pool := run.pool.detach }.Kept network .draining := by
  obtain ⟨staffed, ⟨alive, _⟩ | ⟨_, feeds, waiting, unbound⟩⟩ := kept.fits
  · simp [exited, Acceptor.isAlive] at alive
  · refine kept.ofFeeds (by omega) ⟨exited, ?_, waiting, staffed, unbound⟩
    simp [feeds]

theorem Kept.settle (kept : run.Kept network .draining) (done : run.pool.isDone) :
    { run with pool := run.pool.join }.Kept network .past := by
  obtain ⟨exited, feeds, waiting, staffed, unbound⟩ := kept.fits
  have ended : ∀ worker ∈ run.pool.workers, worker = .exited := by simpa [Pool.isDone] using done
  -- There is a worker, and it ended because the queue was empty.
  obtain ⟨worker, member⟩ := List.exists_mem_of_ne_nil _ staffed
  have empty : run.pool.queue = [] := (kept.sound.drained (ended worker member ▸ member)).2
  refine ⟨⟨kept.sound.bounded, fun exited => by cases exited⟩, kept.roomy, kept.older,
    kept.located, kept.handing, .inr exited, feeds, ?_, rfl, unbound⟩
  simp [Pool.unfinished, Pool.join, Pool.held, waiting, empty]

end Run

end TimeServer
