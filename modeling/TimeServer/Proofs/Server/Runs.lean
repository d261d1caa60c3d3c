import TimeServer.Proofs.Server.Lifecycle
import TimeServer.Proofs.Server.Run

/-! # The runs of a server

Of all the runs of a server one at most is not over: the one that a call is setting up or taking
down, or the one in the slot.

* `Server.stage` — the stage of each run, from the call that acts and the slot;
* `Server.Kept` — every run fits its stage;
* `kept_of_reaches` — in every state.
-/

namespace TimeServer

/-- The stage of a run that is to serve, from the phase of the server. -/
def Phase.service : Phase → Run.Stage
  | .running => .serving
  | _ => .halted

/-- The stage of a run once the server is being stopped. -/
def Run.Stage.halt : Run.Stage → Run.Stage
  | .serving => .halted
  | stage => stage

namespace Task

/-- The run that the call sets up or takes down, and the stage of that run. -/
def stage? (service : Run.Stage) : Task → Option (Nat × Run.Stage)
  | .hiring i => some (i, .hiring)
  | .opening i | .launching i => some (i, .staffed)
  | .dismissing i _ => some (i, .dismissing)
  | .filling i => some (i, service)
  | .waking i => some (i, .halted)
  | .joining i => some (i, .woken)
  | .draining i => some (i, .draining)
  | _ => none

theorem live_of_stage? {task : Task} {phase : Phase} {i : Nat} {st : Run.Stage}
    (own : task.stage? phase.service = some (i, st)) : st ≠ .past := by
  cases task <;> cases own
  case filling => cases phase <;> decide
  all_goals decide

theorem isActing_of_stage? {task : Task} {service : Run.Stage} {own : Nat × Run.Stage}
    (at_hand : task.stage? service = some own) : task.isActing := by
  cases task <;> simp [stage?, isActing, hasEmptied] at at_hand ⊢

theorem stage?_halt (task : Task) :
    task.stage? Phase.stopping.service =
      (task.stage? Phase.running.service).map fun (i, st) => (i, st.halt) := by
  cases task <;> rfl

end Task

namespace Server

/-- The stage of a run, from the call that acts, if there is one, and the slot. -/
def stage (s : Server) (acting : List Task) (i : Nat) : Run.Stage :=
  match acting.head?.bind (Task.stage? s.phase.service) with
  | some (j, stage) => if i = j then stage else .past
  | none => if s.slot = some i then s.phase.service else .past

/-- The network is sound and every run is at its stage. -/
structure Kept (s : Server) (stage : Nat → Run.Stage) : Prop where
  network : s.network.Sound
  runs : ∀ (i : Nat) (run : Run), s.runs[i]? = some run → run.Kept s.network (stage i)
  present : ∀ i, stage i ≠ .past → i < s.runs.length

variable {s server : Server} {stage stage' : Nat → Run.Stage} {task task' : Task}

/-! ## Changes of one run -/

theorem Kept.congr (kept : s.Kept stage) (same : ∀ i, stage' i = stage i)
    (runs : server.runs = s.runs) (sockets : server.network.sockets = s.network.sockets)
    (later : s.network.nextNumber ≤ server.network.nextNumber) : server.Kept stage' where
  network := (Network.Shrinks.of_eq sockets later).sound kept.network
  runs i run at_run := by
    rw [runs] at at_run
    rw [same i]
    exact (kept.runs i run at_run).of_sockets sockets later
  present i live := by
    rw [same i] at live
    rw [runs]
    exact kept.present i live

theorem Kept.change {network : Network} {i : Nat} {run : Run} {journal : Journal}
    (kept : s.Kept stage) (live : stage i ≠ .past) (shrinks : s.network.Shrinks network)
    (run_kept : run.Kept network (stage' i))
    (others : ∀ j, j ≠ i → stage j = .past ∧ stage' j = .past) :
    (s.change network i run journal).Kept stage' where
  network := shrinks.sound kept.network
  runs j other at_other := by
    obtain ⟨rfl, rfl⟩ | ⟨distinct, at_other⟩ := run_of_change at_other
    · exact run_kept
    · obtain ⟨before, after⟩ := others j distinct
      have past := kept.runs j other at_other
      rw [before] at past
      rw [after]
      exact past.of_shrinks shrinks
  present j live' := by
    rw [length_runs_change]
    by_cases same : j = i
    · exact same ▸ kept.present i live
    · exact absurd (others j same).2 live'

theorem Kept.replace {network : Network} {i : Nat} {run : Run} {journal : Journal}
    (kept : s.Kept stage) (sockets : network.sockets = s.network.sockets)
    (later : s.network.nextNumber ≤ network.nextNumber) (run_kept : run.Kept network (stage i)) :
    (s.change network i run journal).Kept stage where
  network := (Network.Shrinks.of_eq sockets later).sound kept.network
  runs j other at_other := by
    obtain ⟨rfl, rfl⟩ | ⟨_, at_other⟩ := run_of_change at_other
    · exact run_kept
    · exact (kept.runs j other at_other).of_sockets sockets later
  present j live := by
    rw [length_runs_change]
    exact kept.present j live

/-! ## Steps of calls -/

theorem kept_ofSettings (settings : Settings) {network : Network} (clock : Clock)
    (sound : network.Sound) : (ofSettings settings network clock).Kept fun _ => .past where
  network := sound
  runs _ _ at_run := by cases at_run
  present _ live := absurd rfl live

theorem stage_of_call {i : Nat} {st : Run.Stage} (own : task.stage? s.phase.service = some (i, st))
    (j : Nat) : s.stage [task] j = if j = i then st else .past := by
  simp [stage, own]

theorem stage_of_vacant (acting : List Task)
    (own : acting.head?.bind (Task.stage? s.phase.service) = none) (empty : s.slot = none)
    (j : Nat) : s.stage acting j = .past := by
  simp [stage, own, empty]

theorem stage_of_slot (acting : List Task) {i : Nat}
    (own : acting.head?.bind (Task.stage? s.phase.service) = none) (full : s.slot = some i)
    (j : Nat) : s.stage acting j = if j = i then s.phase.service else .past := by
  simp [stage, own, full, eq_comm]

/-- The run that a call has in its hands stands where the call says. -/
theorem Kept.of_own {stage : Nat → Run.Stage} {i : Nat} {st : Run.Stage} {run : Run}
    (kept : s.Kept stage) (own : ∀ j, stage j = if j = i then st else .past)
    (at_run : s.runs[i]? = some run) : run.Kept s.network st := by
  have run_kept := kept.runs i run at_run
  rwa [own, if_pos rfl] at run_kept

theorem Kept.past_of_own {stage : Nat → Run.Stage} {i j : Nat} {st : Run.Stage} {other : Run}
    (kept : s.Kept stage) (own : ∀ j, stage j = if j = i then st else .past) (distinct : j ≠ i)
    (at_other : s.runs[j]? = some other) : other.Kept s.network .past := by
  have other_kept := kept.runs j other at_other
  rwa [own, if_neg distinct] at other_kept

theorem Kept.hand (kept : s.Kept (s.stage [task])) {i : Nat} {st st' : Run.Stage} {run : Run}
    {network : Network} {journal : Journal} {calls : List Task}
    (own : task.stage? s.phase.service = some (i, st)) (shrinks : s.network.Shrinks network)
    (run_kept : run.Kept network st')
    (own' : ∀ j, (s.change network i run journal).stage calls j = if j = i then st' else .past) :
    (s.change network i run journal).Kept ((s.change network i run journal).stage calls) := by
  refine kept.change ?_ shrinks ?_ fun j distinct => ⟨?_, ?_⟩
  · rw [stage_of_call own, if_pos rfl]
    exact Task.live_of_stage? own
  · rw [own' i, if_pos rfl]
    exact run_kept
  · rw [stage_of_call own, if_neg distinct]
  · rw [own' j, if_neg distinct]

theorem Kept.at_hand (kept : s.Kept (s.stage [task])) {i : Nat} {st : Run.Stage} {run : Run}
    (own : task.stage? s.phase.service = some (i, st)) (at_run : s.runs[i]? = some run) :
    run.Kept s.network st := kept.of_own (stage_of_call own) at_run

theorem service_of_serving {run : Run} {network : Network} (kept : run.Kept network .serving)
    (phase : Phase) : run.Kept network phase.service := by
  cases phase with
  | running => exact kept
  | stopped | starting | stopping => exact kept.halt

theorem run_of_append {runs : List Run} {new run : Run} {i : Nat}
    (at_run : (runs ++ [new])[i]? = some run) :
    i < runs.length ∧ runs[i]? = some run ∨ i = runs.length ∧ run = new := by
  cases Nat.lt_or_ge i runs.length with
  | inl older =>
    rw [List.getElem?_append_left older] at at_run
    exact .inl ⟨older, at_run⟩
  | inr newer =>
    rw [List.getElem?_append_right newer] at at_run
    obtain ⟨here, same⟩ := List.getElem?_eq_some_iff.1 at_run
    rw [List.length_singleton] at here
    rw [List.getElem_singleton] at same
    exact .inr ⟨by omega, same.symm⟩

theorem Kept.bind {address : SocketAddress} {dualStack : Bool} {endpoint : Endpoint}
    {network : Network} {capacity : Nat} (kept : s.Kept stage)
    (made : s.network.bind? address dualStack = (.ok endpoint, network))
    (vacant : ∀ j, stage j = .past)
    (own : ∀ j, stage' j = if j = s.runs.length then .hiring else .past) :
    { s with
      network
      runs := s.runs ++
        [Run.mk endpoint.number endpoint.address (.ofCapacity capacity) .absent none] }.Kept
          stage' := by
  obtain ⟨number_eq, _, _, _, grown, later⟩ := Network.of_bind?_ok made
  have member : endpoint.socket ∈ network.sockets := by simp [Network.sockets, grown]
  have sound := kept.network.bind made
  refine ⟨sound, fun i run at_run => ?_, fun i live => ?_⟩
  · obtain ⟨older, at_old⟩ | ⟨is_new, rfl⟩ := run_of_append at_run
    · have run_kept := kept.runs i run at_old
      rw [vacant] at run_kept
      rw [own, if_neg (Nat.ne_of_lt older)]
      exact run_kept.of_bind made
    · rw [own, if_pos is_new]
      refine ⟨⟨Nat.zero_le _, fun exited => by cases exited⟩, ?_, ?_, fun e e_mem same => ?_,
        fun waits => absurd rfl waits, rfl, rfl, rfl, rfl, ?_⟩
      · exact Nat.le_max_left 1 capacity
      · exact sound.fresh endpoint.socket member
      · have only := List.inj_on_of_nodup_map sound.distinct e_mem member same
        rw [only]
        rfl
      · exact List.mem_map.2 ⟨_, member, rfl⟩
  · rw [own] at live
    rw [List.length_append, List.length_singleton]
    split at live
    · omega
    · exact absurd rfl live

theorem kept_of_acting {waiting : List Task}
    (ordered : System.Ordered s.phase s.locked s.slot [task] waiting) (active : task.isActing)
    (kept : s.Kept (s.stage [task])) (step : Task.Step s task task' server) :
    server.Kept (server.stage ([task'].filter Task.isActing)) := by
  cases step with
  | enter | reject | halt | ignore | lock | emptied | vacant =>
    simp [Task.isActing, Task.hasEmptied] at active
  | misnamed => exact kept.congr (fun _ => rfl) rfl rfl (Nat.le_refl _)
  | unbound resolved failed =>
    obtain ⟨endpoints, later⟩ := Network.of_bind?_error kept.network.fresh failed
    refine kept.congr (fun _ => rfl) rfl ?_ later
    simp [Network.sockets, endpoints]
  | @bound address endpoint network resolved made =>
    -- Up to now every run was over, and the new one is in the hands of the call.
    have vacant := (ordered.of_inside (by simp [Task.insidePhases])).2.2.1
    exact kept.bind made (stage_of_vacant _ rfl vacant)
      (stage_of_call (show Task.stage? _ (.hiring s.runs.length) = _ from rfl))
  | hired at_run short tripped =>
    have run_kept := (kept.at_hand rfl at_run).hire
    exact kept.hand rfl (.of_eq rfl (Nat.le_refl _)) (run_kept.of_faults _) (stage_of_call rfl)
  | unstaffed at_run short tripped =>
    have run_kept := (kept.at_hand rfl at_run).unstaff
    exact kept.hand rfl (.of_eq rfl (Nat.le_refl _)) (run_kept.of_faults _) (stage_of_call rfl)
  | @staffed i run at_run enough =>
    have staffed : run.pool.workers ≠ [] := by
      rw [← List.length_pos_iff]
      exact Nat.lt_of_lt_of_le (Nat.le_max_left 1 _) enough
    have run_kept := (kept.at_hand rfl at_run).staff staffed
    exact kept.hand rfl (.of_eq rfl (Nat.le_refl _)) run_kept (stage_of_call rfl)
  | opened => exact kept.congr (fun _ => rfl) rfl rfl (Nat.le_refl _)
  | launched at_run tripped =>
    have run_kept := service_of_serving (kept.at_hand rfl at_run).launch s.phase
    exact kept.hand rfl (.of_eq rfl (Nat.le_refl _)) (run_kept.of_faults _) (stage_of_call rfl)
  | unlaunched at_run tripped =>
    have run_kept := (kept.at_hand rfl at_run).unlaunch
    exact kept.hand rfl (.of_eq rfl (Nat.le_refl _)) (run_kept.of_faults _) (stage_of_call rfl)
  | dismissed at_run done =>
    have run_kept := (kept.at_hand rfl at_run).dismiss
    have vacant := (ordered.of_inside (by simp [Task.insidePhases])).2.2.1
    refine kept.hand rfl (Network.shrinks_close _ _) run_kept fun j => ?_
    exact (stage_of_vacant (s := s.change _ _ _ _) _ rfl vacant j).trans (ite_self _).symm
  | @filled i run at_run =>
    refine kept.congr (fun j => ?_) rfl rfl (Nat.le_refl _)
    rw [stage_of_call rfl]
    exact stage_of_slot [.releasing (.ok run.address)] rfl rfl j
  | @failed error =>
    have vacant := (ordered.of_inside (by simp [Task.insidePhases])).2.2.1
    refine kept.congr (fun j => ?_) rfl rfl (Nat.le_refl _)
    rw [stage_of_vacant _ rfl vacant]
    exact stage_of_vacant (s := { s with phase := .stopped }) [.releasing (.error error)] rfl
      vacant j
  | release => exact kept.congr (fun _ => rfl) rfl rfl (Nat.le_refl _)
  | @woke i run nextPort faults notes at_run =>
    obtain ⟨sockets, later⟩ := s.network.sockets_connect
      ⟨(wakeTarget run.address).ip, s.network.takePort.1⟩ (wakeTarget run.address) {}
    have run_kept := (kept.at_hand rfl at_run).wake
      (some ⟨(wakeTarget run.address).ip, s.network.takePort.1⟩)
    exact kept.hand rfl (.of_eq sockets later) (run_kept.of_sockets sockets later)
      (stage_of_call rfl)
  | joined at_run exited =>
    have run_kept := (kept.at_hand rfl at_run).drain exited
    exact kept.hand rfl (.of_eq rfl (Nat.le_refl _)) run_kept (stage_of_call rfl)
  | drained at_run done =>
    have run_kept := (kept.at_hand rfl at_run).settle done
    have vacant := (ordered.of_hasEmptied rfl).2.2.1
    refine kept.hand rfl (.of_eq rfl (Nat.le_refl _)) run_kept fun j => ?_
    exact (stage_of_vacant (s := s.change _ _ _ _) _ rfl vacant j).trans (ite_self _).symm
  | settled =>
    have vacant := (ordered.of_hasEmptied rfl).2.2.1
    refine kept.congr (fun j => ?_) rfl rfl (Nat.le_refl _)
    rw [stage_of_vacant _ rfl vacant]
    exact stage_of_vacant (s := { s with phase := .stopped }) [] rfl vacant j

/-- A step of the call that waits takes the run out of the slot, if it is that of a stop. -/
theorem kept_of_waiting (ordered : System.Ordered s.phase s.locked s.slot [] [task])
    (waits : task.isWaiting) (kept : s.Kept (s.stage [])) (step : Task.Step s task task' server) :
    server.Kept (server.stage ([task'].filter Task.isActing)) := by
  cases step with
  | lock free => exact kept.congr (fun _ => rfl) rfl rfl (Nat.le_refl _)
  | @emptied i free full =>
    rw [free] at ordered
    obtain ⟨_, ⟨other, _⟩ | ⟨_, stopping, _⟩⟩ := ordered.of_waiting
    · cases other
    · refine kept.congr (fun j => ?_) rfl rfl (Nat.le_refl _)
      rw [stage_of_slot [] rfl full, stopping]
      exact stage_of_call rfl j
  | vacant free empty => exact kept.congr (fun _ => rfl) rfl rfl (Nat.le_refl _)
  | _ => simp [Task.isWaiting] at waits

/-- A run that was to serve is no longer to, and the others are at the stages where they were. -/
theorem stage_of_halt (acting : List Task) (running : s.phase = .running) (j : Nat) :
    { s with phase := .stopping }.stage acting j = (s.stage acting j).halt := by
  have tasks : acting.head?.bind (Task.stage? Phase.stopping.service) =
      (acting.head?.bind (Task.stage? Phase.running.service)).map
        fun (i, st) => (i, st.halt) := by
    cases acting with
    | nil => rfl
    | cons task _ => exact task.stage?_halt
  simp only [stage, running, tasks]
  cases acting.head?.bind (Task.stage? Phase.running.service) with
  | none =>
    simp only [Option.map_none]
    split <;> rfl
  | some hand =>
    simp only [Option.map_some]
    split <;> rfl

/-- A call that enters its phase leaves every run at its stage, but that a run is no longer to serve
    when it is a stop. -/
theorem kept_of_entry {acting : List Task} (idle : task.isActing = false ∧ task.isWaiting = false)
    (kept : s.Kept (s.stage acting)) (step : Task.Step s task task' server) :
    server.Kept (server.stage acting) := by
  cases step with
  | enter stopped =>
    refine kept.congr (fun j => ?_) rfl rfl (Nat.le_refl _)
    simp only [stage, stopped]
    rfl
  | halt running =>
    have halted := stage_of_halt acting running
    refine ⟨kept.network, fun j run at_run => ?_, fun j live => kept.present j fun past => live ?_⟩
    · have run_kept := kept.runs j run at_run
      refine (congrArg (run.Kept s.network) (halted j)).mpr ?_
      cases stage_eq : s.stage acting j with
      | serving =>
        rw [stage_eq] at run_kept
        exact run_kept.halt
      | _ =>
        rw [stage_eq] at run_kept
        exact run_kept
    · refine (halted j).trans ?_
      rw [past]
      rfl
  | reject | ignore => exact kept
  | _ => simp [Task.isActing, Task.isWaiting, Task.hasEmptied] at idle

/-! ## Moves of the threads -/

theorem stage_unique {calls : List Task} {i j : Nat} (live : s.stage calls i ≠ .past)
    (distinct : j ≠ i) : s.stage calls j = .past := by
  unfold stage at live ⊢
  split at live
  · rename_i k st own
    rw [if_neg]
    rintro rfl
    exact live (if_neg (Ne.symm distinct))
  · rename_i own
    rw [if_neg]
    intro full
    refine live (if_neg ?_)
    rw [full, Option.some.injEq]
    exact distinct

theorem Kept.past_of_live {calls : List Task} {i j : Nat} {other : Run}
    (kept : s.Kept (s.stage calls)) (live : s.stage calls i ≠ .past) (distinct : j ≠ i)
    (at_other : s.runs[j]? = some other) : other.Kept s.network .past := by
  have other_kept := kept.runs j other at_other
  rwa [stage_unique live distinct] at other_kept

theorem running_of_serving {calls : List Task} {i : Nat} (serving : s.stage calls i = .serving) :
    s.phase = .running := by
  have of_service : s.phase.service = .serving → s.phase = .running := by
    cases s.phase <;> simp [Phase.service]
  unfold stage at serving
  split at serving
  · -- A run in the hands of a call serves when that call is about to fill the slot.
    rename_i k st own
    obtain ⟨task, first, own⟩ := Option.bind_eq_some_iff.1 own
    split at serving
    · subst serving
      cases task <;> simp [Task.stage?] at own
      exact of_service own.2
    · cases serving
  · split at serving
    · exact of_service serving
    · cases serving

theorem head_of_woken {calls : List Task} {i : Nat} (woken : s.stage calls i = .woken) :
    calls.head? = some (.joining i) := by
  have unserved : s.phase.service ≠ .woken := by
    cases s.phase <;> simp [Phase.service]
  unfold stage at woken
  split at woken
  · rename_i k st own
    obtain ⟨task, first, own⟩ := Option.bind_eq_some_iff.1 own
    split at woken
    · rename_i here
      subst here woken
      rw [first]
      cases task <;> simp [Task.stage?] at own ⊢
      · exact absurd own.2 unserved
      · exact own
    · cases woken
  · split at woken
    · exact absurd woken unserved
    · cases woken

theorem stopping_of_woken {calls waiting : List Task} {i : Nat}
    (ordered : System.Ordered s.phase s.locked s.slot calls waiting)
    (woken : s.stage calls i = .woken) : s.phase = .stopping := by
  obtain rfl := ordered.of_head (head_of_woken woken)
  exact (ordered.of_hasEmptied rfl).1

theorem unwoken_of_running {calls waiting : List Task} {i : Nat} {run : Run}
    (ordered : System.Ordered s.phase s.locked s.slot calls waiting)
    (run_kept : run.Kept s.network (s.stage calls i)) (alive : run.acceptor.isAlive)
    (running : s.phase = .running) : run.wakePeer = none := by
  have fits := run_kept.fits
  obtain here | here | here := (run_kept.of_alive alive).1
  · rw [here] at fits
    exact fits.2.2.2.1
  · rw [here] at fits
    exact fits.2
  · rw [stopping_of_woken ordered here] at running
    cases running

variable {calls : List Task} {i : Nat} {run run' : Run} {network : Network} {journal : Journal}

theorem kept_of_accept (kept : s.Kept (s.stage calls)) (at_run : s.runs[i]? = some run)
    (step : Run.Step s run network run' journal) :
    s.stage calls i ≠ .past ∧ (s.change network i run' journal).Kept (s.stage calls) := by
  have run_kept := kept.runs i run at_run
  have live : s.stage calls i ≠ .past := by
    rcases (run_kept.of_alive step.isAlive).1 with here | here | here <;> simp [here]
  exact ⟨live, kept.change live step.shrinks
    (run_kept.of_accept step running_of_serving)
    fun j distinct => ⟨stage_unique live distinct, stage_unique live distinct⟩⟩

theorem kept_of_work {clock : Clock} {action : Pool.Action} {pool : Pool} {stage : Nat → Run.Stage}
    (kept : s.Kept stage) (at_run : s.runs[i]? = some run)
    (step : Pool.Step clock run.pool action journal pool) :
    (s.change s.network i { run with pool } journal).Kept stage :=
  kept.replace rfl (Nat.le_refl _) ((kept.runs i run at_run).of_work step)

end Server

namespace System

/-- The stage of each run. -/
def stage (h : System) : Nat → Run.Stage := h.server.stage h.acting

/-- The run that a call sets up or takes down is the only one that is not over. -/
theorem InOrder.stage_of_call {h : System} (ordered : h.InOrder) {call : Nat} {task : Task}
    (found : h.calls[call]? = some task) (i : Nat) (st : Run.Stage)
    (own : task.stage? h.server.phase.service = some (i, st)) (j : Nat) :
    h.stage j = if j = i then st else .past := by
  have active := Task.isActing_of_stage? own
  rw [stage, ordered.acting_eq (List.mem_of_getElem? found) active]
  exact Server.stage_of_call own j

theorem kept_advance {h next : System} {call : Nat} (ordered : h.InOrder)
    (kept : h.server.Kept h.stage) (moved : h.step? (.advance call) = some next) :
    next.server.Kept next.stage := by
  obtain ⟨task, task', _, step, _, ⟨active, acts, after, _⟩ |
    ⟨waits, acts, awaits, after, _⟩ | ⟨idle, same, _⟩⟩ := ordered.advance_cases moved
  · rw [InOrder, acts] at ordered
    rw [stage, acts] at kept
    rw [stage, after]
    exact Server.kept_of_acting ordered active kept step
  · rw [InOrder, acts, awaits] at ordered
    rw [stage, acts] at kept
    rw [stage, after]
    exact Server.kept_of_waiting ordered waits kept step
  · rw [stage, same]
    exact Server.kept_of_entry idle kept step

theorem kept_step {h next : System} {move : Move} (ordered : h.InOrder)
    (kept : h.server.Kept h.stage) (moved : h.step? move = some next) :
    next.server.Kept next.stage := by
  cases move with
  | advance call => exact kept_advance ordered kept moved
  | accept i =>
    obtain ⟨run, network, run', journal, at_run, step, rfl⟩ := step?_accept moved
    exact (Server.kept_of_accept kept at_run step).2
  | work i action =>
    obtain ⟨run, pool, journal, at_run, step, rfl⟩ := step?_work moved
    exact Server.kept_of_work kept at_run step
  | start | stop =>
    have same := (calls_of_other (by simp) moved).1
    cases moved
    refine kept.congr (fun j => ?_) rfl rfl (Nat.le_refl _)
    simp only [stage, same]
  | arrive source target stream =>
    obtain ⟨sockets, later⟩ := h.server.network.sockets_connect source target stream
    cases moved
    exact kept.congr (fun _ => rfl) rfl sockets later
  | nextPort | fault | setClock =>
    cases moved
    exact kept.congr (fun _ => rfl) rfl rfl (Nat.le_refl _)

theorem kept_of_reaches {allowed : System → Move → Prop} {settings : Settings} {network : Network}
    {clock : Clock} {h : System} (sound : network.Sound)
    (unovertaken : ∀ h move, allowed h move → h.Unovertaken move)
    (reached : Reaches allowed (ofServer (.ofSettings settings network clock)) h) :
    h.InOrder ∧ h.server.Kept h.stage := by
  refine reached.induction (P := fun h => h.InOrder ∧ h.server.Kept h.stage) ?_ ?_
  · exact ⟨.stopped, Server.kept_ofSettings settings clock sound⟩
  · intro h _ move before ok moved
    exact ⟨inOrder_step before.1 (unovertaken h move ok) moved, kept_step before.1 before.2 moved⟩

end System

end TimeServer
