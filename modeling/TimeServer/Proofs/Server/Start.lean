import TimeServer.Proofs.Network.Available
import TimeServer.Proofs.Server.Alone

/-! # What a start comes to

A start of a stopped server, carried out alone.

* `Server.Begun` — what the start has done when it stands at each of its tasks;
* `Server.Failed` — what it leaves behind when it fails: its report, and nothing else;
* `Server.Startable` — when it succeeds, if no call to the host is to fail;
* `start_of_stopped` — a start comes to its end, having succeeded or left nothing behind;
* `start_invalid_iff` — it complains about the address exactly if the settings denote none.
-/

namespace TimeServer

theorem Pool.Step.of_unfinished {clock : Clock} {pool next : Pool} {action : Pool.Action}
    {journal : Journal} (step : Pool.Step clock pool action journal next)
    (unfinished : pool.unfinished = []) : ∃ worker, journal = [.note (.workerExiting worker)] := by
  simp only [Pool.unfinished, List.append_eq_nil_iff] at unfinished
  obtain ⟨⟨waiting, queue⟩, held⟩ := unfinished
  cases step with
  | enqueue at_place | refuse at_place => simp [at_place] at waiting
  | take _ first => simp [first] at queue
  | exit => exact ⟨_, rfl⟩
  | serve at_work | close _ at_work | finish at_work =>
    simp [Pool.held, at_work, Worker.ticket?] at held

/-- Why the call has failed, or is about to report that it has. -/
def Task.failure? : Task → Option ServerError
  | .dismissing _ error | .failing error | .releasing (.error error) | .started (.error error) =>
    some error
  | _ => none

namespace Server

variable {first s next : Server} {task task' : Task}

/-- Since the start began nothing was counted, and workers have ended at most. -/
structure Since (first s : Server) : Prop where
  settings : s.settings = first.settings
  rules : s.network.rules = first.network.rules
  vacant : s.slot = none
  stats : s.stats = first.stats
  journal : ∃ exits : List Nat,
    s.journal = first.journal ++ exits.map fun worker => .note (.workerExiting worker)

/-- The socket of the run is the only one that has come. -/
def Holds (first s : Server) (i : Nat) : Prop :=
  ∃ e, s.network.endpoints = first.network.endpoints ++ [e] ∧
    ∀ run, s.runs[i]? = some run → run.endpoint = e.number

/-- A start has failed: the server is stopped, its sockets are those of before, nothing was counted,
    and the failure was reported once, after the workers had ended. -/
structure Failed (first s : Server) (error : ServerError) : Prop where
  settings : s.settings = first.settings
  rules : s.network.rules = first.network.rules
  vacant : s.slot = none
  stats : s.stats = first.stats
  phase : s.phase = .stopped
  endpoints : s.network.endpoints = first.network.endpoints
  journal : ∃ exits : List Nat, s.journal = first.journal ++
    exits.map (fun worker => .note (.workerExiting worker)) ++ [.note (.startFailed error)]

/-- What a start has done by the time it stands at a task. -/
def Begun (first : Server) : Task → Server → Prop
  | .entering, s =>
    s.phase = .stopped ∧ Since first s ∧ s.network.endpoints = first.network.endpoints
  | .locking, s | .binding, s | .failing _, s =>
    Since first s ∧ s.network.endpoints = first.network.endpoints
  | .hiring i, s | .opening i, s | .dismissing i _, s => Since first s ∧ Holds first s i
  | .launching i, s => Since first s ∧ Holds first s i ∧ s.phase = .running
  | .filling _, s => s.phase = .running
  | .releasing (.error error), s | .started (.error error), s => Failed first s error
  | .releasing (.ok address), s | .started (.ok address), s =>
    s.phase = .running ∧ s.localAddress = some address
  | _, _ => False

theorem Since.congr (since : Since first s) (settings : next.settings = s.settings)
    (rules : next.network.rules = s.network.rules) (slot : next.slot = s.slot)
    (stats : next.stats = s.stats) (journal : next.journal = s.journal) : Since first next where
  settings := settings.trans since.settings
  rules := rules.trans since.rules
  vacant := slot.trans since.vacant
  stats := stats.trans since.stats
  journal := journal ▸ since.journal

theorem Since.change {network : Network} {i : Nat} {run : Run} (since : Since first s)
    (rules : network.rules = s.network.rules) : Since first (s.change network i run []) where
  settings := since.settings
  rules := rules.trans since.rules
  vacant := since.vacant
  stats := since.stats
  journal := by
    obtain ⟨exits, journal⟩ := since.journal
    exact ⟨exits, by rw [← journal]; exact List.append_nil _⟩

theorem Holds.change {network : Network} {i j : Nat} {run run' : Run} {journal : Journal}
    (holds : Holds first s i) (at_run : s.runs[j]? = some run)
    (endpoints : network.endpoints = s.network.endpoints) (same : run'.endpoint = run.endpoint) :
    Holds first (s.change network j run' journal) i := by
  obtain ⟨e, grown, own⟩ := holds
  refine ⟨e, endpoints.trans grown, fun other at_other => ?_⟩
  obtain ⟨rfl, rfl⟩ | ⟨_, at_other⟩ := run_of_change at_other
  · exact same.trans (own run at_run)
  · exact own other at_other

/-- When the only socket that has come is closed, the sockets are those of before. -/
theorem Holds.close {i : Nat} {run : Run} (holds : Holds first s i)
    (distinct : (s.network.sockets.map Endpoint.number).Nodup) (at_run : s.runs[i]? = some run) :
    (s.network.close run.endpoint).endpoints = first.network.endpoints := by
  obtain ⟨e, grown, own⟩ := holds
  rw [Network.sockets, grown, List.map_map, List.map_append, List.nodup_append] at distinct
  have others : first.network.endpoints.filter (·.number != run.endpoint) =
      first.network.endpoints := by
    rw [List.filter_eq_self]
    intro f member
    rw [own run at_run, bne_iff_ne]
    exact distinct.2.2 _ (List.mem_map_of_mem member) _ (List.mem_singleton_self _)
  change s.network.endpoints.filter (·.number != run.endpoint) = _
  rw [grown, List.filter_append, others, List.filter_cons_of_neg (by simp [own run at_run]),
    List.filter_nil, List.append_nil]

/-! ## What the start does -/

theorem begun_of_step (sound : s.network.Sound) (begun : Begun first task s)
    (step : Task.Step s task task' next) : Begun first task' next := by
  -- Only the phase, the lock, the network and the runs change until the start reports.
  have rules := rules_of_step step
  cases step with
  | enter idle =>
    obtain ⟨_, since, endpoints⟩ := begun
    exact ⟨since.congr rfl rules rfl rfl rfl, endpoints⟩
  | reject busy => exact absurd begun.1 busy
  | lock free =>
    obtain ⟨since, endpoints⟩ := begun
    exact ⟨since.congr rfl rules rfl rfl rfl, endpoints⟩
  | misnamed unresolved => exact begun
  | unbound resolved failed =>
    obtain ⟨since, endpoints⟩ := begun
    exact ⟨since.congr rfl rules rfl rfl rfl,
      (Network.of_bind?_error sound.fresh failed).1.trans endpoints⟩
  | @bound address endpoint network resolved made =>
    obtain ⟨since, endpoints⟩ := begun
    obtain ⟨_, _, _, _, grown, _⟩ := Network.of_bind?_ok made
    refine ⟨since.congr rfl rules rfl rfl rfl, endpoint,
      grown.trans (by rw [endpoints]), fun run at_run => ?_⟩
    obtain ⟨older, _⟩ | ⟨_, rfl⟩ := run_of_append at_run
    · exact absurd older (Nat.lt_irrefl _)
    · rfl
  | hired at_run | unstaffed at_run | staffed at_run =>
    obtain ⟨since, holds⟩ := begun
    exact ⟨since.change rfl, holds.change at_run rfl rfl⟩
  | opened =>
    obtain ⟨since, holds⟩ := begun
    exact ⟨since.congr rfl rules rfl rfl rfl, holds, rfl⟩
  | unlaunched at_run =>
    obtain ⟨since, holds, _⟩ := begun
    exact ⟨since.change rfl, holds.change at_run rfl rfl⟩
  | launched => exact begun.2.2
  | filled at_run => exact ⟨begun, by simp [localAddress, note, record, at_run]⟩
  | dismissed at_run done =>
    obtain ⟨since, holds⟩ := begun
    exact ⟨since.change rfl, holds.close sound.distinct at_run⟩
  | @failed error =>
    obtain ⟨since, endpoints⟩ := begun
    obtain ⟨exits, journal⟩ := since.journal
    exact ⟨since.settings, since.rules, since.vacant, since.stats, rfl, endpoints, exits,
      by rw [← journal]; rfl⟩
  | @release result =>
    cases result with
    | ok address => exact begun
    | error error =>
      exact ⟨begun.settings, begun.rules, begun.vacant, begun.stats, begun.phase,
        begun.endpoints, begun.journal⟩
  | halt | ignore | emptied | vacant | woke | joined | drained | settled => exact begun.elim

theorem not_move_of_past {stage : Nat → Run.Stage} (kept : s.Kept stage)
    (past : ∀ i, stage i = .past) : ¬ s.Move next := by
  intro move
  cases move with
  | @accept i run _ _ _ at_run step =>
    have run_kept := kept.runs i run at_run
    have stages := (run_kept.of_alive step.isAlive).1
    rw [past] at stages
    simp at stages
  | @work i run action pool journal at_run step =>
    have run_kept := kept.runs i run at_run
    rw [past] at run_kept
    obtain ⟨_, _, unfinished, workers, _⟩ := run_kept.fits
    have few := step.length_workers
    simp only [Pool.unfinished, List.append_eq_nil_iff] at unfinished
    cases step with
    | enqueue at_place | refuse at_place => simp [at_place] at unfinished
    | take at_work | exit at_work | serve at_work | close _ at_work | finish at_work =>
      simp [at_work] at workers

/-- Before the accept thread is created, the moves of the threads are those of workers that end. -/
theorem since_of_move {i : Nat} {st : Run.Stage} (kept : s.Kept (s.stage [task]))
    (own : task.stage? s.phase.service = some (i, st))
    (early : st = .hiring ∨ st = .staffed ∨ st = .dismissing)
    (since : Since first s) (holds : Holds first s i) (move : s.Move next) :
    Since first next ∧ Holds first next i := by
  have stages : ∀ j, s.stage [task] j = .past ∨ s.stage [task] j = st := by
    intro j
    rw [stage_of_call own]
    split
    · exact .inr rfl
    · exact .inl rfl
  cases move with
  | @accept j run _ _ _ at_run step =>
    have late := ((kept.runs j run at_run).of_alive step.isAlive).1
    rcases stages j with past | own <;> rcases early with rfl | rfl | rfl <;> simp_all
  | @work j run action pool journal at_run step =>
    have fits := (kept.runs j run at_run).fits
    have unfinished : run.pool.unfinished = [] := by
      have of_numbers : run.pool.numbers = [] → run.pool.unfinished = [] := fun none_came =>
        (List.append_eq_nil_iff.1 (List.map_eq_nil_iff.1 none_came)).1
      cases stages j with
      | inl past =>
        rw [past] at fits
        exact fits.2.2.1
      | inr own =>
        rw [own] at fits
        obtain rfl | rfl | rfl := early
        · exact of_numbers fits.2.2.1
        · exact of_numbers fits.2.2.1
        · exact of_numbers fits.2.2.1
    obtain ⟨worker, rfl⟩ := step.of_unfinished unfinished
    obtain ⟨exits, journal⟩ := since.journal
    refine ⟨⟨since.settings, since.rules, since.vacant, since.stats, exits ++ [worker], ?_⟩,
      holds.change at_run rfl rfl⟩
    rw [List.map_append, ← List.append_assoc, ← journal]
    rfl

theorem localAddress_of_move (move : s.Move next) : next.localAddress = s.localAddress := by
  have address_eq : ∀ {j : Nat} {run run' : Run} {network : Network} {journal : Journal},
      s.runs[j]? = some run → run'.address = run.address →
        (s.change network j run' journal).localAddress = s.localAddress := by
    intro j run run' network journal at_run same
    obtain ⟨bound, rfl⟩ := List.getElem?_eq_some_iff.1 at_run
    cases full : s.slot with
    | none => simp [localAddress, Server.change, setRun, record, full]
    | some i =>
      by_cases here : j = i
      · subst here
        simp [localAddress, Server.change, setRun, record, full, bound, same]
      · simp [localAddress, Server.change, setRun, record, full, here]
  cases move with
  | accept at_run step => exact address_eq at_run (by cases step <;> rfl)
  | work at_run step => exact address_eq at_run rfl

/-- The moves of the threads between the steps of a start do what they should. -/
theorem begun_of_move (alone : s.Alone [task]) (begun : Begun first task s) (move : s.Move next) :
    Begun first task next := by
  -- Where the start has no run in its hands and the slot is empty, no thread is left to move.
  have stays : s.slot = none → task.stage? s.phase.service = none → Begun first task next := by
    intro vacant own
    have past := stage_of_vacant ([task].filter Task.isActing) (by
      rw [List.filter_singleton]
      cases task.isActing
      · rfl
      · exact own) vacant
    exact absurd move (not_move_of_past alone.kept past)
  have phase : next.phase = s.phase := by cases move <;> rfl
  cases task with
  | entering => exact stays begun.2.1.vacant rfl
  | locking | binding | failing => exact stays begun.1.vacant rfl
  | hiring i => exact since_of_move alone.kept rfl (.inl rfl) begun.1 begun.2 move
  | opening i => exact since_of_move alone.kept rfl (.inr (.inl rfl)) begun.1 begun.2 move
  | dismissing i => exact since_of_move alone.kept rfl (.inr (.inr rfl)) begun.1 begun.2 move
  | launching i =>
    obtain ⟨since, holds⟩ :=
      since_of_move alone.kept rfl (.inr (.inl rfl)) begun.1 begun.2.1 move
    exact ⟨since, holds, phase.trans begun.2.2⟩
  | filling i => exact phase.trans begun
  | releasing result | started result =>
    cases result with
    | ok address => exact ⟨phase.trans begun.1, (localAddress_of_move move).trans begun.2⟩
    | error error => exact stays begun.vacant rfl
  | halting | emptying | waking | joining | draining | settling | stopped => exact begun.elim

/-! ## When a start succeeds -/

/-- The address that the settings of the server denote on its host. -/
def target (s : Server) : Except ServerError SocketAddress :=
  s.settings.socketAddress s.network.rules.lookup

/-- The settings name an address, and it can be bound. -/
def Startable (s : Server) : Prop :=
  ∃ address, s.target = .ok address ∧
    Network.Available s.network.rules s.network.endpoints address s.settings.dualStack

theorem target_eq (settings : next.settings = s.settings)
    (rules : next.network.rules = s.network.rules) : next.target = s.target := by
  rw [target, settings, rules, target]

/-- Where no call to the host is to fail, a start fails exactly if the address cannot be bound. -/
def Clear (first : Server) : Task → Prop
  | .entering | .locking | .binding => True
  | .hiring _ | .opening _ | .launching _ | .filling _ | .releasing (.ok _) | .started (.ok _) =>
    first.Startable
  | .failing _ | .releasing (.error _) | .started (.error _) => ¬ first.Startable
  | _ => False

theorem clear_of_step (faultless : s.network.faults = []) (begun : Begun first task s)
    (clear : Clear first task) (step : Task.Step s task task' next) : Clear first task' := by
  have unmet : ∀ call, Network.takeFault call s.network.faults = (none, []) := by
    intro call
    rw [faultless]
    rfl
  cases step with
  | enter | lock => trivial
  | reject busy => exact absurd begun.1 busy
  | misnamed unresolved =>
    rintro ⟨address, resolved, _⟩
    have same := target_eq begun.1.settings begun.1.rules
    cases unresolved.symm.trans (same.trans resolved)
  | @unbound address error network resolved failed =>
    rintro ⟨address', resolved', available⟩
    have same := target_eq begun.1.settings begun.1.rules
    rw [← begun.1.settings, ← begun.1.rules, ← begun.2] at available
    obtain rfl : address' = address :=
      Except.ok.inj (resolved'.symm.trans (same.symm.trans resolved))
    obtain ⟨e, next, made⟩ := (Network.bind?_isOk_iff faultless).2 available
    rw [failed] at made
    cases made
  | @bound address endpoint network resolved made =>
    have same := target_eq begun.1.settings begun.1.rules
    refine ⟨address, same.symm.trans resolved, ?_⟩
    rw [← begun.1.settings, ← begun.1.rules, ← begun.2]
    exact (Network.bind?_isOk_iff faultless).1 ⟨_, _, made⟩
  | unstaffed _ _ tripped | unlaunched _ tripped =>
    rw [unmet] at tripped
    cases tripped
  | hired | staffed | opened | launched | filled | failed => exact clear
  | @release result => cases result <;> exact clear
  | dismissed | halt | ignore | emptied | vacant | woke | joined | drained | settled =>
    exact clear.elim

/-- What a start of a stopped server gives, and what it leaves. -/
def Outcome (first : Server) : Except ServerError SocketAddress → Server → Prop
  | .ok address, s => s.phase = .running ∧ s.localAddress = some address
  | .error error, s => Failed first s error

/-- A start of a stopped server comes to its end: the server is running, or it is as it was. -/
theorem start_of_stopped (alone : s.Alone []) (stopped : s.phase = .stopped) :
    s.start.2.Alone [] ∧ s.start.2.move? = none ∧ Outcome s s.start.1 s.start.2 ∧
      (s.network.faults = [] → ((∃ address, s.start.1 = .ok address) ↔ s.Startable)) := by
  have vacant : s.slot = none := by
    obtain ⟨_, vacant⟩ | ⟨running, _⟩ := alone.ordered.of_nil rfl
    · exact vacant
    · rw [stopped] at running
      cases running
  have ended := carryOut_over
    (P := fun task next => Begun s task next ∧
      (s.network.faults = [] → next.network.faults = [] ∧ Clear s task))
    (fun now task task' next alone ⟨begun, clear⟩ step =>
      ⟨begun_of_step alone.kept.network begun step, fun faultless => by
        obtain ⟨none_left, clear⟩ := clear faultless
        exact ⟨(none_left ▸ spent_of_step step).of_nil,
          clear_of_step none_left begun clear step⟩⟩)
    (fun now task next alone ⟨begun, clear⟩ move =>
      ⟨begun_of_move alone begun move, fun faultless => by
        obtain ⟨none_left, clear⟩ := clear faultless
        exact ⟨(none_left ▸ move.spent).of_nil, clear⟩⟩)
    s.taskSteps s .entering ((alone_singleton_iff ⟨rfl, rfl⟩).2 alone)
    ⟨⟨stopped, ⟨rfl, rfl, vacant, rfl, [], (List.append_nil _).symm⟩, rfl⟩, fun faultless =>
      ⟨faultless, trivial⟩⟩
    (.inr (.inl rfl)) (by simp only [distance, taskSteps]; omega)
  rcases carried : s.carryOut s.taskSteps .entering with ⟨task, next⟩
  rw [carried] at ended
  obtain ⟨done, alone', rest, begun, clear⟩ := ended
  cases task with
  | started result =>
    have started : s.start = (result, next) := by simp only [start, carried]
    rw [started]
    refine ⟨alone', rest, ?_, fun faultless => ?_⟩
    · cases result <;> exact begun
    · have clear := (clear faultless).2
      cases result with
      | ok address => exact ⟨fun _ => clear, fun _ => ⟨address, rfl⟩⟩
      | error error =>
        refine ⟨?_, fun startable => absurd startable clear⟩
        rintro ⟨_, ok⟩
        cases ok
  | stopped => exact begun.elim
  | _ => cases done

/-! ## Addresses that denote no socket -/

/-- What no thread changes. -/
structure Frame (s next : Server) : Prop where
  settings : next.settings = s.settings
  rules : next.network.rules = s.network.rules
  phase : next.phase = s.phase
  locked : next.locked = s.locked

theorem frame_of_move (move : s.Move next) : Frame s next := by
  cases move with
  | accept _ step => exact ⟨rfl, step.rules_eq, rfl, rfl⟩
  | work => exact ⟨rfl, rfl, rfl, rfl⟩

theorem frame_settle (s : Server) : Frame s s.settle := by
  refine settle_keeps (P := Frame s) (fun t next here move => ?_) ⟨rfl, rfl, rfl, rfl⟩
  have there := frame_of_move move
  exact ⟨there.settings.trans here.settings, there.rules.trans here.rules,
    there.phase.trans here.phase, there.locked.trans here.locked⟩

theorem start_of_misnamed (idle : s.phase = .stopped) (free : s.locked = false)
    {error : ServerError} (misnamed : s.target = .error error) : s.start.1 = .error error := by
  have entered : s.advance .entering = some (.locking, { s with phase := .starting }) := by
    simp [advance, Phase.transition, idle]
  have frame := frame_settle { s with phase := .starting }
  generalize starting : { s with phase := .starting }.settle = s₁ at frame
  have locked : s₁.advance .locking = some (.binding, { s₁ with locked := true }) := by
    simp [advance, frame.locked, free]
  have frame' := frame_settle { s₁ with locked := true }
  generalize inside : { s₁ with locked := true }.settle = s₂ at frame'
  have unbound : s₂.advance .binding = some (.failing error, s₂) := by
    have same : s₂.target = .error error := by
      rw [target_eq frame'.settings frame'.rules]
      exact (target_eq frame.settings frame.rules).trans misnamed
    rw [target] at same
    simp [advance, bindRun, same]
  -- From here on nothing is in the way of the report.
  have ended : ∀ limit, ∃ last, s₂.settle.carryOut (limit + 2) (.failing error) =
      (.started (.error error), last) :=
    fun limit => ⟨_, by
      rw [carryOut_succ rfl, carryOut_succ rfl, carryOut_of_over rfl]⟩
  obtain ⟨last, ended⟩ := ended (s.workerCount + 7)
  have carried : s.carryOut s.taskSteps .entering = (.started (.error error), last) := by
    rw [taskSteps, carryOut_succ entered, starting, carryOut_succ locked, inside,
      carryOut_succ unbound, ended]
  rw [start, carried]

/-- If the call complains about an address, the settings it began with denote no socket address for
    that reason. -/
def Truthful (first : Server) (task : Task) (s : Server) : Prop :=
  s.target = first.target ∧ ∀ address detail,
    task.failure? = some (.invalidListenAddress address detail) →
      first.target = .error (.invalidListenAddress address detail)

theorem truthful_of_step {first : Server} (truthful : Truthful first task s)
    (step : Task.Step s task task' next) : Truthful first task' next := by
  obtain ⟨same, named⟩ := truthful
  have kept := target_eq (settings_of_step step) (rules_of_step step)
  refine ⟨kept.trans same, ?_⟩
  intro address detail failure
  cases step with
  | misnamed misnamed =>
    cases failure
    exact same.symm.trans misnamed
  | dismissed | failed => exact named address detail failure
  | @release result =>
    cases result with
    | ok => cases failure
    | error error => exact named address detail failure
  | _ => cases failure

theorem misnamed_of_start {address detail : String}
    (failed : s.start.1 = .error (.invalidListenAddress address detail)) :
    s.target = .error (.invalidListenAddress address detail) := by
  have moves : ∀ t task next, Truthful s task t → t.Move next → Truthful s task next :=
    fun t task next truthful move =>
      ⟨(target_eq (frame_of_move move).settings (frame_of_move move).rules).trans truthful.1,
        truthful.2⟩
  have traced : Truthful s (s.carryOut s.taskSteps .entering).1
      (s.carryOut s.taskSteps .entering).2 := by
    refine carryOut_keeps (fun _ _ _ _ => truthful_of_step) moves s.taskSteps ⟨rfl, ?_⟩
    intro address detail failure
    cases failure
  apply traced.2
  unfold start at failed
  split at failed
  · rename_i result last carried
    rw [carried, show result = _ from failed]
    rfl
  · cases failed

theorem start_invalid_iff (idle : s.phase = .stopped) (free : s.locked = false)
    (address detail : String) :
    s.start.1 = .error (.invalidListenAddress address detail) ↔
      s.settings.socketAddress s.network.rules.lookup =
        .error (.invalidListenAddress address detail) :=
  ⟨misnamed_of_start, start_of_misnamed idle free⟩

end Server

end TimeServer
