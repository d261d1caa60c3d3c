import TimeServer.Daemon.Scene
import TimeServer.Proofs.Server.Graceful
import TimeServer.Proofs.Server.Observers

/-! # What happens to a daemon among its clients

* `Scene.Step` — the moves as a relation, one case for each kind;
* `Scene.InTurn` — the calls on the server follow one another.
-/

namespace TimeServer

/-! ## One caller -/

namespace System

variable {h next : System} {past : List Task} {task : Task}

theorem not_step_of_over {s server : Server} {task' : Task} (ended : task.isOver) :
    ¬ Task.Step s task task' server := by
  intro step
  cases step <;> cases ended

theorem last_of_advance {call : Nat} (split : h.calls = past ++ [task])
    (ended : ∀ other ∈ past, other.isOver) (moved : h.step? (.advance call) = some next) :
    ∃ task' server, Task.Step h.server task task' server ∧
      next = { h with server, calls := past ++ [task'] } := by
  obtain ⟨before, other, after, task', server, split', rfl, step, rfl⟩ := step?_advance moved
  rw [split] at split'
  cases after with
  | nil =>
    obtain ⟨rfl, same⟩ := List.append_inj' split' rfl
    cases same
    exact ⟨task', server, step, rfl⟩
  | cons last after =>
    -- The call would be among those that are over.
    have member : other ∈ past := by
      have front := congrArg List.dropLast split'
      rw [List.dropLast_concat, List.dropLast_append_cons] at front
      rw [front]
      simp
    exact absurd step (not_step_of_over (ended other member))

/-- Where only the last call need not be over, it is the only one that acts or waits. -/
theorem progress_of_last (split : h.calls = past ++ [task]) (ended : ∀ other ∈ past, other.isOver) :
    h.acting = [task].filter Task.isActing ∧ h.waiting = [task].filter Task.isWaiting := by
  have idle : past.filter Task.isActing = [] ∧ past.filter Task.isWaiting = [] := by
    constructor <;> rw [List.filter_eq_nil_iff] <;> intro other member
    · simp [(Server.idle_of_over (ended other member)).1]
    · simp [(Server.idle_of_over (ended other member)).2]
  constructor
  · rw [acting, split, List.filter_append, idle.1, List.nil_append]
  · rw [waiting, split, List.filter_append, idle.2, List.nil_append]

theorem unovertaken_of_last (ordered : h.InOrder) (split : h.calls = past ++ [task])
    (ended : ∀ other ∈ past, other.isOver) (move : Move) : h.Unovertaken move := by
  unfold Unovertaken overtakes
  split
  · split
    · rename_i call error failing
      rw [decide_eq_false_iff_not]
      intro stopping
      have is_last : task = .failing error := by
        have member := List.mem_of_getElem? failing
        rw [split, List.mem_append, List.mem_singleton] at member
        refine (member.resolve_left fun old => ?_).symm
        cases ended _ old
      -- A stop would be on its way to the lock.
      obtain ⟨acts, waits⟩ := progress_of_last split ended
      rw [InOrder, acts, waits, is_last, stopping] at ordered
      obtain ⟨_, _, _, nobody⟩ := ordered.of_inside (by simp [Task.insidePhases])
      cases nobody
    · rfl
  · rfl

theorem stopped_of_step {s server : Server}
    (ordered : Ordered s.phase s.locked s.slot ([task].filter Task.isActing)
      ([task].filter Task.isWaiting))
    (step : Task.Step s task .stopped server) : server.phase = .stopped := by
  cases step with
  | ignore idle =>
    obtain ⟨stopped, _⟩ | ⟨running, _⟩ := Ordered.of_nil ordered rfl
    · exact stopped
    · exact absurd running idle
  | settled => rfl

theorem calls_of_outside {move : Move} (outside : move.isCall = false)
    (other : ∀ call, move ≠ .advance call) (moved : h.step? move = some next) :
    next.calls = h.calls := by
  cases move with
  | start | stop => cases outside
  | advance call => exact absurd rfl (other call)
  | accept i =>
    obtain ⟨run, network, run', journal, _, _, rfl⟩ := step?_accept moved
    rfl
  | work i action =>
    obtain ⟨run, pool, journal, _, _, rfl⟩ := step?_work moved
    rfl
  | arrive | nextPort | fault | setClock =>
    cases moved
    rfl

end System

namespace Daemon

open TimeServer.Log (Record)

/-- Whether this may be the last call on the server while the daemon stands there. -/
def Stage.Admits (task : Task) : Stage → Prop
  | starting | stopping _ | leaving _ => True
  | preparing | waiting => task.isOver
  | returned _ => task = .stopped

namespace Scene

/-- The moves: the scene after each. -/
inductive Step (c : Config) (s : Scene) : Move → Scene → Prop
  | world {move : System.Move} {next : System} (outside : move.isCall = false)
      (moved : s.system.step? move = some next) :
      Step c s (.world move) { s with system := next, records := s.records ++ told s.system next }
  | refused {error : ServerError} (stage : s.stage = .starting)
      (ended : s.task? = some (.started (.error error))) :
      Step c s .proceed (s.halt (.leaving (.error (.server error))))
  | started {address : SocketAddress} (stage : s.stage = .starting)
      (ended : s.task? = some (.started (.ok address))) :
      Step c s .proceed
        { s.log (startRecord c s.system.server.clock address) with stage := .preparing }
  | prepared (stage : s.stage = .preparing) : Step c s .proceed { s with stage := .waiting }
  | unprepared {cause : IoError} (stage : s.stage = .preparing) :
      Step c s (.unprepared cause) (s.halt (.leaving (.error (.runtime cause))))
  | reported (stage : s.stage = .waiting) (usual : c.statsInterval.isSome) :
      Step c s .report s.report
  | finished {finish : Except IoError Signal} (stage : s.stage = .waiting) :
      Step c s (.finish finish)
        ((s.log (finishRecord s.system.server.clock finish)).halt (.stopping finish))
  | halted {finish : Except IoError Signal} (stage : s.stage = .stopping finish)
      (ended : s.task? = some .stopped) :
      Step c s .proceed (s.report.halt (.leaving (verdict finish)))
  | returned {result : Except DaemonError Unit} (stage : s.stage = .leaving result)
      (ended : s.task? = some .stopped) :
      Step c s .proceed { s with stage := .returned result }

variable {c : Config} {allowed : System → System.Move → Prop} {first s next : Scene}
  {moves : List Move} {move : Move}

theorem step_of_step? (moved : s.step? c move = some next) : Step c s move next := by
  cases move with
  | world outer =>
    simp only [step?, happen?] at moved
    split at moved
    · cases moved
    · rename_i outside
      obtain ⟨system, came, rfl⟩ := Option.map_eq_some_iff.1 moved
      exact .world (by simpa using outside) came
  | proceed =>
    simp only [step?, proceed?] at moved
    split at moved
    · rename_i error stage ended
      cases moved
      exact .refused stage ended
    · rename_i address stage ended
      cases moved
      exact .started stage ended
    · rename_i stage
      cases moved
      exact .prepared stage
    · rename_i finish stage ended
      cases moved
      exact .halted stage ended
    · rename_i result stage ended
      cases moved
      exact .returned stage ended
    · cases moved
  | unprepared cause =>
    simp only [step?] at moved
    split at moved
    · rename_i stage
      cases moved
      exact .unprepared stage
    · cases moved
  | report =>
    simp only [step?] at moved
    split at moved
    · rename_i stage
      split at moved
      · rename_i usual
        cases moved
        exact .reported stage usual
      · cases moved
    · cases moved
  | finish finish =>
    simp only [step?] at moved
    split at moved
    · rename_i stage
      cases moved
      exact .finished stage
    · cases moved

theorem Reaches.trans {scene last : Scene} {more : List Move}
    (before : Reaches c allowed first moves scene) (after : Reaches c allowed scene more last) :
    Reaches c allowed first (moves ++ more) last := by
  induction after with
  | refl =>
    rw [List.append_nil]
    exact before
  | step move _ ok moved ih =>
    rw [← List.append_assoc]
    exact ih.step move ok moved

theorem Reaches.mono {allowed' : System → System.Move → Prop}
    (reached : Reaches c allowed first moves s)
    (weaker : ∀ h move, allowed h move → allowed' h move) : Reaches c allowed' first moves s := by
  induction reached with
  | refl => exact .refl
  | step move _ ok moved ih =>
    exact ih.step move (fun outer same => weaker _ _ (ok outer same)) moved

theorem Reaches.unrestricted (reached : Reaches c allowed first moves s) :
    Reaches c System.anyMove first moves s :=
  reached.mono fun _ _ _ => trivial

/-! ## The calls on the server -/

/-- The calls on the server follow one another: only the last one need not be over, and a stop that
    has returned has left the server stopped. -/
def InTurn (s : Scene) : Prop :=
  ∃ past task, s.system.calls = past ++ [task] ∧ (∀ other ∈ past, other.isOver) ∧
    s.stage.Admits task ∧ (task = .stopped → s.system.server.phase = .stopped)

theorem task?_eq {past : List Task} {task : Task} (split : s.system.calls = past ++ [task]) :
    s.task? = some task := by
  rw [task?, split, List.getLast?_concat]

theorem InTurn.call (inTurn : s.InTurn) (ended : ∀ task, s.task? = some task → task.isOver)
    {stage : Stage} (admits : stage.Admits .halting) : (s.halt stage).InTurn := by
  obtain ⟨past, task, split, past_over, _⟩ := inTurn
  refine ⟨past ++ [task], .halting, ?_, ?_, admits, nofun⟩
  · rw [halt, split]
  · intro other member
    obtain member | member := List.mem_append.1 member
    · exact past_over other member
    · rw [List.mem_singleton.1 member]
      exact ended task (task?_eq split)

theorem InTurn.over_of_admits (inTurn : s.InTurn)
    (admits : ∀ task, s.stage.Admits task → task.isOver) :
    ∀ task, s.task? = some task → task.isOver := by
  obtain ⟨past, task, split, _, admitted, _⟩ := inTurn
  intro other last
  rw [task?_eq split, Option.some.injEq] at last
  exact last ▸ admits task admitted

theorem over_of_task? {done : Task} (done_over : done.isOver) (last : s.task? = some done) :
    ∀ task, s.task? = some task → task.isOver := by
  intro task same
  rw [last, Option.some.injEq] at same
  exact same ▸ done_over

theorem InTurn.goOn (inTurn : s.InTurn) {stage : Stage} (records : List Record)
    (admits : ∀ task, s.stage.Admits task → s.task? = some task → stage.Admits task) :
    InTurn { s with stage, records } := by
  obtain ⟨past, task, split, ended, admitted, stopped⟩ := inTurn
  exact ⟨past, task, split, ended, admits task admitted (task?_eq split), stopped⟩

theorem inTurn_of_world {outer : System.Move} {system : System} (ordered : s.system.InOrder)
    (inTurn : s.InTurn) (outside : outer.isCall = false)
    (moved : s.system.step? outer = some system)
    (records : List Record) : InTurn { s with system, records } := by
  obtain ⟨past, task, split, ended, admits, stopped⟩ := inTurn
  by_cases advances : ∃ call, outer = .advance call
  · obtain ⟨call, rfl⟩ := advances
    obtain ⟨task', server, step, rfl⟩ := System.last_of_advance split ended moved
    have unfinished : ¬ task.isOver := fun done => System.not_step_of_over done step
    refine ⟨past, task', rfl, ended, ?_, ?_⟩
    · -- Where the daemon stands after a call that is over, there is nothing to advance.
      show s.stage.Admits task'
      cases stage : s.stage with
      | starting | stopping | leaving => trivial
      | preparing | waiting =>
        rw [stage] at admits
        exact absurd admits unfinished
      | returned result =>
        rw [stage] at admits
        cases (admits : task = .stopped)
        exact absurd rfl unfinished
    · rintro rfl
      obtain ⟨acts, waits⟩ := System.progress_of_last split ended
      rw [System.InOrder, acts, waits] at ordered
      exact System.stopped_of_step ordered step
  · -- Nobody but a call changes the phase.
    have other : ∀ call, outer ≠ .advance call := fun call same => advances ⟨call, same⟩
    obtain ⟨phase, _, _⟩ := System.standing_of_other other moved
    refine ⟨past, task, (System.calls_of_outside outside other moved).trans split, ended, admits,
      ?_⟩
    intro done
    exact phase.trans (stopped done)

theorem inTurn_of_step (ordered : s.system.InOrder) (inTurn : s.InTurn)
    (step : Step c s move next) : next.InTurn := by
  cases step with
  | world outside moved => exact inTurn_of_world ordered inTurn outside moved _
  | refused stage last => exact inTurn.call (over_of_task? rfl last) trivial
  | started stage last => exact inTurn.goOn _ fun task _ same => over_of_task? rfl last task same
  | prepared stage =>
    refine inTurn.goOn s.records ?_
    rw [stage]
    exact fun task ended _ => ended
  | unprepared stage =>
    have preparing : ∀ task, s.stage.Admits task → task.isOver := by
      rw [stage]
      exact fun task ended => ended
    exact inTurn.call (inTurn.over_of_admits preparing) trivial
  | reported stage => exact inTurn.goOn _ fun task admits _ => admits
  | finished stage =>
    have waiting : ∀ task, s.stage.Admits task → task.isOver := by
      rw [stage]
      exact fun task ended => ended
    exact (inTurn.goOn _ fun task admits _ => admits).call (inTurn.over_of_admits waiting) trivial
  | halted stage last =>
    exact (inTurn.goOn _ fun task admits _ => admits).call (over_of_task? rfl last) trivial
  | returned stage last =>
    -- The call that gave up the server is a stop, and it has returned.
    apply inTurn.goOn s.records
    intro task _ same
    rw [last, Option.some.injEq] at same
    exact same.symm

/-- The daemon calls its server once at a time, so the calls follow one another and none sets the
    phase back under another. -/
theorem inOrder_of_step (ordered : s.system.InOrder) (inTurn : s.InTurn)
    (step : Step c s move next) : next.system.InOrder := by
  cases step with
  | world _ came =>
    obtain ⟨past, task, split, ended, _⟩ := inTurn
    exact System.inOrder_step ordered (System.unovertaken_of_last ordered split ended _) came
  | refused | unprepared | finished | halted =>
    have unovertaken : s.system.Unovertaken .stop := rfl
    exact System.inOrder_step ordered unovertaken rfl
  | started | prepared | reported | returned => exact ordered

theorem Reaches.inTurn {network : Network} {clock : Clock}
    (reached : Reaches c allowed (ofConfig c network clock) moves s) :
    s.system.InOrder ∧ s.InTurn := by
  induction reached with
  | refl =>
    refine ⟨.stopped, [], .entering, rfl, ?_, trivial, ?_⟩
    · intro other member
      cases member
    · intro same
      cases same
  | step move _ _ moved ih =>
    have step := step_of_step? moved
    exact ⟨inOrder_of_step ih.1 ih.2 step, inTurn_of_step ih.1 ih.2 step⟩

theorem Reaches.system {network : Network} {clock : Clock}
    (reached : Reaches c allowed (ofConfig c network clock) moves s)
    (calls : ∀ h, allowed h .start ∧ allowed h .stop) :
    System.Reaches (fun h move => allowed h move ∧ h.Unovertaken move)
      (System.ofServer (.ofSettings c.settings network clock)) s.system := by
  induction reached with
  | refl => exact System.Reaches.refl.step .start ⟨(calls _).1, rfl⟩ rfl
  | step move before ok moved ih =>
    cases step_of_step? moved with
    -- Every other move of the daemon calls its server to stop it, or leaves it alone.
    | world _ came =>
      obtain ⟨ordered, past, task, split, ended, _⟩ := before.inTurn
      exact ih.step _ ⟨ok _ rfl, System.unovertaken_of_last ordered split ended _⟩ came
    | refused | unprepared | finished | halted => exact ih.step .stop ⟨(calls _).2, rfl⟩ rfl
    | started | prepared | reported | returned => exact ih

theorem Reaches.kept {network : Network} {clock : Clock} (sound : network.Sound)
    (reached : Reaches c allowed (ofConfig c network clock) moves s) :
    s.system.InOrder ∧ s.system.server.Kept s.system.stage :=
  System.kept_of_reaches sound (fun _ _ ok => ok.2)
    (reached.unrestricted.system fun _ => ⟨trivial, trivial⟩)

end Scene

end Daemon

end TimeServer
