import TimeServer.Proofs.Daemon.Scene

/-! # The run of a daemon that is left alone

A daemon that lets everything come to rest before it goes on is one that gets on among its clients.

* `Move.isVisible`, `Course.SeenAs` — what of a course is to be seen in the moves;
* `Scene.Leads` — what the world does to the server, with all that the server tells in the log;
* `leads_settle`, `leads_carryOut`, `leads_fetch` — letting threads come to rest, carrying out a
  call and serving a client are moves of the world;
* `reaches_run` — so the whole run is, it shows its course, and it comes to its end.
-/

namespace TimeServer

/-! ## Calls that are carried out -/

/-- Whether the call is one that stops the server. -/
def Task.isStop : Task → Bool
  | .halting | .emptying | .waking _ | .joining _ | .draining _ | .settling | .stopped => true
  | _ => false

namespace Server

variable {s next server : Server} {task task' : Task}

theorem isStop_of_step (step : Task.Step s task task' next) : task'.isStop = task.isStop := by
  cases step <;> rfl

theorem journal_of_step (step : Task.Step s task task' next) :
    ∃ journal, next.journal = s.journal ++ journal := by
  cases step with
  | enter | reject | lock | misnamed | unbound | bound | opened | release | ignore | emptied
  | vacant => exact ⟨[], (List.append_nil _).symm⟩
  | _ => exact ⟨_, rfl⟩

theorem runs_of_step (step : Task.Step s task task' next) : s.runs.length ≤ next.runs.length := by
  cases step with
  | bound => simp
  | hired | unstaffed | staffed | launched | unlaunched | dismissed | woke | joined | drained =>
    exact Nat.le_of_eq (length_runs_change _ _ _ _ _).symm
  | _ => exact Nat.le_refl _

/-- A call that is carried out alone comes to the end of a call of its kind, and a stop leaves the
    server stopped. -/
theorem over_of_carryOut (alone : s.Alone []) (first : task = .entering ∨ task = .halting) :
    (s.carryOut s.taskSteps task).1.isOver ∧
      (s.carryOut s.taskSteps task).1.isStop = task.isStop ∧
        ((s.carryOut s.taskSteps task).1 = .stopped →
          (s.carryOut s.taskSteps task).2.phase = .stopped) := by
  obtain ⟨idle, near⟩ := alone.begins first
  have unstopped : task = .stopped → s.phase = .stopped := by
    rcases first with rfl | rfl <;> intro same <;> cases same
  -- Every step keeps the kind of the call, and that a stop only returns from a stopped server.
  obtain ⟨ended, _, _, same, stopped⟩ := carryOut_over
    (P := fun other t => other.isStop = task.isStop ∧ (other = .stopped → t.phase = .stopped))
    (fun _ _ _ _ alone here step => ⟨(isStop_of_step step).trans here.1, by
      rintro rfl
      exact System.stopped_of_step alone.ordered step⟩)
    (fun _ _ _ _ here move => ⟨here.1, by cases move <;> exact here.2⟩)
    s.taskSteps s task idle ⟨rfl, unstopped⟩ (.inr first) near
  exact ⟨ended, same, stopped⟩

theorem carryOut_entering (alone : s.Alone []) :
    s.carryOut s.taskSteps .entering = (.started s.start.1, s.start.2) := by
  obtain ⟨ended, kind, _⟩ := over_of_carryOut alone (.inl rfl)
  unfold start
  rcases carried : s.carryOut s.taskSteps .entering with ⟨task, last⟩
  rw [carried] at ended kind
  cases task with
  | started result => rfl
  | stopped => cases kind
  | _ => cases ended

theorem carryOut_halting (alone : s.Alone []) :
    s.carryOut s.taskSteps .halting = (.stopped, s.stop) ∧ s.stop.phase = .stopped := by
  obtain ⟨ended, kind, stopped⟩ := over_of_carryOut alone (.inr rfl)
  unfold stop
  rcases carried : s.carryOut s.taskSteps .halting with ⟨task, last⟩
  rw [carried] at ended kind stopped
  cases task with
  | stopped => exact ⟨rfl, stopped rfl⟩
  | started result => cases kind
  | _ => cases ended

end Server

/-! ## Moves of the threads as moves of the world -/

namespace System

variable {h next : System}

/-- Whether somebody gets on: nobody calls the server, and the clock shows the time it did. -/
def Move.isTurn : Move → Bool
  | .start | .stop | .setClock _ => false
  | _ => true

theorem told_of_turn {move : Move} (turn : move.isTurn) (moved : h.step? move = some next) :
    next.server.clock = h.server.clock ∧ h.server.runs.length ≤ next.server.runs.length ∧
      ∃ journal, next.server.journal = h.server.journal ++ journal := by
  cases move with
  | start | stop | setClock => cases turn
  | advance call =>
    obtain ⟨_, _, _, _, _, _, _, step, rfl⟩ := step?_advance moved
    exact ⟨Server.clock_of_step step, Server.runs_of_step step, Server.journal_of_step step⟩
  | accept i =>
    obtain ⟨_, _, _, _, _, _, rfl⟩ := step?_accept moved
    exact ⟨rfl, Nat.le_of_eq (Server.length_runs_change _ _ _ _ _).symm, _, rfl⟩
  | work i action =>
    obtain ⟨_, _, _, _, _, rfl⟩ := step?_work moved
    exact ⟨rfl, Nat.le_of_eq (Server.length_runs_change _ _ _ _ _).symm, _, rfl⟩
  | arrive | nextPort | fault =>
    cases moved
    exact ⟨rfl, Nat.le_refl _, [], (List.append_nil _).symm⟩

/-- Whether the move is one of a thread. -/
def Move.isThread : Move → Bool
  | .accept _ | .work .. => true
  | _ => false

theorem turn_of_move? {server : Server} (moved : h.server.move? = some server) :
    ∃ move next, move.isThread ∧ h.step? move = some next ∧ next.server = server ∧
      next.calls = h.calls := by
  -- In the first run where somebody can move, the accept thread goes before the workers.
  obtain ⟨i, _, moved⟩ := List.exists_of_findSome?_eq_some moved
  obtain ⟨run, at_run, moved⟩ := Option.bind_eq_some_iff.1 moved
  cases accepted : h.server.moveAcceptor? i run with
  | some other =>
    rw [accepted] at moved
    cases moved
    obtain ⟨next, acts, same, calls⟩ : ∃ next, h.step? (.accept i) = some next ∧
        next.server = server ∧ next.calls = h.calls := by
      simp [step?, at_run, accepted]
    exact ⟨.accept i, next, rfl, acts, same, calls⟩
  | none =>
    rw [accepted] at moved
    obtain ⟨⟨pool, journal⟩, worked, moved⟩ := Option.bind_eq_some_iff.1 moved
    cases moved
    obtain ⟨action, _, acted⟩ := List.exists_of_findSome?_eq_some worked
    have acts : h.step? (.work i action) =
        some { h with server := (h.server.setRun i { run with pool }).record journal } := by
      simp [step?, at_run, acted]
    exact ⟨.work i action, _, rfl, acts, rfl, rfl⟩

theorem step?_of_advance {past : List Task} {task task' : Task} {server : Server}
    (split : h.calls = past ++ [task]) (advanced : h.server.advance task = some (task', server)) :
    h.step? (.advance past.length) = some { h with server, calls := past ++ [task'] } := by
  simp [step?, split, advanced]

end System

/-! ## What is to be seen of a course -/

namespace Daemon

/-- Whether the move is not one of the threads and calls alone. -/
def Move.isVisible : Move → Bool
  | .world (.arrive ..) | .unprepared _ | .report | .finish _ => true
  | .world _ | .proceed => false

/-- Reports only fall due if they are configured. -/
def Happening.isDue (c : Config) : Happening → Bool
  | .client _ => true
  | .report => c.statsInterval.isSome

/-- The move is the one that shows the happening. -/
def Happening.SeenAs : Happening → Move → Prop
  | .client source, .world (.arrive origin _ _) => ∀ ip ∈ source, origin.ip = ip
  | .report, .report => True
  | _, _ => False

/-- These moves show the course: what happens, in its order, and how the wait ends. -/
def Course.SeenAs (c : Config) : Course → List Move → Prop
  | .unprepared cause, moves => moves = [.unprepared cause]
  | .waited happenings finish, moves => ∃ during, moves = during ++ [.finish finish] ∧
      List.Forall₂ Happening.SeenAs (happenings.filter (·.isDue c)) during

end Daemon

/-! ## What the world does to the daemon -/

namespace Daemon.Scene

open TimeServer.Log (Record)

variable {c : Config} {s next last : Scene} {past : List Task} {task : Task}

theorem Reaches.move {first : Scene} {moves : List Move}
    (before : Reaches c System.anyMove first moves s) (move : Move)
    (moved : s.step? c move = some next) : Reaches c System.anyMove first (moves ++ [move]) next :=
  before.step move (fun _ _ => trivial) moved

/-- The world takes the daemon on without its doing: its server has acted, what that told is in the
    log, and these are the moves that are to be seen. -/
structure Leads (c : Config) (s next : Scene) (seen : List Move) : Prop where
  path : ∃ moves, Reaches c System.anyMove s moves next ∧ moves.filter Move.isVisible = seen
  stage : next.stage = s.stage
  clock : next.system.server.clock = s.system.server.clock
  runs : s.system.server.runs.length ≤ next.system.server.runs.length
  told : ∃ journal, next.system.server.journal = s.system.server.journal ++ journal ∧
    next.records = s.records ++ (Journal.notices journal).map (.ofNotice s.system.server.clock)

theorem Leads.refl (c : Config) (s : Scene) : Leads c s s [] :=
  ⟨⟨[], .refl, rfl⟩, rfl, rfl, Nat.le_refl _, [], by simp [Journal.notices]⟩

theorem Leads.trans {seen more : List Move} (first : Leads c s next seen)
    (second : Leads c next last more) : Leads c s last (seen ++ more) where
  path := by
    obtain ⟨moves, before, rfl⟩ := first.path
    obtain ⟨later, after, rfl⟩ := second.path
    exact ⟨moves ++ later, before.trans after, List.filter_append ..⟩
  stage := second.stage.trans first.stage
  clock := second.clock.trans first.clock
  runs := Nat.le_trans first.runs second.runs
  told := by
    obtain ⟨journal, grown, logged⟩ := first.told
    obtain ⟨more, grown', logged'⟩ := second.told
    refine ⟨journal ++ more, by rw [grown', grown, List.append_assoc], ?_⟩
    rw [logged', logged, first.clock, Journal.notices_append, List.map_append, List.append_assoc]

theorem leads_of_turn {move : System.Move} {system : System} (turn : move.isTurn)
    (moved : s.system.step? move = some system) :
    Leads c s { s with system, records := s.records ++ told s.system system }
      ([.world move].filter Move.isVisible) where
  path := by
    have outside : move.isCall = false := by
      cases move with
      | start | stop => cases turn
      | _ => rfl
    refine ⟨[.world move], Reaches.refl.move (.world move) ?_, rfl⟩
    simp [step?, happen?, outside, moved]
  stage := rfl
  clock := (System.told_of_turn turn moved).1
  runs := (System.told_of_turn turn moved).2.1
  told := by
    obtain ⟨-, -, journal, grown⟩ := System.told_of_turn turn moved
    refine ⟨journal, grown, ?_⟩
    rw [told, grown, List.drop_left]

theorem leads_settle (s : Scene) : ∃ next, Leads c s next [] ∧
    next.system.server = s.system.server.settle ∧ next.system.calls = s.system.calls := by
  -- By induction on the moves that are allowed; each of them is a turn of the world.
  have moves : ∀ (limit : Nat) (s : Scene), ∃ next, Leads c s next [] ∧
      next.system.server = Server.moveFor limit s.system.server ∧
        next.system.calls = s.system.calls := by
    intro limit
    induction limit with
    | zero => exact fun s => ⟨s, .refl c s, rfl, rfl⟩
    | succ limit ih =>
      intro s
      rw [Server.moveFor]
      cases moved : s.system.server.move? with
      | none => exact ⟨s, .refl c s, rfl, rfl⟩
      | some server =>
        obtain ⟨move, system, thread, came, rfl, calls⟩ := System.turn_of_move? moved
        obtain ⟨turn, hidden⟩ : move.isTurn ∧ [.world move].filter Move.isVisible = [] := by
          cases move <;> simp [System.Move.isThread, System.Move.isTurn, Move.isVisible] at thread ⊢
        have first := leads_of_turn (c := c) turn came
        rw [hidden] at first
        obtain ⟨next, leads, server, calls'⟩ :=
          ih { s with system, records := s.records ++ told s.system system }
        exact ⟨next, first.trans leads, server, calls'.trans calls⟩
  exact moves s.system.server.effort s

theorem leads_carryOut (limit : Nat) (split : s.system.calls = past ++ [task]) :
    ∃ next, Leads c s next [] ∧ next.system.server = (s.system.server.carryOut limit task).2 ∧
      next.system.calls = past ++ [(s.system.server.carryOut limit task).1] := by
  induction limit generalizing s task with
  | zero => exact ⟨s, .refl c s, rfl, split⟩
  | succ limit ih =>
    rw [Server.carryOut]
    cases advanced : s.system.server.advance task with
    | none => exact ⟨s, .refl c s, rfl, split⟩
    | some outcome =>
      obtain ⟨task', server⟩ := outcome
      -- The call makes one step, and the threads come to rest before its next one.
      have stepped : Leads c s _ [] :=
        leads_of_turn rfl (System.step?_of_advance split advanced)
      obtain ⟨rested, leads, settled, calls⟩ := leads_settle (c := c)
        { s with
          system := { s.system with server, calls := past ++ [task'] }
          records := s.records ++
            told s.system { s.system with server, calls := past ++ [task'] } }
      obtain ⟨next, leads', server_eq, calls⟩ := ih calls
      rw [settled] at server_eq calls
      exact ⟨next, (stepped.trans leads).trans leads', server_eq, calls⟩

theorem leads_fetch (s : Scene) (source : Option IpAddress) (present : s.system.server.runs ≠ []) :
    ∃ next move, Leads c s next [move] ∧ (Happening.client source).SeenAs move ∧
      next.system.server = (s.system.server.perform (.fetch source)).2 ∧
        next.system.calls = s.system.calls := by
  obtain ⟨came, move, leads, seen, server, calls⟩ : ∃ next move, Leads c s next [move] ∧
      (Happening.client source).SeenAs move ∧
        next.system.server = (s.system.server.connect source).2 ∧
          next.system.calls = s.system.calls := by
    unfold Server.connect
    split
    · rename_i none_there
      exact absurd (List.getLast?_eq_none_iff.1 none_there) present
    · rename_i run _
      let target := (Server.route run.address source).1
      let origin : SocketAddress :=
        ⟨(Server.route run.address source).2, s.system.server.network.takePort.1⟩
      -- A source port is chosen first, and then the connection is made.
      have chosen : Leads c s _ [] := leads_of_turn rfl
        (rfl : s.system.step? (.nextPort s.system.server.network.takePort.2.nextPort) = some _)
      have made := chosen.trans (leads_of_turn rfl
        (rfl : System.step? _ (.arrive origin target {}) = some _))
      refine ⟨_, _, made, ?_, rfl, rfl⟩
      rintro ip ⟨⟩
      rfl
  obtain ⟨next, settles, settled, calls'⟩ := leads_settle (c := c) came
  refine ⟨next, move, leads.trans settles, seen, ?_, calls'.trans calls⟩
  rw [settled, server]
  rfl

/-! ## The run -/

/-- The daemon stands as the one that is left alone. -/
structure Shows (s : Scene) (state : State) : Prop where
  server : s.system.server = state.server
  records : s.records = state.records

theorem Shows.act {α : Type} {state : State} {action : Server → α × Server} {seen : List Move}
    (shows : s.Shows state) (leads : Leads c s next seen)
    (acted : next.system.server = (action s.system.server).2) :
    next.Shows (state.act action).2 := by
  obtain ⟨journal, grown, logged⟩ := leads.told
  rw [shows.server] at acted grown logged
  refine ⟨acted, ?_⟩
  show next.records = state.records ++ (Journal.notices
    ((action state.server).2.journal.drop state.server.journal.length)).map _
  rw [← acted, grown, List.drop_left, logged, shows.records]

theorem Shows.log {state : State} (shows : s.Shows state) (record : Record) :
    (s.log record).Shows (state.log record) where
  server := shows.server
  records := congrArg (· ++ [record]) shows.records

theorem Shows.report {state : State} (shows : s.Shows state) : s.report.Shows state.report := by
  rw [Scene.report, State.report, shows.server]
  exact shows.log _

/-- The daemon stands between two calls, and everything around it rests. -/
structure Rests (s : Scene) (state : State) : Prop where
  shows : s.Shows state
  ended : ∀ other ∈ s.system.calls, other.isOver
  resting : state.server.Resting

theorem Rests.log {state : State} (rests : s.Rests state) (record : Record) :
    (s.log record).Rests (state.log record) :=
  ⟨rests.shows.log record, rests.ended, rests.resting⟩

theorem Rests.report {state : State} (rests : s.Rests state) : s.report.Rests state.report :=
  ⟨rests.shows.report, rests.ended, rests.resting⟩

theorem Rests.stage {state : State} (rests : s.Rests state) (stage : Stage) :
    Rests { s with stage } state :=
  ⟨⟨rests.shows.server, rests.shows.records⟩, rests.ended, rests.resting⟩

/-- The daemon comes to rest again while it waits, with these moves to be seen. -/
def Waits (c : Config) (s : Scene) (state : State) (seen : List Move) : Prop :=
  ∃ moves next, Reaches c System.anyMove s moves next ∧ moves.filter Move.isVisible = seen ∧
    next.stage = .waiting ∧ next.Rests state ∧ state.server.runs ≠ []

theorem Rests.happen {state : State} (rests : s.Rests state) (waiting : s.stage = .waiting)
    (present : state.server.runs ≠ []) (happening : Happening) :
    ∃ seen, Waits c s (happen c state happening).2 seen ∧
      List.Forall₂ Happening.SeenAs ([happening].filter (·.isDue c)) seen := by
  cases happening with
  | report =>
    cases usual : c.statsInterval.isSome with
    | true =>
      refine ⟨[.report], ⟨[.report], s.report, Reaches.refl.move .report ?_, rfl, waiting, ?_⟩, ?_⟩
      · simp [step?, waiting, usual]
      · rw [Daemon.happen, if_pos usual]
        exact ⟨rests.report, present⟩
      · simp [Happening.isDue, usual, Happening.SeenAs]
    | false =>
      refine ⟨[], ⟨[], s, .refl, rfl, waiting, ?_⟩, ?_⟩
      · rw [Daemon.happen, usual]
        exact ⟨rests, present⟩
      · simp [Happening.isDue, usual]
  | client source =>
    obtain ⟨next, move, leads, seen, server, calls⟩ :=
      leads_fetch (c := c) s source (rests.shows.server ▸ present)
    obtain ⟨moves, reached, visible⟩ := leads.path
    have same : (Daemon.happen c state (.client source)).2 =
        (state.act fun server => server.perform (.fetch source)).2 := by
      rw [Daemon.happen]
      split <;> simp [*]
    have shows : next.Shows (state.act fun server => server.perform (.fetch source)).2 :=
      rests.shows.act leads server
    refine ⟨[move], ⟨moves, next, reached, visible, leads.stage.trans waiting, ?_⟩,
      .cons seen .nil⟩
    rw [same]
    refine ⟨⟨shows, calls ▸ rests.ended, Server.resting_of_perform rests.resting
      (rfl : (Server.Action.fetch source).isUsual = _)⟩, fun none_there => ?_⟩
    have grown := leads.runs
    rw [shows.server, none_there, rests.shows.server] at grown
    exact present (List.length_eq_zero_iff.1 (Nat.le_zero.1 grown))

theorem Rests.happenAll {state : State} (rests : s.Rests state) (waiting : s.stage = .waiting)
    (present : state.server.runs ≠ []) (happenings : List Happening) :
    ∃ seen, Waits c s (happenAll c state happenings).2 seen ∧
      List.Forall₂ Happening.SeenAs (happenings.filter (·.isDue c)) seen := by
  induction happenings generalizing s state with
  | nil => exact ⟨[], ⟨[], s, .refl, rfl, waiting, rests, present⟩, .nil⟩
  | cons happening happenings ih =>
    obtain ⟨first, ⟨moves, middle, before, rfl, waiting, rests, present⟩, shown⟩ :=
      rests.happen (c := c) waiting present happening
    obtain ⟨then_seen, ⟨more, next, after, rfl, waits⟩, shown'⟩ := ih rests waiting present
    refine ⟨_, ⟨moves ++ more, next, before.trans after, List.filter_append .., waits⟩, ?_⟩
    rw [← List.singleton_append, List.filter_append]
    exact List.rel_append shown shown'

theorem Rests.stop {state : State} (rests : s.Rests state) (stage : Stage) :
    ∃ next, Leads c (s.halt stage) next [] ∧ next.Rests state.stop ∧
      next.task? = some .stopped := by
  obtain ⟨carried, _⟩ := Server.carryOut_halting rests.resting.alone
  obtain ⟨next, leads, server, calls⟩ := leads_carryOut (c := c) s.system.server.taskSteps
    (rfl : (s.halt stage).system.calls = _)
  have shows : (s.halt stage).Shows state := ⟨rests.shows.server, rests.shows.records⟩
  have stopped : (s.halt stage).system.server.carryOut s.system.server.taskSteps .halting =
      (.stopped, s.system.server.stop) := by
    rw [← rests.shows.server] at carried
    exact carried
  rw [stopped] at server calls
  have acted : next.Shows state.stop := shows.act leads server
  refine ⟨next, leads, ⟨acted, ?_, Server.resting_of_stop rests.resting.alone⟩, task?_eq calls⟩
  rw [calls]
  intro other member
  obtain member | member := List.mem_append.1 member
  · exact rests.ended other member
  · rw [List.mem_singleton.1 member]
    rfl

/-- From here the daemon can come to its end, with this result, stand then as the one that is left
    alone, and these are the moves that are to be seen. -/
def Returns (c : Config) (s : Scene) (result : Except DaemonError Unit) (state : State)
    (seen : List Move) : Prop :=
  ∃ moves next, Reaches c System.anyMove s moves next ∧ moves.filter Move.isVisible = seen ∧
    next.stage = .returned result ∧ next.Shows state

theorem Returns.after {first : Scene} {moves seen : List Move} {result : Except DaemonError Unit}
    {state : State} (returns : Returns c s result state seen)
    (before : Reaches c System.anyMove first moves s) :
    Returns c first result state (moves.filter Move.isVisible ++ seen) := by
  obtain ⟨more, next, after, rfl, returned, shows⟩ := returns
  exact ⟨moves ++ more, next, before.trans after, List.filter_append .., returned, shows⟩

theorem Rests.leave {state : State} (rests : s.Rests state) (result : Except DaemonError Unit) :
    Returns c (s.halt (.leaving result)) result state.stop [] := by
  obtain ⟨last, leads, rests, ended⟩ := rests.stop (c := c) (.leaving result)
  obtain ⟨moves, reached, hidden⟩ := leads.path
  have stage : last.stage = .leaving result := leads.stage
  refine ⟨moves ++ [.proceed], { last with stage := .returned result },
    reached.move .proceed ?_, ?_, rfl, rests.shows.server, rests.shows.records⟩
  · simp [step?, proceed?, stage, ended]
  · rw [List.filter_append, hidden]
    rfl

theorem Rests.refused {state : State} (rests : s.Rests state) (starting : s.stage = .starting)
    {error : ServerError} (ended : s.task? = some (.started (.error error))) :
    Returns c s (.error (.server error)) state.stop [] := by
  have refused : s.step? c .proceed = some (s.halt (.leaving (.error (.server error)))) := by
    simp [step?, proceed?, starting, ended]
  exact (rests.leave _).after (Reaches.refl.move _ refused)

theorem Rests.unprepared {state : State} (rests : s.Rests state) (preparing : s.stage = .preparing)
    (cause : IoError) :
    Returns c s (.error (.runtime cause)) state.stop [.unprepared cause] := by
  have failed : s.step? c (.unprepared cause) =
      some (s.halt (.leaving (.error (.runtime cause)))) := by
    simp [step?, preparing]
  exact (rests.leave _).after (Reaches.refl.move _ failed)

theorem Rests.finish {state : State} (rests : s.Rests state) (waiting : s.stage = .waiting)
    (finish : Except IoError Signal) :
    Returns c s (verdict finish) (conclude state finish) [.finish finish] := by
  have comes : s.step? c (.finish finish) =
      some ((s.log (finishRecord s.system.server.clock finish)).halt (.stopping finish)) := by
    simp [step?, waiting]
  rw [conclude, ← rests.shows.server]
  have rests := rests.log (finishRecord s.system.server.clock finish)
  generalize state.log (finishRecord s.system.server.clock finish) = state at rests
  obtain ⟨last, leads, stopped, ended⟩ := rests.stop (c := c) (.stopping finish)
  obtain ⟨moves, stops, hidden⟩ := leads.path
  have stage : last.stage = .stopping finish := leads.stage
  have reports : last.step? c .proceed = some (last.report.halt (.leaving (verdict finish))) := by
    simp [step?, proceed?, stage, ended]
  -- The server that is given up was stopped before.
  have given_up : state.stop.report.stop = state.stop.report := by
    have still := Server.stop_of_stopped stopped.resting
      (Server.carryOut_halting rests.resting.alone).2
    simp only [State.stop, State.act, State.report, State.log] at still ⊢
    rw [still, List.drop_length]
    simp [Journal.notices]
  rw [← given_up]
  have returns := (stopped.report.leave (c := c) (verdict finish)).after
    (((Reaches.refl.move _ comes).trans stops).move .proceed reports)
  rw [List.filter_append, List.filter_append, hidden] at returns
  exact returns

theorem Rests.wait {state : State} (rests : s.Rests state) (preparing : s.stage = .preparing)
    (present : state.server.runs ≠ []) (happenings : List Happening)
    (finish : Except IoError Signal) :
    ∃ seen, Returns c s (verdict finish) (conclude (Daemon.happenAll c state happenings).2 finish)
      seen ∧ (Course.waited happenings finish).SeenAs c seen := by
  have waits : s.step? c .proceed = some { s with stage := .waiting } := by
    simp [step?, proceed?, preparing]
  obtain ⟨seen, ⟨moves, last, passes, rfl, waiting, rests, _⟩, shown⟩ :=
    (rests.stage .waiting).happenAll (c := c) rfl present happenings
  exact ⟨_, (rests.finish waiting finish).after ((Reaches.refl.move .proceed waits).trans passes),
    _, rfl, shown⟩

theorem reaches_launch {network : Network} {clock : Clock} (sound : network.Sound)
    (faults : ∀ f ∈ network.faults, f.call.isForStart) :
    ∃ moves begun, Reaches c System.anyMove (ofConfig c network clock) moves begun ∧
      moves.filter Move.isVisible = [] ∧ begun.Rests (launch c network clock).2 ∧
      (∀ error, (launch c network clock).1 = .error error →
        begun.stage = .starting ∧ begun.task? = some (.started (.error error))) ∧
      ((launch c network clock).1 = .ok () →
        begun.stage = .preparing ∧ (launch c network clock).2.server.runs ≠ []) := by
  have resting := Server.resting_ofSettings c.settings clock sound faults
  have entering : (ofConfig c network clock).system.calls = [] ++ [.entering] := rfl
  obtain ⟨begun, leads, server, calls⟩ :=
    leads_carryOut (c := c) (Server.ofSettings c.settings network clock).taskSteps entering
  have carried : (ofConfig c network clock).system.server.carryOut
      (Server.ofSettings c.settings network clock).taskSteps .entering = _ :=
    Server.carryOut_entering resting.alone
  rw [carried] at server calls
  obtain ⟨moves, reached, hidden⟩ := leads.path
  have shows : begun.Shows
      (State.act { server := .ofSettings c.settings network clock } Server.start).2 :=
    Shows.act ⟨rfl, rfl⟩ leads server
  have rests : begun.Rests
      (State.act { server := .ofSettings c.settings network clock } Server.start).2 := by
    refine ⟨shows, ?_, Server.resting_of_start resting.alone⟩
    rw [calls]
    intro other member
    rw [List.mem_singleton.1 member]
    rfl
  have last : begun.task? =
      some (.started (Server.ofSettings c.settings network clock).start.1) := task?_eq calls
  rcases begins : (Server.ofSettings c.settings network clock).start with ⟨error | address, server⟩
  · have refused : launch c network clock = (.error error,
        (State.act { server := .ofSettings c.settings network clock } Server.start).2) := by
      simp [launch, State.act, begins]
    rw [begins] at last
    refine ⟨moves, begun, reached, hidden, ?_, ?_, ?_⟩ <;> rw [refused]
    · exact rests
    · rintro _ ⟨⟩
      exact ⟨leads.stage, last⟩
    · intro ok
      cases ok
  · have started : launch c network clock = (.ok (),
        (State.act { server := .ofSettings c.settings network clock } Server.start).2.log
          (startRecord c clock address)) := by
      simp [launch, State.act, begins]
    rw [begins] at last
    have goes_on : begun.step? c .proceed = some
        { begun.log (startRecord c clock address) with stage := .preparing } := by
      simp [step?, proceed?, leads.stage, last, leads.clock, ofConfig, Server.ofSettings]
    refine ⟨moves ++ [.proceed], _, reached.move .proceed goes_on, ?_, ?_, ?_, ?_⟩
    · rw [List.filter_append, hidden]
      rfl
    · rw [started]
      exact (rests.log _).stage .preparing
    · rw [started]
      intro error ok
      cases ok
    · rw [started]
      refine fun _ => ⟨rfl, fun none_there => ?_⟩
      -- A server that has started has a run in its slot.
      have serves := Server.serves_of_start resting.alone rfl begins
      obtain ⟨run, member, _⟩ := serves.listens
      have none_there : server.runs = [] := by
        simpa [State.log, State.act, begins] using none_there
      rw [none_there] at member
      cases member

/-- The run of a daemon is one of the ways in which it gets on among its clients, it shows its
    course, and it comes to its end. -/
theorem reaches_run {network : Network} {clock : Clock} (sound : network.Sound)
    (faults : ∀ f ∈ network.faults, f.call.isForStart) (course : Course) :
    ∃ seen, Returns c (ofConfig c network clock) (run c network clock course).result
      (run c network clock course).state seen ∧
        (∀ error, (launch c network clock).1 = .error error → seen = []) ∧
        ((launch c network clock).1 = .ok () → course.SeenAs c seen) := by
  obtain ⟨moves, begun, reached, hidden, rests, refused, started⟩ :=
    @reaches_launch c network clock sound faults
  rcases launched : launch c network clock with ⟨error | ⟨⟩, state⟩
  · rw [launched] at rests refused
    obtain ⟨starting, last⟩ := refused error rfl
    have returns := (rests.refused starting last).after reached
    rw [hidden, List.append_nil] at returns
    refine ⟨[], ?_, fun _ _ => rfl, fun ok => ?_⟩
    · simpa only [run, launched] using returns
    · cases ok
  · rw [launched] at rests started
    obtain ⟨preparing, present⟩ := started rfl
    cases course with
    | unprepared cause =>
      have returns := (rests.unprepared preparing cause).after reached
      rw [hidden, List.nil_append] at returns
      refine ⟨[.unprepared cause], ?_, fun error failed => ?_, fun _ => rfl⟩
      · simpa only [run, launched] using returns
      · cases failed
    | waited happenings finish =>
      obtain ⟨seen, returns, shown⟩ := rests.wait (c := c) preparing present happenings finish
      have returns := returns.after reached
      rw [hidden, List.nil_append] at returns
      refine ⟨seen, ?_, fun error failed => ?_, fun _ => shown⟩
      · simpa only [run, launched] using returns
      · cases failed

end Daemon.Scene

end TimeServer
