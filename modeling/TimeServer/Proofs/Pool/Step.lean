import TimeServer.Pool.Session
import TimeServer.Proofs.Connection.Release
import Mathlib.Data.List.Basic
import Mathlib.Data.List.Perm.Basic

/-! # What the moves in a pool do

* `Pool.Step` — the moves as a relation, one case for each kind, and `step_of_act?`, which says that
  there are no others;
* `Step.perm_numbers` — a move loses no connection and makes none;
* `Step.gauge`, `Step.record_gauge` — a move finishes one connection or none, and counts as much;
* `Step.perm_waiting` — the connections that wait are answered one at a time;
* `Pool.Sound` — the queue keeps to its capacity and workers end only when they may.
-/

namespace TimeServer

theorem split_at_place {α : Type} {list : List α} {place : Nat} {x : α}
    (found : list[place]? = some x) :
    ∃ before after, list = before ++ x :: after ∧ place = before.length := by
  obtain ⟨bound, rfl⟩ := List.getElem?_eq_some_iff.1 found
  refine ⟨list.take place, list.drop (place + 1), ?_, ?_⟩
  · rw [← List.drop_eq_getElem_cons bound, List.take_append_drop]
  · rw [List.length_take, Nat.min_eq_left (Nat.le_of_lt bound)]

namespace Pool

/-- The number of every connection in the pool. -/
def numbers (pool : Pool) : List Nat := (pool.unfinished ++ pool.finished).map Ticket.number

/-- The moves in a pool: the action, what it does to the shared state, and the pool after it. -/
inductive Step (clock : Clock) (pool : Pool) : Action → Journal → Pool → Prop
  /-- A waiting connection enters the queue. -/
  | enqueue {before after : List Ticket} {ticket : Ticket}
      (at_place : pool.waiting = before ++ ticket :: after) (isOpen : pool.isOpen)
      (room : pool.queue.length < pool.capacity) :
      Step clock pool (.enqueue before.length) []
        { pool with waiting := before ++ after, queue := pool.queue ++ [ticket] }
  /-- A waiting connection is handed back and closed. -/
  | refuse {before after : List Ticket} {ticket : Ticket}
      (at_place : pool.waiting = before ++ ticket :: after) (shut : pool.isOpen = false) :
      Step clock pool (.refuse before.length)
        (ticket.connection.close.journal ++ [.count .finished])
        { pool with
          waiting := before ++ after
          finished :=
            pool.finished ++ [{ ticket with connection := ticket.connection.close.connection }] }
  /-- A worker takes the oldest connection of the queue. -/
  | take {before after : List Worker} {ticket : Ticket} {queue : List Ticket}
      (at_work : pool.workers = before ++ .idle :: after) (first : pool.queue = ticket :: queue) :
      Step clock pool (.work before.length) []
        { pool with queue, workers := before ++ .took ticket :: after }
  /-- A worker ends, because nothing will come any more. -/
  | exit {before after : List Worker} (at_work : pool.workers = before ++ .idle :: after)
      (empty : pool.queue = []) (shut : pool.isOpen = false) :
      Step clock pool (.work before.length) [.note (.workerExiting before.length)]
        { pool with workers := before ++ .exited :: after }
  /-- A worker serves its connection. -/
  | serve {before after : List Worker} {ticket : Ticket}
      (at_work : pool.workers = before ++ .took ticket :: after) :
      Step clock pool (.work before.length) (ticket.connection.serve clock).journal
        { pool with
          workers := before ++ .served
            { ticket with connection := (ticket.connection.serve clock).connection }
            (isPanic (ticket.connection.serve clock).result) :: after }
  /-- A worker closes its connection. -/
  | close {before after : List Worker} {ticket : Ticket} {broken : Bool} (alarm : List Notice)
      (at_work : pool.workers = before ++ .served ticket broken :: after) :
      Step clock pool (.work before.length) (alarm.map .note ++ ticket.connection.close.journal)
        { pool with
          workers := before ++ .closed
            { ticket with connection := ticket.connection.close.connection } :: after }
  /-- A worker counts its connection as finished and is idle again. -/
  | finish {before after : List Worker} {ticket : Ticket}
      (at_work : pool.workers = before ++ .closed ticket :: after) :
      Step clock pool (.work before.length) [.count .finished]
        { pool with
          finished := pool.finished ++ [ticket], workers := before ++ .idle :: after }

section Steps

variable {clock : Clock} {pool next : Pool} {action : Action} {journal : Journal}

/-! ## Every move is a step -/

theorem step_of_act? (moved : pool.act? clock action = some (next, journal)) :
    Step clock pool action journal next := by
  cases action with
  | enqueue place =>
    simp only [act?, Option.bind_eq_bind, Option.bind_eq_some_iff] at moved
    obtain ⟨ticket, found, moved⟩ := moved
    obtain ⟨before, after, split, rfl⟩ := split_at_place found
    split at moved
    · rename_i possible
      cases moved
      have step : Step clock pool _ _ _ := .enqueue split possible.1 possible.2
      simpa [split, List.eraseIdx_append_of_length_le] using step
    · cases moved
  | refuse place =>
    simp only [act?, Option.bind_eq_bind, Option.bind_eq_some_iff] at moved
    obtain ⟨ticket, found, moved⟩ := moved
    obtain ⟨before, after, split, rfl⟩ := split_at_place found
    split at moved
    · cases moved
    · rename_i shut
      cases moved
      have step : Step clock pool _ _ _ := .refuse split (by simpa using shut)
      simpa [split, List.eraseIdx_append_of_length_le] using step
  | work id =>
    simp only [act?, Option.bind_eq_bind, Option.bind_eq_some_iff] at moved
    obtain ⟨worker, found, moved⟩ := moved
    obtain ⟨before, after, split, rfl⟩ := split_at_place found
    cases worker with
    | idle =>
      cases queue : pool.queue with
      | cons ticket rest =>
        simp only [work?, queue] at moved
        cases moved
        have step : Step clock pool _ _ _ := .take split queue
        simpa [setWorker, split] using step
      | nil =>
        simp only [work?, queue] at moved
        split at moved
        · cases moved
        · rename_i shut
          cases moved
          have step : Step clock pool _ _ _ := .exit split queue (by simpa using shut)
          simpa [setWorker, split, queue] using step
    | took ticket =>
      cases moved
      have step : Step clock pool _ _ _ := .serve split
      simpa [setWorker, split] using step
    | served ticket broken =>
      cases moved
      cases broken with
      | true =>
        have step : Step clock pool _ _ _ :=
          .close [.recovered before.length ticket.connection.client] split
        simpa [setWorker, split] using step
      | false =>
        have step : Step clock pool _ _ _ := .close [] split
        simpa [setWorker, split] using step
    | closed ticket =>
      cases moved
      have step : Step clock pool _ _ _ := .finish split
      simpa [setWorker, split] using step
    | exited => cases moved

/-! ## Conservation -/

theorem Step.perm_numbers (step : Step clock pool action journal next) :
    next.numbers.Perm pool.numbers := by
  -- Counting turns the moves between the lists into arithmetic.
  rw [List.perm_iff_count]
  intro number
  cases step with
  | enqueue at_place _ _ | refuse at_place _ =>
    simp only [numbers, unfinished, held, at_place, List.map_append, List.map_cons, List.map_nil,
      List.count_append, List.count_cons, List.count_nil]
    omega
  | take at_work first =>
    simp only [numbers, unfinished, held, at_work, first, List.filterMap_append,
      List.filterMap_cons, Worker.ticket?, List.map_append, List.map_cons, List.count_append,
      List.count_cons]
    omega
  | exit at_work _ _ | serve at_work | close _ at_work =>
    simp only [numbers, unfinished, held, at_work, List.filterMap_append, List.filterMap_cons,
      Worker.ticket?, List.map_append, List.map_cons, List.count_append, List.count_cons]
  | finish at_work =>
    simp only [numbers, unfinished, held, at_work, List.filterMap_append, List.filterMap_cons,
      Worker.ticket?, List.map_append, List.map_cons, List.map_nil, List.count_append,
      List.count_cons, List.count_nil]
    omega

/-- A move finishes no connection and counts none as finished, or it finishes one and counts it. -/
theorem Step.gauge (step : Step clock pool action journal next) :
    (Journal.Quiet journal ∧ next.unfinished.length = pool.unfinished.length) ∨
      ∃ quiet, Journal.Quiet quiet ∧ journal = quiet ++ [.count .finished] ∧
        next.unfinished.length + 1 = pool.unfinished.length := by
  have quiet_nil : Journal.Quiet [] := by simp [Journal.Quiet]
  cases step with
  | enqueue at_place _ _ =>
    refine .inl ⟨quiet_nil, ?_⟩
    simp only [unfinished, held, at_place, List.length_append, List.length_cons, List.length_nil]
    omega
  | @refuse before after ticket at_place _ =>
    refine .inr ⟨_, Connection.quiet_close ticket.connection, rfl, ?_⟩
    simp only [unfinished, held, at_place, List.length_append, List.length_cons]
    omega
  | take at_work first =>
    refine .inl ⟨quiet_nil, ?_⟩
    simp only [unfinished, held, at_work, first, List.filterMap_append, List.filterMap_cons,
      Worker.ticket?, List.length_append, List.length_cons]
    omega
  | exit at_work _ _ =>
    refine .inl ⟨by simp [Journal.Quiet], ?_⟩
    simp [unfinished, held, at_work, List.filterMap_cons, Worker.ticket?]
  | @serve before after ticket at_work =>
    refine .inl ⟨Connection.quiet_serve ticket.connection clock, ?_⟩
    simp [unfinished, held, at_work, Worker.ticket?]
  | @close before after ticket broken alarm at_work =>
    refine .inl ⟨(Journal.quiet_notes alarm).append (Connection.quiet_close _), ?_⟩
    simp [unfinished, held, at_work, Worker.ticket?]
  | finish at_work =>
    refine .inr ⟨[], quiet_nil, rfl, ?_⟩
    simp only [unfinished, held, at_work, List.filterMap_append, List.filterMap_cons,
      Worker.ticket?, List.length_append, List.length_cons]
    omega

theorem Step.length_unfinished_le (step : Step clock pool action journal next) :
    next.unfinished.length ≤ pool.unfinished.length := by
  rcases step.gauge with ⟨_, same⟩ | ⟨_, _, _, fewer⟩ <;> omega

/-- A gauge that showed the unfinished connections of the pool, and some others, shows them after
    the move. -/
theorem Step.record_gauge (step : Step clock pool action journal next) (stats : Stats) :
    (stats.record journal).total = stats.total ∧ ∀ others,
      stats.active.toNat = others + pool.unfinished.length →
        (stats.record journal).active.toNat = others + next.unfinished.length := by
  obtain ⟨quiet, same⟩ | ⟨calm, quiet, rfl, fewer⟩ := step.gauge
  · obtain ⟨active, total⟩ := stats.record_eq_of_quiet quiet
    rw [active, total, same]
    exact ⟨rfl, fun _ => id⟩
  · -- The gauge is above zero here: the connection that is finished is in it.
    obtain ⟨active, total⟩ := stats.record_eq_of_quiet quiet
    rw [Stats.record_append, Stats.record_count, Stats.record_nil]
    refine ⟨total, fun others shown => ?_⟩
    rw [← active] at shown
    have finished := Stats.active_count_finished (stats.record calm) (by omega)
    omega

/-- The connections that wait are answered one at a time, by an admission or a refusal. -/
theorem Step.perm_waiting (step : Step clock pool action journal next) :
    ((next.waiting.map Ticket.number) ++ (pool.admits? action).toList ++
      (pool.refuses? action).toList).Perm (pool.waiting.map Ticket.number) := by
  rw [List.perm_iff_count]
  intro number
  cases step with
  | enqueue at_place _ _ | refuse at_place _ =>
    simp only [admits?, refuses?, at_place, List.getElem?_append_right (Nat.le_refl _),
      Nat.sub_self, List.getElem?_cons_zero, Option.map_some, Option.toList_some,
      Option.toList_none, List.map_append, List.map_cons, List.count_append, List.count_cons,
      List.count_nil]
    omega
  | take | exit | serve | close | finish => simp [admits?, refuses?]

theorem mem_waiting_of_refuses {number : Nat} (refuses : pool.refuses? action = some number) :
    ∃ ticket ∈ pool.waiting, ticket.number = number := by
  cases action with
  | refuse place =>
    obtain ⟨ticket, found, same⟩ := Option.map_eq_some_iff.1 refuses
    exact ⟨ticket, List.mem_of_getElem? found, same⟩
  | enqueue _ | work _ => cases refuses

theorem Step.refuses?_of_open (step : Step clock pool action journal next)
    (isOpen : pool.isOpen) : pool.refuses? action = none := by
  cases step with
  | refuse _ shut => simp [shut] at isOpen
  | enqueue | take | exit | serve | close | finish => rfl

theorem Step.of_shut (step : Step clock pool action journal next) (shut : pool.isOpen = false) :
    pool.admits? action = none ∧ next.queue.length ≤ pool.queue.length := by
  cases step with
  | enqueue _ isOpen _ => simp [shut] at isOpen
  | take _ first => exact ⟨rfl, by simp [first]⟩
  | refuse | exit | serve | close | finish => exact ⟨rfl, Nat.le_refl _⟩

theorem Step.waiting_subset (step : Step clock pool action journal next) :
    next.waiting ⊆ pool.waiting := by
  cases step with
  | enqueue at_place _ _ | refuse at_place _ =>
    intro other member
    rw [at_place]
    exact ((List.sublist_cons_self _ _).append_left _).subset member
  | take | exit | serve | close | finish => exact List.Subset.refl _

theorem Step.length_workers (step : Step clock pool action journal next) :
    next.workers.length = pool.workers.length := by
  cases step with
  | enqueue | refuse => rfl
  | take at_work _ | exit at_work _ _ | serve at_work | close _ at_work | finish at_work =>
    simp [at_work]

/-! ## Soundness -/

/-- The queue keeps to its capacity, and a worker ends only if nothing is queued and nothing will
    be. -/
structure Sound (pool : Pool) : Prop where
  bounded : pool.queue.length ≤ pool.capacity
  drained : .exited ∈ pool.workers → pool.isOpen = false ∧ pool.queue = []

theorem Step.sound (step : Step clock pool action journal next) (sound : pool.Sound) :
    next.Sound := by
  obtain ⟨bounded, drained⟩ := sound
  cases step with
  | @enqueue before after ticket _ isOpen room =>
    refine ⟨?_, fun exited => ?_⟩
    · rw [List.length_append]
      exact room
    · exact absurd isOpen (by simp [(drained exited).1])
  | refuse _ _ => exact ⟨bounded, drained⟩
  | take at_work first =>
    refine ⟨?_, fun exited => ?_⟩
    · rw [first] at bounded
      exact Nat.le_of_succ_le bounded
    · -- With a connection in the queue no worker had ended.
      have before : .exited ∈ pool.workers := by simpa [at_work] using exited
      exact absurd (drained before).2 (by simp [first])
  | exit _ empty shut => exact ⟨bounded, fun _ => ⟨shut, empty⟩⟩
  | serve at_work | close _ at_work | finish at_work =>
    refine ⟨bounded, fun exited => drained ?_⟩
    simpa [at_work] using exited

@[simp] theorem Step.capacity_eq (step : Step clock pool action journal next) :
    next.capacity = pool.capacity := by
  cases step <;> rfl

theorem Step.feeds_eq (step : Step clock pool action journal next) :
    next.feeds = pool.feeds := by
  cases step <;> rfl

@[simp] theorem Step.isOpen_eq (step : Step clock pool action journal next) :
    next.isOpen = pool.isOpen := by
  cases step <;> rfl

theorem held_of_isDone (done : pool.isDone) : pool.held = [] := by
  simp only [isDone, List.all_eq_true, beq_iff_eq] at done
  rw [held, List.filterMap_eq_nil_iff]
  intro worker member
  rw [done worker member]
  rfl

/-- A pool whose workers have ended is what it was when it has been waited for. -/
theorem unfinished_join (done : pool.isDone) : pool.join.unfinished = pool.unfinished := by
  simp only [unfinished, held_of_isDone done]
  rfl

end Steps

end Pool

end TimeServer
