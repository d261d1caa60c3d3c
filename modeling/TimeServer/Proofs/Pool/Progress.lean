import TimeServer.Proofs.Pool.Step

/-! # Progress in the pool

The actors of a pool get on until nothing is left to do.

* `Step.effort_lt` — every move uses up some of the effort that is left;
* `of_next?_eq_none` — where the actors stand when none can move;
* `isDone_of_shut`, `idle_of_open` — a pool at rest has ended if nothing feeds it, and is empty
  otherwise.
-/

namespace TimeServer

namespace Pool

variable {clock : Clock} {pool next : Pool} {action : Action} {journal : Journal}

theorem effort_eq_sum (pool : Pool) :
    pool.effort = 6 * pool.waiting.length + 5 * pool.queue.length +
      (pool.workers.map Worker.effort).sum := rfl

theorem Step.effort_lt (step : Step clock pool action journal next) :
    next.effort < pool.effort := by
  cases step with
  | enqueue at_place _ _ | refuse at_place _ =>
    simp only [effort_eq_sum, at_place, List.length_append, List.length_cons, List.length_nil]
    omega
  | take at_work first =>
    simp only [effort_eq_sum, at_work, first, List.map_append, List.map_cons, List.sum_append,
      List.sum_cons, List.length_cons, Worker.effort]
    omega
  | exit at_work _ _ | serve at_work | close _ at_work | finish at_work =>
    simp only [effort_eq_sum, at_work, List.map_append, List.map_cons, List.sum_append,
      List.sum_cons, Worker.effort]
    omega

theorem step_of_next? (moved : pool.next? clock = some (next, journal)) :
    ∃ action, Step clock pool action journal next := by
  obtain ⟨action, _, possible⟩ := List.exists_of_findSome?_eq_some moved
  exact ⟨action, step_of_act? possible⟩

/-- When no actor can move, a connection waits only if the queue is full, and a worker that has not
    ended waits for connections to come. -/
theorem of_next?_eq_none (rest : pool.next? clock = none) :
    (pool.waiting = [] ∨ pool.isOpen ∧ pool.capacity ≤ pool.queue.length) ∧
      ∀ worker ∈ pool.workers, worker = .exited ∨
        worker = .idle ∧ pool.queue = [] ∧ pool.isOpen := by
  have stuck : ∀ action ∈ pool.agenda, pool.act? clock action = none :=
    List.findSome?_eq_none_iff.1 rest
  -- Every actor has a move on the agenda, and none of these moves is possible.
  constructor
  · cases waiting : pool.waiting with
    | nil => exact .inl rfl
    | cons ticket waiting_rest =>
      have enqueue := stuck (.enqueue 0) (by simp [agenda])
      have refuse := stuck (.refuse 0) (by simp [agenda])
      simp only [act?, waiting, List.getElem?_cons_zero, Option.bind_eq_bind, Option.bind_some,
        ite_eq_right_iff, ite_eq_left_iff, reduceCtorEq, imp_false, not_and, Nat.not_lt,
        not_not] at enqueue refuse
      exact .inr ⟨refuse, enqueue refuse⟩
  · intro worker member
    obtain ⟨id, bound, found⟩ := List.getElem_of_mem member
    have idle := stuck (.work id) (by simp [agenda, bound])
    simp only [act?, List.getElem?_eq_getElem bound, found, Option.bind_eq_bind,
      Option.bind_some] at idle
    cases worker with
    | idle =>
      cases queue : pool.queue with
      | nil => simpa [work?, queue] using idle
      | cons ticket rest => simp [work?, queue] at idle
    | took _ | served _ _ | closed _ => simp [work?] at idle
    | exited => exact .inl rfl

/-- A pool where nobody waits and every worker that is left waits for connections is at rest. -/
theorem next?_of_idle (clock : Clock) (waiting : pool.waiting = []) (queue : pool.queue = [])
    (idle : ∀ worker ∈ pool.workers, worker = .idle ∧ pool.isOpen) : pool.next? clock = none := by
  rw [next?, List.findSome?_eq_none_iff]
  intro action member
  obtain rfl | member := List.mem_cons.1 member
  · simp [act?, waiting]
  obtain rfl | member := List.mem_cons.1 member
  · simp [act?, waiting]
  obtain ⟨id, bound, rfl⟩ := List.mem_map.1 member
  rw [List.mem_range] at bound
  obtain ⟨is_idle, isOpen⟩ := idle _ (List.getElem_mem bound)
  simp [act?, bound, is_idle, work?, queue, isOpen]

theorem isDone_of_shut (rest : pool.next? clock = none) (shut : pool.isOpen = false) :
    pool.isDone ∧ pool.waiting = [] := by
  obtain ⟨waiting, workers⟩ := of_next?_eq_none rest
  constructor
  · simp only [isDone, List.all_eq_true, beq_iff_eq]
    intro worker member
    obtain exited | ⟨_, _, isOpen⟩ := workers worker member
    · exact exited
    · simp [shut] at isOpen
  · obtain empty | ⟨isOpen, _⟩ := waiting
    · exact empty
    · simp [shut] at isOpen

theorem idle_of_open (rest : pool.next? clock = none) (sound : pool.Sound) (isOpen : pool.isOpen)
    (staffed : pool.workers ≠ []) (roomy : 0 < pool.capacity) :
    pool.waiting = [] ∧ pool.queue = [] ∧ ∀ worker ∈ pool.workers, worker = .idle := by
  obtain ⟨waiting, workers⟩ := of_next?_eq_none rest
  have idle : ∀ worker ∈ pool.workers, worker = .idle ∧ pool.queue = [] := by
    intro worker member
    obtain rfl | ⟨idle, empty, _⟩ := workers worker member
    · simp [(sound.drained member).1] at isOpen
    · exact ⟨idle, empty⟩
  -- One idle worker shows that the queue is empty, so nobody waits for room.
  obtain ⟨worker, member⟩ := List.exists_mem_of_ne_nil _ staffed
  have empty : pool.queue = [] := (idle worker member).2
  refine ⟨waiting.elim id ?_, empty, fun other member => (idle other member).1⟩
  rintro ⟨_, full⟩
  rw [empty, List.length_nil] at full
  omega

end Pool

end TimeServer
