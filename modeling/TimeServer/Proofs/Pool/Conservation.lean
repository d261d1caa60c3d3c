import TimeServer.Proofs.Pool.Visitor
import Mathlib.Data.List.Nodup

/-! # Conservation in the pool

Submitters come with clients and workers serve them, in any order, until the pool is shut down.

* `Session.Ledger` — the invariant, preserved by every move;
* `conserved_of_reachable` — in every reachable state each connection is in exactly one place and
  the gauge shows those that are not over; once the shutdown has returned, all that came before it
  have been served and all that come later are handed back.
-/

namespace TimeServer

namespace Pool

namespace Session

/-! ## The invariant -/

/-- What the stage of the shutdown says about the pool. -/
def Staged (s : Session) : Prop :=
  match s.stage with
  | .serving => s.pool.isOpen ∧ s.pool.workers ≠ [] ∧ s.refused = []
  | .closing =>
    (s.pool.isOpen = false → s.pool.waiting = []) ∧ s.pool.workers ≠ [] ∧ s.refused = []
  | .closed before =>
    s.pool.isOpen = false ∧ s.pool.queue = [] ∧ s.pool.workers = [] ∧
      before ≤ s.visitors.length ∧ (∀ ticket ∈ s.pool.waiting, before ≤ ticket.number) ∧
      (∀ number ∈ s.admitted, number < before) ∧ (∀ number ∈ s.refused, before ≤ number)

/-- Where every visitor is and how often each was counted. -/
structure Ledger (capacity : Nat) (s : Session) : Prop where
  capacity_eq : s.pool.capacity = max 1 capacity
  sound : s.pool.Sound
  names : s.visitors.map Visitor.number = List.range s.visitors.length
  places : s.pool.numbers.Perm (List.range s.visitors.length)
  answers : (s.pool.waiting.map Ticket.number ++ s.admitted ++ s.refused).Perm
    (List.range s.visitors.length)
  faithful : s.pool.Faithful (fun _ => True) s.visitors (· ∈ s.admitted) (· ∈ s.refused)
  total : s.stats.total = UInt64.ofNat s.visitors.length
  crowded : s.pool.unfinished.length ≤ s.crowd
  active : s.crowd < 2 ^ 64 → s.stats.active.toNat = s.pool.unfinished.length
  staged : s.Staged

theorem unfinished_ofWorkers (workers capacity : Nat) :
    (ofWorkers workers capacity).unfinished = [] := by
  simp [ofWorkers, ofCapacity, unfinished, held, Worker.ticket?]

theorem ledger_start (workers capacity : Nat) : (start workers capacity).Ledger capacity where
  capacity_eq := rfl
  sound := ⟨Nat.zero_le _, fun exited => by simp [start, ofWorkers] at exited⟩
  names := rfl
  places := by
    rw [numbers, start, unfinished_ofWorkers]
    rfl
  answers := .refl _
  faithful := by
    refine ⟨?_, ?_, ?_, ?_⟩ <;> simp [start, ofWorkers, ofCapacity, Worker.ticket?]
  total := rfl
  crowded := by simp [start, unfinished_ofWorkers]
  active _ := by simp [start, unfinished_ofWorkers]
  staged := ⟨rfl, by simp [start, ofWorkers], rfl⟩

/-! ## What each move preserves -/

section Moves

variable {capacity : Nat} {s next : Session}

theorem Ledger.of_feeds (ledger : s.Ledger capacity) {feeds : Nat} {stage : Stage}
    (unexited : .exited ∈ s.pool.workers → feeds = 0)
    (staged : { s with pool := { s.pool with feeds }, stage }.Staged) :
    { s with pool := { s.pool with feeds }, stage }.Ledger capacity where
  capacity_eq := ledger.capacity_eq
  sound := ⟨ledger.sound.bounded, fun exited =>
    ⟨by simp [isOpen, unexited exited], (ledger.sound.drained exited).2⟩⟩
  names := ledger.names
  places := ledger.places
  answers := ledger.answers
  faithful := ⟨ledger.faithful.waiting, ledger.faithful.queue, ledger.faithful.workers,
    ledger.faithful.finished⟩
  total := ledger.total
  crowded := ledger.crowded
  active := ledger.active
  staged := staged

theorem Ledger.unfed (ledger : s.Ledger capacity) (exited : .exited ∈ s.pool.workers) :
    s.pool.feeds = 0 := by
  have shut := (ledger.sound.drained exited).1
  simpa [isOpen] using shut

theorem Ledger.attach (ledger : s.Ledger capacity) (moved : s.step? .attach = some next) :
    next.Ledger capacity := by
  simp only [step?] at moved
  split at moved
  · rename_i serving
    cases moved
    have staged := ledger.staged
    simp only [Staged, serving] at staged
    refine ledger.of_feeds (fun exited => ?_) (by simp [Staged, serving, isOpen, staged.2])
    simp [(ledger.sound.drained exited).1] at staged
  · cases moved

theorem Ledger.detach (ledger : s.Ledger capacity) (moved : s.step? .detach = some next) :
    next.Ledger capacity := by
  simp only [step?, canDetach, decide_eq_true_eq] at moved
  split at moved
  · rename_i possible
    obtain ⟨owner, handle, last⟩ := possible
    cases moved
    refine ledger.of_feeds (fun exited => by simp [ledger.unfed exited]) ?_
    have staged := ledger.staged
    cases stage : s.stage with
    | serving =>
      simp only [Staged, stage] at staged ⊢
      have two := owner stage
      exact ⟨by simp [isOpen]; omega, staged.2⟩
    | closing =>
      -- The last handle only goes when nobody waits.
      simp only [Staged, stage] at staged ⊢
      refine ⟨fun shut => last ?_, staged.2⟩
      simp only [isOpen, decide_eq_false_iff_not] at shut
      omega
    | closed before =>
      simp only [Staged, stage] at staged
      have shut := staged.1
      simp only [isOpen, decide_eq_false_iff_not] at shut
      omega
  · cases moved

theorem Ledger.shutdown (ledger : s.Ledger capacity) (moved : s.step? .shutdown = some next) :
    next.Ledger capacity := by
  simp only [step?] at moved
  split at moved
  · rename_i possible
    obtain ⟨serving, last⟩ := possible
    cases moved
    have staged := ledger.staged
    simp only [Staged, serving] at staged
    refine ledger.of_feeds (fun exited => by simp [ledger.unfed exited]) ?_
    refine ⟨fun shut => last ?_, staged.2⟩
    have isOpen := staged.1
    simp only [Pool.isOpen, decide_eq_true_eq, decide_eq_false_iff_not] at isOpen shut
    omega
  · cases moved

/-- A new visitor is counted and waits; while the pool is closing, only as long as it is fed. -/
theorem Ledger.offer (ledger : s.Ledger capacity) (visitor : Visitor) {journal : Journal}
    (named : visitor.number = s.visitors.length) (quiet : Journal.Quiet journal)
    (fed : s.stage = .closing → s.pool.isOpen) :
    { s with
      pool := s.pool.offer visitor.ticket
      stats := s.stats.record (.count .opened :: journal)
      visitors := s.visitors ++ [visitor]
      crowd := max s.crowd (s.pool.offer visitor.ticket).unfinished.length }.Ledger capacity := by
  obtain ⟨total, active⟩ := record_opened s.stats quiet
  have more : List.range (s.visitors ++ [visitor]).length =
      List.range s.visitors.length ++ [visitor.number] := by
    rw [named, List.length_append, List.length_singleton, List.range_succ]
  have faithful := ledger.faithful.mono (List.subset_append_left s.visitors [visitor])
    (fun _ => id) (fun _ => id)
  refine ⟨ledger.capacity_eq, ⟨ledger.sound.bounded, ledger.sound.drained⟩, ?_, ?_, ?_,
    faithful.offer (by simp), ?_, Nat.le_max_right _ _, fun few => ?_, ?_⟩
  · rw [more, ← ledger.names, List.map_append]
    rfl
  · rw [more]
    exact (perm_numbers_offer s.pool visitor.ticket).trans (ledger.places.append_right _)
  · rw [more]
    refine .trans ?_ (ledger.answers.append_right _)
    rw [List.perm_iff_count]
    intro number
    simp only [Pool.offer, Visitor.number_ticket, List.map_append, List.map_cons, List.map_nil,
      List.count_append]
    omega
  · rw [total, ledger.total, List.length_append, List.length_singleton, UInt64.ofNat_add]
    rfl
  · -- The gauge has room for one more, since the crowd counts the new connection.
    have counted := length_unfinished_offer s.pool visitor.ticket
    have shown := ledger.active (Nat.lt_of_le_of_lt (Nat.le_max_left _ _) few)
    have bound := Nat.lt_of_le_of_lt (Nat.le_max_right _ _) few
    rw [active (by omega), shown, counted]
  · have staged := ledger.staged
    cases stage : s.stage with
    | serving =>
      simp only [Staged, stage] at staged ⊢
      exact staged
    | closing =>
      simp only [Staged, stage] at staged ⊢
      refine ⟨fun shut => ?_, staged.2⟩
      exact absurd (fed stage) (by simpa using shut)
    | closed before =>
      simp only [Staged, stage] at staged ⊢
      obtain ⟨shut, queue, workers, bound, waiting, admitted, refused⟩ := staged
      refine ⟨shut, queue, workers, by simp; omega, fun ticket member => ?_, admitted, refused⟩
      cases List.mem_append.1 member with
      | inl old => exact waiting ticket old
      | inr new =>
        rw [List.mem_singleton.1 new]
        exact Nat.le_trans bound (Nat.le_of_eq named.symm)

theorem Ledger.submit (ledger : s.Ledger capacity) {client : String} {rules : AccessRules}
    {stream : Stream} {troubles : List Notice}
    (moved : s.step? (.submit client rules stream troubles) = some next) :
    next.Ledger capacity := by
  simp only [step?] at moved
  split at moved
  · cases moved
  · rename_i possible
    cases moved
    have quiet : Journal.Quiet (troubles.map .note ++ [.note (.accepted client)]) :=
      (Journal.quiet_notes troubles).append (by simp [Journal.Quiet])
    have fed : s.stage = .closing → s.pool.isOpen := by
      intro closing
      simpa [closing] using possible
    exact ledger.offer ⟨s.visitors.length, client, rules, stream⟩ rfl quiet fed

theorem Ledger.join (ledger : s.Ledger capacity) (moved : s.step? .join = some next) :
    next.Ledger capacity := by
  simp only [step?] at moved
  split at moved
  · rename_i possible
    obtain ⟨closing, done⟩ := possible
    cases moved
    have gone : ∀ worker ∈ s.pool.workers, worker = .exited := by
      simpa [isDone] using done
    have unheld := unfinished_join done
    have staged := ledger.staged
    simp only [Staged, closing] at staged
    obtain ⟨waiting, staffed, refused⟩ := staged
    -- A worker ended, so the queue is closed and empty.
    obtain ⟨worker, member⟩ := List.exists_mem_of_ne_nil _ staffed
    obtain ⟨shut, queue⟩ := ledger.sound.drained (gone worker member ▸ member)
    -- Nobody waits and nobody was refused: everyone who came was admitted.
    have came : s.admitted.Perm (List.range s.visitors.length) := by
      have answers := ledger.answers
      rwa [waiting shut, refused, List.append_nil] at answers
    refine ⟨ledger.capacity_eq, ⟨ledger.sound.bounded, fun exited => ?_⟩, ledger.names, ?_,
      ledger.answers, ⟨ledger.faithful.waiting, ledger.faithful.queue, fun worker member => ?_,
        ledger.faithful.finished⟩, ledger.total, ?_, fun few => ?_, ?_⟩
    · cases exited
    · rw [numbers, unheld]
      exact ledger.places
    · cases member
    · rw [unheld]
      exact ledger.crowded
    · rw [unheld]
      exact ledger.active few
    · refine ⟨shut, queue, rfl, Nat.le_refl _, ?_, fun number member => ?_, ?_⟩
      · simp [Pool.join, waiting shut]
      · exact List.mem_range.1 (came.mem_iff.1 member)
      · simp [refused]
  · cases moved

theorem Staged.act (staged : s.Staged) {clock : Clock} {action : Action} {pool : Pool}
    {journal : Journal} (step : Step clock s.pool action journal pool) (stats : Stats) :
    { s with
      pool
      stats
      admitted := s.admitted ++ (s.pool.admits? action).toList
      refused := s.refused ++ (s.pool.refuses? action).toList }.Staged := by
  have staffed : s.pool.workers ≠ [] → pool.workers ≠ [] := by
    simp only [← List.length_pos_iff, step.length_workers]
    exact id
  cases stage : s.stage with
  | serving =>
    simp only [Staged, stage] at staged ⊢
    obtain ⟨isOpen, workers, refused⟩ := staged
    exact ⟨step.isOpen_eq.trans isOpen, staffed workers,
      by simp [refused, step.refuses?_of_open isOpen]⟩
  | closing =>
    simp only [Staged, stage] at staged ⊢
    obtain ⟨waiting, workers, refused⟩ := staged
    refine ⟨fun shut => ?_, staffed workers, ?_⟩
    · have none_waits := waiting (step.isOpen_eq.symm.trans shut)
      exact List.subset_nil.1 (none_waits ▸ step.waiting_subset)
    · -- While the queue is open nobody is refused, and once it is closed nobody waits.
      rw [refused, List.nil_append, Option.toList_eq_nil_iff, Option.eq_none_iff_forall_ne_some]
      intro number refuses
      obtain ⟨ticket, member, _⟩ := mem_waiting_of_refuses refuses
      cases isOpen : s.pool.isOpen with
      | true => simp [step.refuses?_of_open isOpen] at refuses
      | false => simp [waiting isOpen] at member
  | closed before =>
    simp only [Staged, stage] at staged ⊢
    obtain ⟨shut, queue, workers, bound, waiting, admitted, refused⟩ := staged
    obtain ⟨none_admitted, shorter⟩ := step.of_shut shut
    refine ⟨step.isOpen_eq.trans shut, ?_, ?_, bound, fun ticket member => ?_, ?_, ?_⟩
    · rw [queue] at shorter
      exact List.eq_nil_of_length_eq_zero (Nat.le_zero.1 shorter)
    · rw [← List.length_eq_zero_iff, step.length_workers, workers, List.length_nil]
    · exact waiting ticket (step.waiting_subset member)
    · simpa [none_admitted] using admitted
    · intro number member
      cases List.mem_append.1 member with
      | inl old => exact refused number old
      | inr new =>
        obtain ⟨ticket, waits, rfl⟩ := mem_waiting_of_refuses (Option.mem_toList.1 new)
        exact waiting ticket waits

theorem Ledger.act (ledger : s.Ledger capacity) {clock : Clock} {action : Action}
    (moved : s.step? (.act clock action) = some next) : next.Ledger capacity := by
  simp only [step?, Option.bind_eq_bind, Option.bind_eq_some_iff] at moved
  obtain ⟨⟨pool, journal⟩, acted, moved⟩ := moved
  cases moved
  have step := step_of_act? acted
  obtain ⟨total, active⟩ := step.record_gauge s.stats
  refine ⟨step.capacity_eq.trans ledger.capacity_eq, step.sound ledger.sound, ledger.names,
    step.perm_numbers.trans ledger.places, ?_, ?_, total.trans ledger.total,
    Nat.le_trans step.length_unfinished_le ledger.crowded, fun few => ?_, ?_⟩
  · -- An answer moves a number from those that wait to those that were answered.
    refine .trans ?_ ledger.answers
    have answered := step.perm_waiting
    rw [List.perm_iff_count] at answered ⊢
    intro number
    have count := answered number
    simp only [List.count_append] at count ⊢
    omega
  · have before := ledger.faithful.mono (List.Subset.refl s.visitors)
      (fun n (member : n ∈ s.admitted) =>
        List.mem_append_left (s.pool.admits? action).toList member)
      (fun n (member : n ∈ s.refused) =>
        List.mem_append_left (s.pool.refuses? action).toList member)
    exact step.faithful trivial before
      (fun n admits => List.mem_append_right _ (Option.mem_toList.2 admits))
      (fun n refuses => List.mem_append_right _ (Option.mem_toList.2 refuses))
  · simpa using active 0 (by simpa using ledger.active few)
  · exact ledger.staged.act step _

theorem Ledger.step (ledger : s.Ledger capacity) {move : Move}
    (moved : s.step? move = some next) : next.Ledger capacity := by
  cases move with
  | attach => exact ledger.attach moved
  | detach => exact ledger.detach moved
  | submit => exact ledger.submit moved
  | act => exact ledger.act moved
  | shutdown => exact ledger.shutdown moved
  | join => exact ledger.join moved

end Moves

theorem Reachable.ledger {workers capacity : Nat} {s : Session}
    (reachable : Reachable workers capacity s) : s.Ledger capacity := by
  induction reachable with
  | start => exact ledger_start workers capacity
  | step move _ moved ih => exact ih.step moved

/-! ## Conservation -/

/-- What is true of a pool at any time.  The gauge is a word: it can only show the unfinished
    connections as long as there are fewer than it can count. -/
structure Conserved (capacity : Nat) (s : Session) : Prop where
  bounded : s.pool.queue.length ≤ max 1 capacity
  opened : s.stats.total = UInt64.ofNat s.visitors.length
  /-- Each connection is in one place: with its submitter, in the queue, with a worker, or over. -/
  places : s.pool.numbers.Perm (List.range s.visitors.length)
  active : s.crowd < 2 ^ 64 → s.stats.active.toNat = s.pool.unfinished.length
  /-- Whenever a connection is counted as finished, one is active. -/
  unsaturated : s.crowd < 2 ^ 64 → ∀ clock action pool journal,
    s.pool.act? clock action = some (pool, journal) → .finished ∈ Journal.counts journal →
      s.stats.active ≠ 0

/-- What is true of a pool after its shutdown has returned, so many clients having come by then. -/
structure Ended (before : Nat) (s : Session) : Prop where
  queue : s.pool.queue = []
  workers : s.pool.workers = []
  active : s.crowd < 2 ^ 64 → s.stats.active.toNat = s.pool.waiting.length
  idle : s.crowd < 2 ^ 64 → s.visitors.length = before → s.stats.active = 0
  /-- Who came in time was served and closed once. -/
  served : ∀ v ∈ s.visitors, v.number < before → ∃ connection,
    s.pool.finished.filter (·.number = v.number) = [⟨v.number, connection⟩] ∧
      v.Released (fun _ => True) connection ∧
        connection.stream.shutdowns = v.stream.shutdowns + 1
  /-- Who came later waits to be handed back, or was handed back: closed without a byte. -/
  late : ∀ v ∈ s.visitors, before ≤ v.number → v.ticket ∈ s.pool.waiting ∨ ∃ connection,
    s.pool.finished.filter (·.number = v.number) = [⟨v.number, connection⟩] ∧
      connection.stream.calls = v.stream.calls ++ [.shutdown] ∧
        connection.stream.accepted = v.stream.accepted
  /-- Nothing else can happen to a connection that waits. -/
  refusal : ∀ clock place, place < s.pool.waiting.length →
    s.pool.act? clock (.enqueue place) = none ∧ (s.pool.act? clock (.refuse place)).isSome

theorem Ledger.conserved {capacity : Nat} {s : Session} (ledger : s.Ledger capacity) :
    s.Conserved capacity where
  bounded := by
    rw [← ledger.capacity_eq]
    exact ledger.sound.bounded
  opened := ledger.total
  places := ledger.places
  active := ledger.active
  unsaturated few clock action pool journal acted counted := by
    intro zero
    have shown := ledger.active few
    obtain ⟨quiet, _⟩ | ⟨_, _, _, fewer⟩ := (step_of_act? acted).gauge
    · exact quiet.2 counted
    · rw [zero, UInt64.toNat_zero] at shown
      omega

theorem Ledger.ended {capacity before : Nat} {s : Session} (ledger : s.Ledger capacity)
    (closed : s.stage = .closed before) : s.Ended before := by
  have staged := ledger.staged
  simp only [Staged, closed] at staged
  obtain ⟨shut, queue, workers, bound, waiting, admitted, refused⟩ := staged
  have waits : s.pool.unfinished = s.pool.waiting := by
    simp [unfinished, queue, held, workers]
  have places := ledger.places
  have nodup : s.pool.numbers.Nodup := places.nodup_iff.2 List.nodup_range
  rw [numbers, waits, List.map_append] at places nodup
  have distinct : ∀ v ∈ s.visitors, ∀ w ∈ s.visitors, v.number = w.number → v = w := by
    intro v v_mem w w_mem same
    have names : (s.visitors.map Visitor.number).Nodup := ledger.names ▸ List.nodup_range
    exact List.inj_on_of_nodup_map names v_mem w_mem same
  -- A visitor who does not wait is over, and there is one connection of that number.
  have past : ∀ v ∈ s.visitors, v.ticket ∈ s.pool.waiting ∨ ∃ connection,
      s.pool.finished.filter (·.number = v.number) = [⟨v.number, connection⟩] ∧
        (v.number ∈ s.admitted ∧ v.Released (fun _ => True) connection ∨
          v.number ∈ s.refused ∧ v.Refused connection) := by
    intro v v_mem
    have came : v.number ∈ List.range s.visitors.length := ledger.names ▸ List.mem_map_of_mem v_mem
    cases List.mem_append.1 (places.mem_iff.2 came) with
    | inl waits =>
      obtain ⟨ticket, ticket_mem, same⟩ := List.mem_map.1 waits
      obtain ⟨w, w_mem, rfl⟩ := ledger.faithful.waiting ticket ticket_mem
      exact .inl (distinct w w_mem v v_mem same ▸ ticket_mem)
    | inr past =>
      obtain ⟨ticket, ticket_mem, same⟩ := List.mem_map.1 past
      obtain ⟨w, w_mem, number_eq, visit⟩ := ledger.faithful.finished ticket ticket_mem
      obtain rfl := distinct w w_mem v v_mem (number_eq.symm.trans same)
      have alone := filter_number (List.nodup_append.1 nodup).2.1 ticket_mem
      refine .inr ⟨ticket.connection, ?_, visit⟩
      rw [← number_eq]
      exact alone
  refine ⟨queue, workers, fun few => by rw [ledger.active few, waits], ?_, ?_, ?_, ?_⟩
  · intro few on_time
    have none_waits : s.pool.waiting = [] := by
      rw [List.eq_nil_iff_forall_not_mem]
      intro ticket member
      have late := waiting ticket member
      have came := places.mem_iff.1
        (List.mem_append_left _ (List.mem_map_of_mem (f := Ticket.number) member))
      rw [List.mem_range] at came
      omega
    have shown := ledger.active few
    rw [waits, none_waits, List.length_nil] at shown
    exact UInt64.toNat_inj.1 shown
  · intro v v_mem in_time
    obtain waits | ⟨connection, alone, ⟨_, released⟩ | ⟨answer, _⟩⟩ := past v v_mem
    · exact absurd (waiting _ waits) (Nat.not_le.2 in_time)
    · exact ⟨connection, alone, released, released.shutdowns⟩
    · exact absurd (refused _ answer) (Nat.not_le.2 in_time)
  · intro v v_mem late
    obtain waits | ⟨connection, alone, ⟨answer, _⟩ | ⟨_, closed⟩⟩ := past v v_mem
    · exact .inl waits
    · exact absurd (admitted _ answer) (Nat.not_lt.2 late)
    · exact .inr ⟨connection, alone, closed.stream⟩
  · intro clock place place_lt
    simp [act?, List.getElem?_eq_getElem place_lt, shut]

/-- Connections are conserved, in every state that the pool can come to in any order of moves.  Once
    the shutdown has returned nothing is left of those that came before it, each of which was served
    and closed once, and those that come later are only handed back. -/
theorem conserved_of_reachable {workers capacity : Nat} {s : Session}
    (reachable : Reachable workers capacity s) :
    s.Conserved capacity ∧ ∀ before, s.stage = .closed before → s.Ended before :=
  ⟨reachable.ledger.conserved, fun _ closed => reachable.ledger.ended closed⟩

theorem Reachable.run {workers capacity : Nat} {s next : Session} {moves : List Move}
    (reachable : Reachable workers capacity s) (ran : s.run moves = some next) :
    Reachable workers capacity next := by
  induction moves generalizing s with
  | nil =>
    cases ran
    exact reachable
  | cons move moves ih =>
    simp only [Session.run, Option.bind_eq_bind, Option.bind_eq_some_iff] at ran
    obtain ⟨middle, moved, ran⟩ := ran
    exact ih (reachable.step move moved) ran

/-- One worker over a queue for one connection: a client breaks it and one comes too late. -/
def lateVisit : List Move :=
  [.attach, .submit "a" {} { writes := [.panic] } [], .act ⟨0, 0⟩ (.enqueue 0), .shutdown,
    .act ⟨0, 0⟩ (.work 0), .detach, .act ⟨0, 0⟩ (.work 0), .act ⟨0, 0⟩ (.work 0),
    .act ⟨0, 0⟩ (.work 0), .act ⟨0, 0⟩ (.work 0), .join, .submit "b" {} {} [],
    .act ⟨0, 0⟩ (.refuse 0)]

theorem conserved_lateVisit : ∃ s, Reachable 0 0 s ∧ s.stage = .closed 1 ∧
    s.visitors.length = 2 ∧ s.Conserved 0 ∧ s.Ended 1 := by
  obtain ⟨s, ran⟩ : ∃ s, (start 0 0).run lateVisit = some s :=
    Option.isSome_iff_exists.1 (by decide +kernel)
  have reachable : Reachable 0 0 s := Reachable.start.run ran
  have closed : s.stage = .closed 1 ∧ s.visitors.length = 2 := by
    have stages : ((start 0 0).run lateVisit).map (fun s => (s.stage, s.visitors.length)) =
        some (.closed 1, 2) := by
      decide +kernel
    rw [ran] at stages
    simpa using stages
  obtain ⟨conserved, ended⟩ := conserved_of_reachable reachable
  exact ⟨s, reachable, closed.1, closed.2, conserved, ended 1 closed.1⟩

end Session

end Pool

end TimeServer
