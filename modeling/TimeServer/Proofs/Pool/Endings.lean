import TimeServer.Proofs.Pool.Company
import TimeServer.Proofs.Pool.Trace

/-! # How connections end in a pool

A connection that a worker has served was sent its packet, was denied, failed, or broke the worker,
and one of these is what the worker writes about it.

* `Journal.endings` — how many such entries there are;
* `Step.ends` — serving a new connection ends it in one of the four ways;
* `Counted`, `Counted.act` — the invariant: what was admitted has ended, is with a worker, or is
  queued;
* `reconciled_over` — the counters of any company of connections, and those of a pool that is empty.
-/

namespace TimeServer

open Pool

/-- A connection has ended, unless it broke its worker. -/
def Count.isEnding : Count → Bool
  | sent _ | denied | ioError => true
  | opened | finished | received _ => false

def Notice.isRecovery : Notice → Bool
  | recovered .. => true
  | _ => false

namespace Journal

/-- How many connections have ended, whether or not they broke their worker. -/
def endings (journal : Journal) : Nat :=
  journal.counts.countP Count.isEnding + journal.notices.countP Notice.isRecovery

@[simp] theorem endings_append (first second : Journal) :
    endings (first ++ second) = endings first + endings second := by
  simp only [endings, counts_append, notices_append, List.countP_append]
  omega

theorem adds_endings (journal : Journal) :
    journal.adds .packetsSent + journal.adds .denied + journal.adds .ioErrors =
      UInt64.ofNat (journal.counts.countP Count.isEnding) := by
  induction journal with
  | nil => rfl
  | cons entry journal ih =>
    cases entry with
    | note notice => exact ih
    | count count =>
      rw [counts_count, List.countP_cons, UInt64.ofNat_add, ← ih]
      simp only [adds_count]
      cases count with
      | opened | finished | received _ => simp [Count.adds, Count.isEnding]
      | sent _ | denied | ioError =>
        simp only [Count.adds, Count.isEnding, if_true, UInt64.ofNat_one]
        ac_rfl

end Journal

namespace Connection

variable {c : Connection} {clock : Clock} {turn : Turn Outcome}

@[simp] theorem endings_close (c : Connection) : c.close.journal.endings = 0 := by
  have unbroken : c.close.journal.notices.countP Notice.isRecovery = 0 := by
    rw [List.countP_eq_zero]
    intro notice member recovery
    have calm := (level_close c notice member).2
    cases notice <;> simp [Notice.isRecovery, Notice.level] at recovery calm
  simp [Journal.endings, unbroken]

theorem Step.ends (step : Step c clock .serve turn) (connected : c.connected) :
    turn.journal.endings + (if turn.result = .failed .panic then 1 else 0) = 1 := by
  cases step with
  | denied =>
    rw [Journal.endings_append, endings_close]
    rfl
  | shut _ _ shut => simp [shut] at connected
  | sent => rfl
  | @brokeOff _ _ finish _ error _ _ _ _ _ stopped => rfl
  | panicked => rfl

theorem endings_serve (c : Connection) (connected : c.connected) (held : c.held) (clock : Clock) :
    (c.serve clock).journal.endings + (if isPanic (c.serve clock).result then 1 else 0) = 1 := by
  have ends := (step_perform (fun _ => held) clock .serve).ends connected
  have broke : ∀ result : Except Failure Service,
      (Outcome.ofResult .served result = .failed .panic) ↔ isPanic result := by
    rintro (failure | service)
    · cases failure <;> simp [Outcome.ofResult, isPanic]
    · simp [Outcome.ofResult, isPanic]
  simpa only [perform, broke] using ends

end Connection

/-- How many connections the worker has that are still to end. -/
def Worker.pending : Worker → Nat
  | took _ | served _ true => 1
  | idle | served _ false | closed _ | exited => 0

namespace Pool

/-- How many connections that were admitted are still to end. -/
def pending (pool : Pool) : Nat := (pool.workers.map Worker.pending).sum + pool.queue.length

theorem pending_of_unheld {pool : Pool} (unheld : pool.held = []) :
    pool.pending = pool.queue.length := by
  rw [held, List.filterMap_eq_nil_iff] at unheld
  have each : pool.workers.map Worker.pending = pool.workers.map fun _ => 0 := by
    refine List.map_congr_left fun worker member => ?_
    have free := unheld worker member
    cases worker <;> simp [Worker.ticket?, Worker.pending] at free ⊢
  simp [pending, each]

/-- A connection that is taken in is one more to end, and each one that ends is one less. -/
theorem endings_act {clock : Clock} {pool next : Pool} {action : Action} {journal : Journal}
    (acted : pool.act? clock action = some (next, journal))
    (fresh : ∀ ticket, .took ticket ∈ pool.workers →
      ticket.connection.connected ∧ ticket.connection.held) :
    journal.endings + next.pending = pool.pending + (pool.admits? action).toList.length := by
  have ended : ∀ worker, Journal.endings [.note (.workerExiting worker)] = 0 := fun _ => rfl
  have finished : Journal.endings [.count .finished] = 0 := rfl
  have silent : Journal.endings [] = 0 := rfl
  cases step_of_act? acted with
  | enqueue at_place _ _ =>
    simp [pending, silent, admits?, at_place]
    omega
  | refuse at_place _ => simp [pending, finished, admits?]
  | take at_work first =>
    simp [pending, silent, admits?, at_work, first, Worker.pending]
    omega
  | exit at_work _ _ => simp [pending, ended, admits?, at_work, Worker.pending]
  | @serve before after ticket at_work =>
    obtain ⟨connected, held⟩ := fresh ticket (by simp [at_work])
    have once := ticket.connection.endings_serve connected held clock
    cases broke : isPanic (ticket.connection.serve clock).result <;>
      simp [pending, admits?, at_work, Worker.pending, broke] at once ⊢ <;> omega
  | @close before after ticket broken alarm at_work =>
    -- The relation leaves the alarm open; the move itself says which it is.
    simp only [act?, at_work, List.getElem?_append_right (Nat.le_refl _), Nat.sub_self,
      List.getElem?_cons_zero, Option.bind_eq_bind, Option.bind_some, work?, Option.some.injEq,
      Prod.mk.injEq, List.append_cancel_right_eq] at acted
    rw [Journal.endings_append, Connection.endings_close, ← acted.2]
    cases broken with
    | true =>
      have alarmed : ∀ client, Journal.endings [.note (.recovered before.length client)] = 1 :=
        fun _ => rfl
      simp [pending, admits?, at_work, Worker.pending, alarmed]
      omega
    | false => simp [pending, admits?, at_work, Worker.pending, silent]
  | finish at_work => simp [pending, finished, admits?, at_work, Worker.pending]

namespace Session

/-- What was admitted has ended or is still to end, and the counters show what has ended. -/
structure Counted (s : Session) (written : Journal) : Prop where
  ended : written.endings + s.pool.pending = s.admitted.length
  shown : ∀ counter, counter ≠ .total → s.stats.read counter = written.adds counter

variable {workers capacity : Nat} {s next t : Session} {written : Journal} {move : Move}
  {moves : List Move}

theorem counted_start (workers capacity : Nat) : (start workers capacity).Counted [] where
  ended := by simp [start, ofWorkers, ofCapacity, pending, Worker.pending, Journal.endings]
  shown counter _ := by cases counter <;> rfl

theorem Counted.act (counted : s.Counted written) (ledger : s.Ledger capacity) {clock : Clock}
    {action : Action} (moved : s.step? (.act clock action) = some next) :
    next.Counted (written ++ s.writes (.act clock action)) := by
  obtain ⟨pool, journal, acted, writes, rfl⟩ := act_of_step? moved
  have fresh : ∀ ticket, .took ticket ∈ s.pool.workers →
      ticket.connection.connected ∧ ticket.connection.held := by
    -- What a worker has just taken is as the visitor brought it.
    intro ticket member
    obtain ⟨v, _, _, same⟩ := ledger.faithful.workers _ member (by simp [Worker.ticket?])
    rw [show ticket = v.ticket from same]
    exact ⟨rfl, rfl⟩
  have more := endings_act acted fresh
  rw [writes]
  refine ⟨?_, fun counter other => ?_⟩
  · have ended := counted.ended
    simp only [Journal.endings_append, List.length_append]
    omega
  · rw [Stats.read_record, counted.shown counter other, Journal.adds_append]

theorem Counted.step (counted : s.Counted written) (ledger : s.Ledger capacity)
    (moved : s.step? move = some next) :
    next.Counted (written ++ if move.isAct then s.writes move else []) := by
  cases move with
  | act clock action => exact counted.act ledger moved
  | submit client rules stream troubles =>
    obtain ⟨v, _, writes, rfl⟩ := submit_of_step? moved
    rw [if_neg (by simp [Move.isAct]), List.append_nil]
    refine ⟨counted.ended, fun counter other => ?_⟩
    rw [Stats.read_record, counted.shown counter other, writes]
    cases counter <;> simp [Count.adds] at other ⊢
  | attach | detach | shutdown =>
    rw [if_neg (by simp [Move.isAct]), List.append_nil]
    simp only [step?] at moved
    split at moved
    · cases moved
      exact ⟨counted.ended, counted.shown⟩
    · cases moved
  | join =>
    rw [if_neg (by simp [Move.isAct]), List.append_nil]
    simp only [step?] at moved
    split at moved
    · rename_i possible
      cases moved
      refine ⟨?_, counted.shown⟩
      have ended := counted.ended
      rw [pending_of_unheld (held_of_isDone possible.2)] at ended
      simpa [pending, join] using ended
    · cases moved

theorem counted_of_run (counted : s.Counted written) (reachable : Reachable workers capacity s)
    (ran : s.run moves = some t) : t.Counted (written ++ serviceOf (s.trace moves)) := by
  induction moves generalizing s written with
  | nil =>
    cases ran
    simpa [trace, serviceOf, journalOf] using counted
  | cons move moves ih =>
    obtain ⟨next, moved, ran⟩ := run_cons.1 ran
    have later := ih (counted.step reachable.ledger moved) (reachable.step move moved) ran
    rwa [trace_cons moved, serviceOf_cons, ← List.append_assoc]

/-- Connections and counters reconcile.  For connections in any company that is the case after any
    moves.  When nobody is left in a pool, everyone who was admitted was sent its packet, was
    denied, failed, or broke its worker. -/
theorem reconciled_over (company : List Company.Move)
    (ran : (start workers capacity).run moves = some s) (emptied : s.pool.unfinished = []) :
    (Company.run company).Reconciled ∧
      s.admitted.length + s.refused.length = s.visitors.length ∧
      UInt64.ofNat s.admitted.length =
        s.stats.packetsSent + s.stats.denied + s.stats.ioErrors +
          UInt64.ofNat ((serviceOf ((start workers capacity).trace moves)).notices.countP
            Notice.isRecovery) := by
  have ledger := (Reachable.start.run ran).ledger
  have counted := counted_of_run (counted_start workers capacity) Reachable.start ran
  rw [List.nil_append] at counted
  simp only [unfinished, List.append_eq_nil_iff] at emptied
  obtain ⟨⟨waiting, queue⟩, unheld⟩ := emptied
  refine ⟨(Company.balanced_run company).reconciled, ?_, ?_⟩
  · have answers := ledger.answers.length_eq
    simpa [waiting] using answers
  · have ended := counted.ended
    rw [pending_of_unheld unheld, queue, List.length_nil, Nat.add_zero, Journal.endings] at ended
    rw [← ended, UInt64.ofNat_add, ← Journal.adds_endings, ← counted.shown .packetsSent (by simp),
      ← counted.shown .denied (by simp), ← counted.shown .ioErrors (by simp)]
    rfl

/-- Connections of two clients, one of whom is served before the other comes. -/
def twoVisits : List Company.Move :=
  [.join "a" {} {}, .perform 0 ⟨0, 0⟩ .serve, .join "b" {} {}, .perform 1 ⟨0, 0⟩ .receive,
    .perform 0 ⟨0, 0⟩ .close]

/-- A visit that breaks its worker, and one that comes too late. -/
theorem reconciled_visits : ∃ s, (start 0 0).run lateVisit = some s ∧ s.pool.unfinished = [] ∧
    (Company.run twoVisits).Reconciled ∧
    s.admitted.length + s.refused.length = s.visitors.length ∧
    UInt64.ofNat s.admitted.length =
      s.stats.packetsSent + s.stats.denied + s.stats.ioErrors +
        UInt64.ofNat ((serviceOf ((start 0 0).trace lateVisit)).notices.countP
          Notice.isRecovery) := by
  obtain ⟨s, ran⟩ : ∃ s, (start 0 0).run lateVisit = some s :=
    Option.isSome_iff_exists.1 (by decide +kernel)
  have emptied : s.pool.unfinished = [] := by
    have ends : ((start 0 0).run lateVisit).map (fun s => s.pool.unfinished) = some [] := by
      decide +kernel
    rw [ran] at ends
    simpa using ends
  exact ⟨s, ran, emptied, reconciled_over twoVisits ran emptied⟩

end Session

end Pool

end TimeServer
