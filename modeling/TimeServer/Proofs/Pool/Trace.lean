import TimeServer.Proofs.Counters
import TimeServer.Proofs.Pool.Conservation

/-! # The journals of a pool

* `Session.trace` — the moves of a run, each with what it writes;
* `act_of_step?`, `submit_of_step?`, `quiet_of_step?` — what each kind of move comes to;
* `stats_of_run`, `journal_of_run` — the counters are those of the journal, which holds what the
  actors wrote and one announcement for each visitor;
* `active_le_of_run`, `InTurn.run` — two invariants: the gauge shows no more connections than there
  are, and connections that enter the queue in turn do so in the order of their numbers.
-/

namespace TimeServer

open Pool

namespace Visitor

/-- What is written when the connection of the visitor is made. -/
def announcement (v : Visitor) : Journal :=
  .count .opened :: (Connection.establish v.client v.rules v.stream).journal

end Visitor

namespace Pool

namespace Session

/-! ## Journals of moves -/

/-- What a move writes, if it is possible. -/
def writes (s : Session) : Move → Journal
  | .submit client rules stream troubles =>
    (s.pool.enroll s.visitors.length client rules stream (troubles.map .note)).2
  | .act clock action => ((s.pool.act? clock action).map Prod.snd).getD []
  | .attach | .detach | .shutdown | .join => []

/-- The moves that are made, with what each writes. -/
def trace (s : Session) : List Move → List (Move × Journal)
  | [] => []
  | move :: moves =>
    match s.step? move with
    | some next => (move, s.writes move) :: next.trace moves
    | none => []

/-- The move is one of the actors of the pool. -/
def Move.isAct : Move → Bool
  | .act .. => true
  | _ => false

/-- All that was written. -/
def journalOf (trace : List (Move × Journal)) : Journal := trace.flatMap Prod.snd

/-- What the actors of the pool wrote. -/
def serviceOf (trace : List (Move × Journal)) : Journal :=
  journalOf (trace.filter fun entry => entry.1.isAct)

/-- The clock shows one time, and nothing goes wrong when a connection is made. -/
def Move.isAt (clock : Clock) : Move → Prop
  | .act time _ => time = clock
  | .submit _ _ _ troubles => troubles = []
  | .attach | .detach | .shutdown | .join => True

/-- The connections enter the queue in the order in which they came. -/
def Move.inTurn : Move → Prop
  | .act _ (.enqueue place) => place = 0
  | _ => True

section Traces

variable {clock : Clock} {s next t : Session} {move : Move} {moves : List Move}

theorem journalOf_cons (entry : Move × Journal) (trace : List (Move × Journal)) :
    journalOf (entry :: trace) = entry.2 ++ journalOf trace := by
  simp [journalOf]

theorem serviceOf_cons (entry : Move × Journal) (trace : List (Move × Journal)) :
    serviceOf (entry :: trace) = (if entry.1.isAct then entry.2 else []) ++ serviceOf trace := by
  cases isAct : entry.1.isAct <;> simp [serviceOf, journalOf, isAct]

theorem trace_cons (moved : s.step? move = some next) :
    s.trace (move :: moves) = (move, s.writes move) :: next.trace moves := by
  rw [trace, moved]

theorem run_cons : s.run (move :: moves) = some t ↔
    ∃ next, s.step? move = some next ∧ next.run moves = some t := by
  simp [run, Option.bind_eq_some_iff]

theorem act_of_step? {time : Clock} {action : Action}
    (moved : s.step? (.act time action) = some next) :
    ∃ pool journal, s.pool.act? time action = some (pool, journal) ∧
      s.writes (.act time action) = journal ∧
      next = { s with
        pool
        stats := s.stats.record journal
        admitted := s.admitted ++ (s.pool.admits? action).toList
        refused := s.refused ++ (s.pool.refuses? action).toList } := by
  simp only [step?, Option.bind_eq_bind, Option.bind_eq_some_iff] at moved
  obtain ⟨⟨pool, journal⟩, acted, moved⟩ := moved
  cases moved
  exact ⟨pool, journal, acted, by simp [writes, acted], rfl⟩

theorem submit_of_step? {client : String} {rules : AccessRules} {stream : Stream}
    {troubles : List Notice} (moved : s.step? (.submit client rules stream troubles) = some next) :
    ∃ v : Visitor, v = ⟨s.visitors.length, client, rules, stream⟩ ∧
      s.writes (.submit client rules stream troubles) =
        .count .opened :: troubles.map .note ++ [.note (.accepted client)] ∧
      next = { s with
        pool := s.pool.offer v.ticket
        stats := s.stats.record (s.writes (.submit client rules stream troubles))
        visitors := s.visitors ++ [v]
        crowd := max s.crowd (s.pool.offer v.ticket).unfinished.length } := by
  simp only [step?] at moved
  split at moved
  · cases moved
  · cases moved
    exact ⟨_, rfl, rfl, rfl⟩

/-- Moves that are neither of the actors nor of a submitter write nothing and move no connection. -/
theorem quiet_of_step? (moved : s.step? move = some next)
    (quiet : move = .attach ∨ move = .detach ∨ move = .shutdown ∨ move = .join) :
    s.writes move = [] ∧ move.isAct = false ∧ next.stats = s.stats ∧ next.visitors = s.visitors ∧
      next.admitted = s.admitted ∧ next.refused = s.refused ∧
        next.pool.waiting = s.pool.waiting := by
  obtain rfl | rfl | rfl | rfl := quiet <;>
  · simp only [step?] at moved
    split at moved
    · cases moved
      exact ⟨rfl, rfl, rfl, rfl, rfl, rfl, rfl⟩
    · cases moved

theorem moves_trace (ran : s.run moves = some t) : (s.trace moves).map Prod.fst = moves := by
  induction moves generalizing s with
  | nil => rfl
  | cons move moves ih =>
    obtain ⟨next, moved, ran⟩ := run_cons.1 ran
    rw [trace_cons moved, List.map_cons, ih ran]

theorem refused_prefix_step (moved : s.step? move = some next) : s.refused <+: next.refused := by
  cases move with
  | act time action =>
    obtain ⟨pool, journal, _, _, rfl⟩ := act_of_step? moved
    exact List.prefix_append _ _
  | submit =>
    obtain ⟨v, _, _, rfl⟩ := submit_of_step? moved
    exact List.prefix_rfl
  | attach | detach | shutdown | join =>
    obtain ⟨_, _, _, _, _, refused, _⟩ := quiet_of_step? moved (by simp)
    rw [refused]

theorem unrefused_of_run (ran : s.run moves = some t) (unrefused : t.refused = []) :
    s.refused = [] := by
  induction moves generalizing s with
  | nil =>
    cases ran
    exact unrefused
  | cons move moves ih =>
    obtain ⟨next, moved, ran⟩ := run_cons.1 ran
    have front := refused_prefix_step moved
    rw [ih ran] at front
    exact List.prefix_nil.1 front

theorem stats_of_run (ran : s.run moves = some t) :
    t.stats = s.stats.record (journalOf (s.trace moves)) := by
  induction moves generalizing s with
  | nil =>
    cases ran
    rfl
  | cons move moves ih =>
    obtain ⟨next, moved, ran⟩ := run_cons.1 ran
    rw [trace_cons moved, journalOf_cons, Stats.record_append, ih ran]
    congr 1
    cases move with
    | act time action =>
      obtain ⟨pool, journal, _, writes, rfl⟩ := act_of_step? moved
      rw [writes]
    | submit =>
      obtain ⟨v, _, _, rfl⟩ := submit_of_step? moved
      rfl
    | attach | detach | shutdown | join =>
      obtain ⟨writes, _, stats, _⟩ := quiet_of_step? moved (by simp)
      rw [writes, stats, Stats.record_nil]

/-- The journal is made of the announcements of those who came and of what the actors wrote. -/
theorem journal_of_run (ran : s.run moves = some t) (plain : ∀ move ∈ moves, move.isAt clock) :
    ∃ came, t.visitors = s.visitors ++ came ∧ (journalOf (s.trace moves)).Perm
      (came.flatMap Visitor.announcement ++ serviceOf (s.trace moves)) := by
  induction moves generalizing s with
  | nil =>
    cases ran
    exact ⟨[], by simp, .refl _⟩
  | cons move moves ih =>
    obtain ⟨next, moved, ran⟩ := run_cons.1 ran
    obtain ⟨came, visitors, journal⟩ := ih ran fun other member => plain other (by simp [member])
    rw [trace_cons moved, journalOf_cons, serviceOf_cons]
    have plain_here := plain move (by simp)
    cases move with
    | act time action =>
      obtain ⟨pool, _, _, writes, rfl⟩ := act_of_step? moved
      -- What an actor writes now stands before the announcements that come later.
      refine ⟨came, visitors, (journal.append_left _).trans ?_⟩
      rw [if_pos (by rfl), ← List.append_assoc, ← List.append_assoc]
      exact List.perm_append_comm.append_right _
    | submit client rules stream troubles =>
      obtain ⟨v, v_eq, writes, rfl⟩ := submit_of_step? moved
      have announced : s.writes (.submit client rules stream troubles) = v.announcement := by
        rw [writes, show troubles = [] from plain_here, v_eq]
        rfl
      refine ⟨v :: came, by simp [visitors], ?_⟩
      rw [if_neg (by simp [Move.isAct]), List.nil_append, List.flatMap_cons, List.append_assoc]
      exact (List.Perm.of_eq announced).append journal
    | attach | detach | shutdown | join =>
      obtain ⟨writes, _, _, same, _⟩ := quiet_of_step? moved (by simp)
      rw [writes]
      exact ⟨came, same ▸ visitors, by simpa using journal⟩

/-! ## Invariants -/

theorem active_le_step (moved : s.step? move = some next)
    (shown : s.stats.active.toNat ≤ s.pool.unfinished.length) :
    next.stats.active.toNat ≤ next.pool.unfinished.length := by
  cases move with
  | act time action =>
    obtain ⟨pool, journal, acted, _, rfl⟩ := act_of_step? moved
    obtain ⟨quiet, same⟩ | ⟨calm, quiet, rfl, fewer⟩ := (step_of_act? acted).gauge
    · show (s.stats.record journal).active.toNat ≤ pool.unfinished.length
      rw [(s.stats.record_eq_of_quiet quiet).1, same]
      exact shown
    · -- The gauge may be at zero already, and then it stays there.
      show (s.stats.record (calm ++ [.count .finished])).active.toNat ≤ pool.unfinished.length
      rw [Stats.record_append, Stats.record_count, Stats.record_nil]
      have active := (s.stats.record_eq_of_quiet quiet).1
      have one_less := (s.stats.record calm).active_count_finished_le
      rw [active] at one_less
      omega
  | submit client rules stream troubles =>
    obtain ⟨v, _, writes, rfl⟩ := submit_of_step? moved
    show (s.stats.record _).active.toNat ≤ (s.pool.offer v.ticket).unfinished.length
    have quiet : Journal.Quiet (troubles.map .note ++ [.note (.accepted client)]) :=
      (Journal.quiet_notes troubles).append (by simp [Journal.Quiet])
    rw [writes, List.cons_append, Stats.record_count, (Stats.record_eq_of_quiet _ quiet).1,
      length_unfinished_offer]
    exact Nat.le_trans s.stats.active_count_opened_le (Nat.succ_le_succ shown)
  | attach | detach | shutdown =>
    simp only [step?] at moved
    split at moved
    · cases moved
      exact shown
    · cases moved
  | join =>
    simp only [step?] at moved
    split at moved
    · rename_i possible
      cases moved
      exact (unfinished_join possible.2).symm ▸ shown
    · cases moved

theorem active_le_of_run (ran : s.run moves = some t)
    (shown : s.stats.active.toNat ≤ s.pool.unfinished.length) :
    t.stats.active.toNat ≤ t.pool.unfinished.length := by
  induction moves generalizing s with
  | nil =>
    cases ran
    exact shown
  | cons move moves ih =>
    obtain ⟨next, moved, ran⟩ := run_cons.1 ran
    exact ih ran (active_le_step moved shown)

/-- Everyone who came has entered the queue in turn or still waits to. -/
def InTurn (s : Session) : Prop :=
  s.admitted ++ s.pool.waiting.map Ticket.number = List.range s.visitors.length

theorem InTurn.step (turns : s.InTurn) (moved : s.step? move = some next) (turn : move.inTurn)
    (unrefused : next.refused = []) : next.InTurn := by
  cases move with
  | act time action =>
    obtain ⟨pool, journal, acted, _, rfl⟩ := act_of_step? moved
    cases step_of_act? acted with
    | @enqueue before after ticket at_place isOpen room =>
      -- The first of those that wait is the next to enter.
      obtain rfl : before = [] := List.eq_nil_of_length_eq_zero turn
      simpa [InTurn, admits?, at_place] using turns
    | refuse at_place _ => simp [refuses?, at_place] at unrefused
    | take | exit | serve | close | finish => simpa [InTurn, admits?] using turns
  | submit =>
    obtain ⟨v, v_eq, _, rfl⟩ := submit_of_step? moved
    simp only [InTurn, Pool.offer, List.map_append, List.length_append, List.length_singleton,
      List.range_succ, ← List.append_assoc] at turns ⊢
    rw [turns, v_eq]
    rfl
  | attach | detach | shutdown | join =>
    obtain ⟨_, _, _, visitors, admitted, _, waiting⟩ := quiet_of_step? moved (by simp)
    rwa [InTurn, visitors, admitted, waiting]

theorem InTurn.run (turns : s.InTurn) (ran : s.run moves = some t)
    (turn : ∀ move ∈ moves, move.inTurn) (unrefused : t.refused = []) : t.InTurn := by
  induction moves generalizing s with
  | nil =>
    cases ran
    exact turns
  | cons move moves ih =>
    obtain ⟨next, moved, ran⟩ := run_cons.1 ran
    have here := turns.step moved (turn move (by simp)) (unrefused_of_run ran unrefused)
    exact ih here ran fun other member => turn other (by simp [member])

end Traces

end Session

end Pool

end TimeServer
