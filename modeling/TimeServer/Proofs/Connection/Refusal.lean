import TimeServer.Proofs.Pool.Company
import Mathlib.Algebra.Order.BigOperators.Group.List
import Mathlib.Algebra.Order.Group.Nat

/-! # How often refusals are counted

A client that the rules turn away is counted at every service, since the rules are asked before the
connection is looked at.  So a connection is counted once if it is served once, as the workers do,
and as often as it is served in general, released or not.

* `Step.refusals`, `refusals_performAll` — the refusals that operations count;
* `Life` — all that is done with one connection;
* `refusals_over` — the counter over any set of connections;
* `refused_again` — a connection that is counted twice, the second time after its release.
-/

namespace TimeServer

namespace Connection

variable {c : Connection} {clock : Clock} {operation : Operation} {turn : Turn Outcome}

theorem Step.settled (step : Step c clock operation turn) :
    turn.connection.rules = c.rules ∧ turn.connection.client = c.client := by
  cases step with
  | denied | closed =>
    unfold close
    split <;> exact ⟨rfl, rfl⟩
  | shut | sent | brokeOff | panicked | received | rejected | peerClosed | unread =>
    exact ⟨rfl, rfl⟩

/-- A refusal is counted by the services of a client that the rules turn away. -/
theorem Step.refusals (step : Step c clock operation turn) :
    turn.journal.counts.count .denied =
      if c.rules.check c.client ≠ .allow ∧ operation = .serve then 1 else 0 := by
  cases step with
  | denied refused => simp [refused]
  | closed => simp
  | shut _ admits | sent _ admits | brokeOff _ admits | panicked _ admits =>
    have admitted : ¬ (c.rules.check c.client ≠ .allow ∧ operation = .serve) :=
      fun ⟨refused, serves⟩ => refused (admits serves)
    rw [if_neg admitted]
    rfl
  | received | rejected | peerClosed | unread => simp

/-- How many of the operations are services. -/
def services (steps : List (Clock × Operation)) : Nat := steps.countP (·.2 = .serve)

/-- How many refusals operations count on a connection of this client. -/
def refusals (rules : AccessRules) (client : String) (steps : List (Clock × Operation)) : Nat :=
  if rules.check client = .allow then 0 else services steps

theorem settled_performAll (sound : c.Sound) (steps : List (Clock × Operation)) :
    (c.performAll steps).connection.rules = c.rules ∧
      (c.performAll steps).connection.client = c.client := by
  induction steps generalizing c with
  | nil => exact ⟨rfl, rfl⟩
  | cons step steps ih =>
    have first := step_perform sound step.1 step.2
    obtain ⟨rules, client⟩ := ih (first.sound sound)
    exact ⟨rules.trans first.settled.1, client.trans first.settled.2⟩

theorem refusals_performAll (sound : c.Sound) (steps : List (Clock × Operation)) :
    (c.performAll steps).journal.counts.count .denied = refusals c.rules c.client steps := by
  induction steps generalizing c with
  | nil => simp [performAll, refusals, services]
  | cons step steps ih =>
    have first := step_perform sound step.1 step.2
    have later := ih (first.sound sound)
    rw [first.settled.1, first.settled.2] at later
    rw [performAll, Journal.counts_append, List.count_append, first.refusals, later]
    by_cases allow : c.rules.check c.client = .allow
    · simp [refusals, allow]
    · by_cases serves : step.2 = .serve
      · simp [refusals, services, allow, serves, Nat.add_comm]
      · simp [refusals, services, allow, serves]

/-! ## Any set of connections -/

/-- All that is done with one connection, until it is dropped. -/
structure Life where
  client : String
  rules : AccessRules
  stream : Stream
  steps : List (Clock × Operation)

namespace Life

/-- The connection before it is dropped, with all that was done to the shared state. -/
def run (life : Life) : Turn (List Outcome) :=
  (establish life.client life.rules life.stream).connection.performAll life.steps

/-- What the whole life does to the shared state. -/
def journal (life : Life) : Journal :=
  (establish life.client life.rules life.stream).journal ++ life.run.journal ++
    life.run.connection.close.journal

/-- The refusals that are counted in the life. -/
def refusals (life : Life) : Nat := Connection.refusals life.rules life.client life.steps

theorem count_journal (life : Life) : life.journal.counts.count .denied = life.refusals := by
  have sound := sound_establish life.client life.rules life.stream
  have counted := refusals_performAll sound life.steps
  simpa [journal, run, establish, refusals] using counted

theorem adds_journals (lives : List Life) :
    Journal.adds (lives.flatMap journal) .denied = UInt64.ofNat (lives.map refusals).sum := by
  have unit : ∀ count : Count, count.adds .denied = if count = .denied then 1 else 0 := by
    rintro (_ | _ | _ | _ | _ | _) <;> rfl
  induction lives with
  | nil => rfl
  | cons life lives ih =>
    rw [List.flatMap_cons, Journal.adds_append, ih, Journal.adds_eq_count unit, count_journal,
      List.map_cons, List.sum_cons, UInt64.ofNat_add]

theorem refusals_le_one_iff {life : Life} :
    life.refusals ≤ 1 ↔ life.rules.check life.client = .allow ∨ services life.steps ≤ 1 := by
  by_cases allow : life.rules.check life.client = .allow <;>
    simp [refusals, Connection.refusals, allow]

end Life

/-- A life counts as many refusals as it has services, if the rules turn its client away, and none
    otherwise; so it counts at most one just if the client is admitted or served at most once, and
    the operations after a release are no exception.  The counter of all connections grows by the
    sum, which is no greater than their number if each is served at most once.  A visit, which is
    how the workers treat a connection, is served once. -/
theorem refusals_over (lives : List Life) (stats : Stats) :
    (∀ life ∈ lives, life.journal.counts.count .denied = life.refusals ∧
      (life.refusals ≤ 1 ↔
        life.rules.check life.client = .allow ∨ services life.steps ≤ 1) ∧
      ∀ later, (life.run.connection.performAll later).journal.counts.count .denied =
        refusals life.rules life.client later) ∧
    (stats.record (lives.flatMap Life.journal)).denied =
      stats.denied + UInt64.ofNat (lives.map Life.refusals).sum ∧
    ((∀ life ∈ lives, services life.steps ≤ 1) → (lives.map Life.refusals).sum ≤ lives.length) ∧
    ∀ client rules stream clock,
      (visit client rules stream clock).journal.counts.count .denied =
        if rules.check client = .allow then 0 else 1 := by
  refine ⟨fun life member => ⟨life.count_journal, Life.refusals_le_one_iff, fun later => ?_⟩, ?_,
    fun seldom => ?_, fun client rules stream clock => ?_⟩
  · have sound := sound_establish life.client life.rules life.stream
    obtain ⟨same_rules, same_client⟩ := settled_performAll sound life.steps
    have counted := refusals_performAll (sound_performAll sound life.steps) later
    rw [same_rules, same_client] at counted
    exact counted
  · rw [← Life.adds_journals]
    exact stats.read_record _ .denied
  · have each : ∀ n ∈ lives.map Life.refusals, n ≤ 1 := by
      intro n member
      obtain ⟨life, present, rfl⟩ := List.mem_map.1 member
      exact Life.refusals_le_one_iff.2 (.inr (seldom life present))
    simpa using List.sum_le_card_nsmul (lives.map Life.refusals) 1 each
  · have step := step_perform (sound_establish client rules stream) clock .serve
    have counted := step.refusals
    simp only [perform, establish] at counted
    by_cases allow : rules.check client = .allow <;> simp_all [visit, establish]

/-- A client that is turned away and served again is counted again, although the first service
    released its connection. -/
theorem refused_again :
    let clock : Clock := ⟨1700000000, 0⟩
    let c := (establish "127.0.0.1" { denied := ["127.0.0.1"] } {}).connection
    let once := c.performAll [(clock, .serve)]
    let twice := c.performAll [(clock, .serve), (clock, .serve)]
    (({} : Stats).record once.journal).denied = 1 ∧ once.connection.held = false ∧
      once.connection.connected = false ∧ (({} : Stats).record twice.journal).denied = 2 := by
  decide +kernel

end Connection

end TimeServer
