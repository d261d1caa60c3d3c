import TimeServer.Proofs.Connection.Reception
import TimeServer.Proofs.Counters
import TimeServer.Proofs.Pool.Step

/-! # Connections in company

Any number of connections share their counters and their observer.

* `Journal.Squared` — a journal whose counts agree with its notices;
* `Step.squared`, `Step.traffic`, `Step.broken` — what one operation on a connection writes;
* `Company.Balanced` — the invariant, preserved by every move;
* `Company.Reconciled`, `balanced_run` — what it says about the counters, after any moves.
-/

namespace TimeServer

/-- The counters that each connection also keeps for itself. -/
inductive Flow
  | packetsSent
  | packetsReceived
  | bytesSent
  | bytesReceived
  deriving DecidableEq, Repr

def Flow.counter : Flow → Counter
  | packetsSent => .packetsSent
  | packetsReceived => .packetsReceived
  | bytesSent => .bytesSent
  | bytesReceived => .bytesReceived

def Traffic.read (t : Traffic) : Flow → UInt64
  | .packetsSent => t.packetsSent
  | .packetsReceived => t.packetsReceived
  | .bytesSent => t.bytesSent
  | .bytesReceived => t.bytesReceived

/-- Bytes are counted with the packets that they make up. -/
structure InPackets (read : Flow → UInt64) : Prop where
  sent : read .bytesSent = 4 * read .packetsSent
  received : read .bytesReceived = 4 * read .packetsReceived

theorem InPackets.add {one two : Flow → UInt64} (first : InPackets one) (second : InPackets two) :
    InPackets fun flow => one flow + two flow where
  sent := by rw [first.sent, second.sent, mul_add]
  received := by rw [first.received, second.received, mul_add]

/-! ## Counts and notices -/

namespace Journal

/-- How many notices of a level there are. -/
def atLevel (journal : Journal) (level : Level) : Nat := journal.notices.countP (·.level = level)

/-- The counts of a journal agree with each other and with its notices. -/
structure Squared (journal : Journal) : Prop where
  bytes : InPackets fun flow => journal.adds flow.counter
  denied : journal.counts.count .denied = journal.atLevel .warn
  ioErrors : journal.counts.count .ioError = journal.atLevel .error

variable {journal first second : Journal}

theorem squared_of_calm (uncounted : journal.counts = [])
    (calm : ∀ notice ∈ journal.notices, notice.level ≠ .warn ∧ notice.level ≠ .error) :
    journal.Squared := by
  have none_at : ∀ level, level = .warn ∨ level = .error → journal.atLevel level = 0 := by
    intro level troubled
    rw [atLevel, List.countP_eq_zero]
    intro notice member
    obtain ⟨warn, error⟩ := calm notice member
    rcases troubled with rfl | rfl <;> simpa
  refine ⟨⟨?_, ?_⟩, ?_, ?_⟩ <;> simp [adds, uncounted, none_at]

theorem Squared.append (one : first.Squared) (two : second.Squared) :
    (first ++ second).Squared where
  bytes := by simpa only [adds_append] using one.bytes.add two.bytes
  denied := by
    rw [counts_append, List.count_append, one.denied, two.denied]
    simp [atLevel]
  ioErrors := by
    rw [counts_append, List.count_append, one.ioErrors, two.ioErrors]
    simp [atLevel]

/-- A counter that goes up by one for one kind of count shows how many there were. -/
theorem adds_eq_count {counter : Counter} {one : Count}
    (unit : ∀ count : Count, count.adds counter = if count = one then 1 else 0) :
    journal.adds counter = UInt64.ofNat (journal.counts.count one) := by
  rw [adds]
  induction journal.counts with
  | nil => rfl
  | cons count counts ih =>
    rw [List.map_cons, List.sum_cons, ih, unit, List.count_cons, UInt64.ofNat_add, add_comm]
    by_cases same : count = one <;> simp [same]

end Journal

/-! ## What one operation writes -/

namespace Outcome

/-- A packet went over the connection. -/
def transfers : Outcome → Bool
  | served .served | sent _ | received _ => true
  | served .denied | closed | failed _ => false

/-- The notice that reports it. -/
def report? (client : String) (clock : Clock) (operation : Operation) : Outcome → Option Notice
  | served .served | sent _ => (operation.packet? clock).map (.sent · clock client)
  | received packet => some (.received packet clock client)
  | served .denied | closed | failed _ => none

end Outcome

namespace Connection

variable {c : Connection} {clock : Clock} {operation : Operation} {turn : Turn Outcome}

@[simp] theorem traffic_close (c : Connection) : c.close.connection.traffic = c.traffic := by
  unfold close
  split <;> rfl

@[simp] theorem counts_close (c : Connection) : c.close.journal.counts = [] := by
  cases held : c.held with
  | true => obtain ⟨_ | e, journal⟩ := journal_close held <;> simp [journal]
  | false => rw [close_of_released held, Journal.counts_nil]

theorem level_close (c : Connection) :
    ∀ notice ∈ c.close.journal.notices, notice.level ≠ .warn ∧ notice.level ≠ .error := by
  cases held : c.held with
  | true => obtain ⟨_ | e, journal⟩ := journal_close held <;> simp [journal, Notice.level]
  | false => simp [close_of_released held]

theorem Step.squared (step : Step c clock operation turn) : turn.journal.Squared := by
  cases step with
  | denied refused =>
    refine Journal.Squared.append ?_ (Journal.squared_of_calm (counts_close c) (level_close c))
    refine ⟨⟨?_, ?_⟩, ?_, ?_⟩ <;>
      simp [Flow.counter, Count.adds, Journal.atLevel, Notice.level]
  | closed => exact Journal.squared_of_calm (counts_close c) (level_close c)
  | shut | panicked | rejected | peerClosed =>
    exact Journal.squared_of_calm rfl (by simp [Notice.level])
  | sent | brokeOff | unread =>
    refine ⟨⟨?_, ?_⟩, ?_, ?_⟩ <;>
      simp [Flow.counter, Count.adds, Journal.atLevel, Notice.level, packetSize]
  | received _ _ read =>
    have size := Stream.length_of_complete read
    refine ⟨⟨?_, ?_⟩, ?_, ?_⟩ <;>
      simp [Flow.counter, Count.adds, Journal.atLevel, Notice.level, size, packetSize]

theorem Step.traffic (step : Step c clock operation turn) (flow : Flow) :
    turn.connection.traffic.read flow = c.traffic.read flow + turn.journal.adds flow.counter := by
  cases step with
  | denied | closed => cases flow <;> simp [Journal.adds, Flow.counter, Count.adds, Traffic.read]
  | shut | panicked | rejected | peerClosed => simp
  | sent | brokeOff | received | unread =>
    cases flow <;>
      simp [Traffic.read, Traffic.sendOne, Traffic.receiveOne, Flow.counter, Count.adds]

/-- Only a connection that was connected can break, and then it is connected no more. -/
theorem Step.broken (step : Step c clock operation turn) (sound : c.Sound) :
    turn.journal.counts.count .ioError + (!c.connected).toNat ≤
      (!turn.connection.connected).toNat := by
  cases step with
  | denied | closed =>
    -- Here the connection may have been cut off before.
    have shut := connected_close sound
    cases connected : c.connected <;> simp [shut]
  | shut | panicked | rejected => simp
  | sent _ _ connected | received connected | brokeOff _ _ connected | unread connected
  | peerClosed connected => simp [connected]

/-- An operation that fails moves no counter of what went over the connections. -/
theorem Step.unmoved (step : Step c clock operation turn) {failure : Failure}
    (failed : turn.result = .failed failure) :
    turn.connection.traffic = c.traffic ∧ ∀ flow : Flow, turn.journal.adds flow.counter = 0 := by
  cases step with
  | denied | closed | received => cases failed
  | sent sends => cases operation <;> cases failed
  | shut | brokeOff | panicked | rejected | peerClosed | unread =>
    refine ⟨rfl, fun flow => ?_⟩
    cases flow <;> simp [Flow.counter, Count.adds]

/-- An operation that was successful tells its observer so, as a detail, and nothing else. -/
theorem Step.reported (step : Step c clock operation turn) (transfers : turn.result.transfers) :
    ∃ notice, turn.result.report? c.client clock operation = some notice ∧
      turn.journal.notices = [notice] ∧ notice.level = .debug := by
  cases step with
  | denied | closed | shut | brokeOff | panicked | rejected | peerClosed | unread => cases transfers
  | @sent _ packet stream sends =>
    refine ⟨.sent packet clock c.client, ?_, rfl, rfl⟩
    cases operation <;> simp [Outcome.report?, Operation.delivered, sends]
  | received => exact ⟨_, rfl, rfl, rfl⟩

end Connection

/-! ## Company -/

/-- The connection agrees with what it has written. -/
structure Member.Balanced (m : Member) : Prop where
  sound : m.connection.Sound
  squared : m.journal.Squared
  traffic : ∀ flow : Flow, m.connection.traffic.read flow = m.journal.adds flow.counter
  broken : m.journal.counts.count .ioError ≤ (!m.connection.connected).toNat

theorem Member.Balanced.perform {m : Member} (balanced : m.Balanced) (clock : Clock)
    (operation : Operation) :
    Member.Balanced ⟨(m.connection.perform clock operation).connection,
      m.journal ++ (m.connection.perform clock operation).journal⟩ := by
  have step := Connection.step_perform balanced.sound clock operation
  refine ⟨step.sound balanced.sound, balanced.squared.append step.squared, fun flow => ?_, ?_⟩
  · rw [step.traffic, balanced.traffic, Journal.adds_append]
  · have more := step.broken balanced.sound
    have before := balanced.broken
    rw [Journal.counts_append, List.count_append]
    exact Nat.le_trans (by omega) more

namespace Company

/-- Everything that was written, by whichever connection, was written once and counted. -/
structure Balanced (co : Company) : Prop where
  members : ∀ m ∈ co.members, m.Balanced
  journal : co.journal.Perm (co.members.flatMap Member.journal)
  squared : co.journal.Squared
  stats : co.stats = Stats.record {} co.journal

/-- The counters agree with the connections and with what the observer was told. -/
structure Reconciled (co : Company) : Prop where
  sums : ∀ flow : Flow, co.stats.read flow.counter =
    (co.members.map fun m => m.connection.traffic.read flow).sum
  bytes : InPackets fun flow => co.stats.read flow.counter
  eachBytes : ∀ m ∈ co.members, InPackets m.connection.traffic.read
  denied : co.stats.denied = UInt64.ofNat (co.journal.atLevel .warn)
  ioErrors : co.stats.ioErrors = UInt64.ofNat (co.journal.atLevel .error)
  /-- What each connection has written makes up the journal, and it has failed once at most. -/
  shares : co.journal.Perm (co.members.flatMap Member.journal) ∧
    ∀ m ∈ co.members, m.journal.counts.count .ioError ≤ 1
  /-- Whatever is done next with a connection, success is reported once. -/
  reported : ∀ m ∈ co.members, ∀ clock operation,
    let turn := m.connection.perform clock operation
    turn.result.transfers → ∃ notice,
      turn.result.report? m.connection.client clock operation = some notice ∧
        turn.journal.notices = [notice] ∧ notice.level = .debug
  /-- Failure moves no counter of packets or bytes. -/
  unmoved : ∀ place m, co.members[place]? = some m → ∀ clock operation failure,
    let turn := m.connection.perform clock operation
    turn.result = .failed failure →
      turn.connection.traffic = m.connection.traffic ∧ ∀ flow : Flow,
        (co.step (.perform place clock operation)).stats.read flow.counter =
          co.stats.read flow.counter

variable {co : Company}

theorem Balanced.step (balanced : co.Balanced) (move : Move) : (co.step move).Balanced := by
  cases move with
  | join client rules stream =>
    have calm : Journal.Squared [.note (.accepted client)] :=
      Journal.squared_of_calm rfl (by simp [Notice.level])
    refine ⟨fun m member => ?_, ?_, balanced.squared.append calm, ?_⟩
    · cases List.mem_append.1 member with
      | inl old => exact balanced.members m old
      | inr new =>
        rw [List.mem_singleton.1 new]
        exact ⟨Connection.sound_establish client rules stream, calm,
          fun flow => by cases flow <;> rfl, Nat.zero_le _⟩
    · simpa [Company.step] using balanced.journal.append_right _
    · simp [Company.step, balanced.stats, Stats.record_append]
  | perform place clock operation =>
    cases found : co.members[place]? with
    | none => simpa [Company.step, found] using balanced
    | some m =>
      obtain ⟨before, after, split, rfl⟩ := split_at_place found
      have member : m ∈ co.members := by simp [split]
      have turned := balanced.members m member
      simp only [Company.step, found]
      refine ⟨fun other other_mem => ?_, ?_,
        balanced.squared.append (Connection.step_perform turned.sound clock operation).squared, ?_⟩
      · obtain old | rfl := List.mem_or_eq_of_mem_set other_mem
        · exact balanced.members other old
        · exact turned.perform clock operation
      · -- The journal grows at its end, the share of the member where the member stands.
        have journal := balanced.journal
        rw [split, List.perm_iff_count] at journal
        rw [split, List.set_append_right _ _ (Nat.le_refl _), Nat.sub_self, List.set_cons_zero,
          List.perm_iff_count]
        intro entry
        have count := journal entry
        simp only [List.flatMap_append, List.flatMap_cons, List.count_append] at count ⊢
        omega
      · simp [balanced.stats, Stats.record_append]

theorem balanced_run (moves : List Move) : (run moves).Balanced := by
  have start : Balanced {} :=
    ⟨by simp, .refl _, Journal.squared_of_calm rfl (by simp), rfl⟩
  suffices ∀ co : Company, co.Balanced → (moves.foldl Company.step co).Balanced from this {} start
  induction moves with
  | nil => exact fun _ balanced => balanced
  | cons move moves ih => exact fun co balanced => ih _ (balanced.step move)

theorem Balanced.reconciled (balanced : co.Balanced) : co.Reconciled := by
  have read : ∀ counter, co.stats.read counter = co.journal.adds counter := by
    intro counter
    rw [balanced.stats, Stats.read_record]
    cases counter <;> exact zero_add _
  refine ⟨fun flow => ?_, ?_, fun m member => ?_, ?_, ?_, ⟨balanced.journal, ?_⟩, ?_, ?_⟩
  · rw [read, Journal.adds_of_perm (Journal.counts_perm balanced.journal), Journal.adds_flatMap]
    exact congrArg List.sum (List.map_congr_left fun m member =>
      ((balanced.members m member).traffic flow).symm)
  · simpa only [read] using balanced.squared.bytes
  · have own := balanced.members m member
    rw [funext own.traffic]
    exact own.squared.bytes
  · rw [← balanced.squared.denied]
    exact (read .denied).trans (Journal.adds_eq_count fun count => by cases count <;> rfl)
  · rw [← balanced.squared.ioErrors]
    exact (read .ioErrors).trans (Journal.adds_eq_count fun count => by cases count <;> rfl)
  · exact fun m member => Nat.le_trans (balanced.members m member).broken (Bool.toNat_le _)
  · intro m member clock operation turn transfers
    exact (Connection.step_perform (balanced.members m member).sound clock operation).reported
      transfers
  · intro place m found clock operation failure turn failed
    have own := balanced.members m (List.mem_of_getElem? found)
    obtain ⟨traffic, added⟩ :=
      (Connection.step_perform own.sound clock operation).unmoved failed
    refine ⟨traffic, fun flow => ?_⟩
    simp only [Company.step, found, Stats.read_record, added, add_zero]

end Company

end TimeServer
