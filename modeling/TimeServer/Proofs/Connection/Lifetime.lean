import TimeServer.Proofs.Connection.Operation

/-! # The life of a connection

A connection is open, then perhaps cut off, and then released.  It never goes back.

* `Notice.isSummary` — the report that closes the books of a connection, told by its level and text;
* `Outcome.releases` — the outcomes of operations that give the stream up;
* `Step.lived` — what one operation does to the stream, to the traffic and to the observer;
* `lived_performAll` — the same for a sequence of operations;
* `released_once` — the whole life, up to the drop.
-/

namespace TimeServer

/-! ## Reports -/

/-- The report of what went over a connection. -/
def Notice.isSummary (notice : Notice) : Bool :=
  notice.level = .info && "closed connection".toList.isPrefixOf notice.text.toList

theorem head_of_front (literal : String) {rest : String} {first : Char} {more : List Char}
    (begins : literal.toList = first :: more)
    (front : "closed connection".toList <+: (literal ++ rest).toList) : first = 'c' := by
  rw [String.toList_append, begins] at front
  exact (List.cons_prefix_cons.1 front).1.symm

theorem Notice.isSummary_iff {notice : Notice} :
    notice.isSummary ↔ ∃ client traffic, notice = .closed client traffic := by
  simp only [isSummary, Bool.and_eq_true, decide_eq_true_eq, List.isPrefixOf_iff_prefix]
  constructor
  · rintro ⟨level, front⟩
    cases notice with
    | closed client traffic => exact ⟨client, traffic, rfl⟩
    | accepted client =>
      exact absurd (head_of_front "accepted connection from " rfl front) (by decide)
    | listening address workers stratum referenceId =>
      unfold text at front
      simp only [String.append_assoc] at front
      exact absurd (head_of_front "time server listening on " rfl front) (by decide)
    | stopping => exact absurd front (by decide)
    | stopped total packetsSent =>
      unfold text at front
      simp only [String.append_assoc] at front
      exact absurd (head_of_front "time server stopped: " rfl front) (by decide)
    | refused | sent | received | transferFailed | peerClosed | shutdownFailed | recovered
    | workerExiting | acceptFailed | cannotDrain | timeoutsFailed | acceptLoopExiting | startFailed
    | wakeFailed | alreadyClosed => cases level
  · rintro ⟨client, traffic, rfl⟩
    refine ⟨rfl, ?_⟩
    unfold text
    simp only [String.append_assoc, String.toList_append]
    exact (List.prefix_append "closed connection".toList " from ".toList).trans
      (List.prefix_append _ _)

@[simp] theorem Notice.isSummary_closed (client : String) (traffic : Traffic) :
    (closed client traffic).isSummary = true :=
  isSummary_iff.2 ⟨client, traffic, rfl⟩

theorem Notice.isSummary_eq_false (notice : Notice)
    (other : ∀ client traffic, notice ≠ .closed client traffic) : notice.isSummary = false := by
  rw [Bool.eq_false_iff, ne_eq, isSummary_iff]
  rintro ⟨client, traffic, same⟩
  exact other client traffic same

/-- The reports of connections in a journal. -/
def Journal.summaries (journal : Journal) : List Notice := journal.notices.filter Notice.isSummary

@[simp] theorem Journal.summaries_append (first second : Journal) :
    summaries (first ++ second) = summaries first ++ summaries second := by
  simp [summaries]

/-- The operation gave the stream up, if it was still held. -/
def Outcome.releases : Outcome → Bool
  | .served .denied | .closed => true
  | _ => false

namespace Connection

theorem close_of_held {c : Connection} (held : c.held) :
    c.close.connection.traffic = c.traffic ∧ c.close.connection.client = c.client ∧
      c.close.connection.stream.shutdowns = c.stream.shutdowns + 1 ∧
      c.close.journal.summaries = [.closed c.client c.traffic] := by
  have quiet : ∀ e, (Notice.shutdownFailed c.client e).isSummary = false :=
    fun e => Notice.isSummary_eq_false _ nofun
  refine ⟨by simp [close, held], by simp [close, held],
    by simp [Stream.shutdowns, calls_close held], ?_⟩
  obtain ⟨_ | e, journal⟩ := journal_close held <;> simp [journal, Journal.summaries, quiet]

/-- What a connection that came of another by operations with these outcomes has been through. -/
structure Lived (c : Connection) (releases : Bool) (c' : Connection) (journal : Journal) :
    Prop where
  client : c'.client = c.client
  /-- The stream is held until an operation releases it. -/
  held : c'.held = (c.held && !releases)
  /-- The release shuts the stream down, and nothing else does. -/
  shutdowns : c'.stream.shutdowns = c.stream.shutdowns + (c.held && releases).toNat
  /-- The release reports the traffic. -/
  summaries : journal.summaries = if c.held && releases then [.closed c.client c'.traffic] else []
  /-- Once the stream is released nothing goes over it. -/
  settled : c.held = false → c'.traffic = c.traffic
  /-- Nothing is tried on a stream that is not there. -/
  present : ∀ direction client, .transferFailed direction client .notConnected ∉ journal.notices
  /-- A connection that is cut off stays so, and its stream is only shut down. -/
  cutOff : c.connected = false → c'.connected = false ∧
    ∃ calls, c'.stream.calls = c.stream.calls ++ calls ∧ ∀ call ∈ calls, call = .shutdown

variable {c : Connection} {clock : Clock} {operation : Operation} {turn : Turn Outcome}

theorem lived_close (sound : c.Sound) : c.Lived true c.close.connection c.close.journal := by
  cases held : c.held with
  | true =>
    obtain ⟨traffic, client, shutdowns, summaries⟩ := close_of_held held
    have present : ∀ direction client,
        .transferFailed direction client .notConnected ∉ c.close.journal.notices := by
      obtain ⟨_ | e, journal⟩ := journal_close held <;> simp [journal]
    exact ⟨client, by simp, by simpa [held] using shutdowns,
      by simpa [held, traffic] using summaries,
      fun released => by simp [held] at released, present,
      fun _ => ⟨connected_close sound, [.shutdown], calls_close held, by simp⟩⟩
  | false =>
    rw [close_of_released held]
    exact ⟨rfl, by simp [held], by simp [held], by simp [held, Journal.summaries], fun _ => rfl,
      by simp, fun shut => ⟨shut, [], by simp, by simp⟩⟩

/-- An operation that leaves the stream with its owner and reports no traffic as final. -/
theorem lived_of_held {c' : Connection} {journal : Journal} (client : c'.client = c.client)
    (held : c'.held = c.held) (shutdowns : c'.stream.shutdowns = c.stream.shutdowns)
    (summaries : journal.summaries = []) (live : c.connected ∧ c.held)
    (present : ∀ direction client,
      .transferFailed direction client .notConnected ∉ journal.notices) :
    c.Lived false c' journal where
  client := client
  held := by simp [held]
  shutdowns := by simp [shutdowns]
  summaries := by simp [summaries]
  settled released := by simp [live.2] at released
  present := present
  cutOff shut := by simp [live.1] at shut

theorem Step.lived (step : Step c clock operation turn) (sound : c.Sound) :
    c.Lived turn.result.releases turn.connection turn.journal := by
  have quiet : ∀ notice : Notice, (∀ client traffic, notice ≠ .closed client traffic) →
      notice.isSummary = false := Notice.isSummary_eq_false
  cases step with
  | denied refused =>
    have closed := lived_close sound
    exact { closed with
      summaries := by
        have verdict := quiet (.refused c.client (c.rules.check c.client)) nofun
        refine .trans ?_ closed.summaries
        simp [Journal.summaries, verdict]
      present := fun direction client => by simpa using closed.present direction client }
  | closed => exact lived_close sound
  | shut transfers admits shut =>
    refine ⟨rfl, by simp [Outcome.releases], by simp [Outcome.releases],
      by simp [Outcome.releases, Journal.summaries], fun _ => rfl, by simp,
      fun _ => ⟨shut, [], by simp, by simp⟩⟩
  | @sent _ packet stream sends admits connected held written =>
    have outcome : operation.delivered.releases = false := by cases operation <;> rfl
    have same := c.stream.shutdowns_sendAll packet.toWire
    rw [written] at same
    rw [outcome]
    exact lived_of_held rfl rfl same (by simp [Journal.summaries, quiet]) ⟨connected, held⟩
      (by simp)
  | @brokeOff _ packet finish stream error sends admits connected held written stopped =>
    have same := c.stream.shutdowns_sendAll packet.toWire
    rw [written] at same
    have cause : error ≠ .notConnected := by
      cases finish <;> cases stopped <;> nofun
    exact lived_of_held rfl rfl same (by simp [Journal.summaries, quiet]) ⟨connected, held⟩
      (by simp [cause.symm])
  | @panicked _ packet stream sends admits connected held written =>
    have same := c.stream.shutdowns_sendAll packet.toWire
    rw [written] at same
    exact lived_of_held rfl rfl same (by simp [Journal.summaries]) ⟨connected, held⟩ (by simp)
  | received connected held read | rejected connected held read | peerClosed connected held read
  | unread connected held read =>
    have same := c.stream.shutdowns_receiveAll packetSize
    rw [read] at same
    exact lived_of_held rfl rfl same (by simp [Journal.summaries, quiet]) ⟨connected, held⟩
      (by simp)

/-! ## Sequences of operations -/

theorem Lived.trans {first second : Bool} {middle last : Connection} {journal later : Journal}
    (before : c.Lived first middle journal) (after : middle.Lived second last later) :
    c.Lived (first || second) last (journal ++ later) where
  client := after.client.trans before.client
  held := by
    rw [after.held, before.held]
    cases c.held <;> cases first <;> cases second <;> rfl
  shutdowns := by
    rw [after.shutdowns, before.shutdowns, before.held]
    cases c.held <;> cases first <;> cases second <;> rfl
  summaries := by
    have settled := after.settled
    rw [Journal.summaries_append, after.summaries, before.summaries, before.client, before.held]
    rw [before.held] at settled
    -- The traffic that the first part reports is also the last, since nothing follows.
    cases c.held <;> cases first <;> cases second <;> simp_all
  settled released := by
    rw [after.settled, before.settled released]
    simp [before.held, released]
  present direction client := by
    rw [Journal.notices_append, List.mem_append, not_or]
    exact ⟨before.present direction client, after.present direction client⟩
  cutOff shut := by
    obtain ⟨shut', calls, made, only⟩ := before.cutOff shut
    obtain ⟨shut'', more, made', only'⟩ := after.cutOff shut'
    refine ⟨shut'', calls ++ more, by rw [made', made, List.append_assoc], fun call member => ?_⟩
    exact (List.mem_append.1 member).elim (only call) (only' call)

theorem lived_performAll (sound : c.Sound) (steps : List (Clock × Operation)) :
    c.Lived ((c.performAll steps).result.any Outcome.releases) (c.performAll steps).connection
      (c.performAll steps).journal := by
  induction steps generalizing c with
  | nil =>
    exact ⟨rfl, by simp [performAll], by simp [performAll], by simp [performAll, Journal.summaries],
      fun _ => rfl, by simp [performAll], fun shut => ⟨shut, [], by simp [performAll], by simp⟩⟩
  | cons step steps ih =>
    have first := step_perform sound step.1 step.2
    exact (first.lived sound).trans (ih (first.sound sound))

/-- The whole life of a connection, whatever is done with it before it is dropped, seen after some
    of the operations and at the end.  Connected means that the stream is held, so no transfer finds
    it gone; a connection that is cut off stays so, and nothing is read, written or flushed any
    more; the stream is shut down by the first operation that releases it, or else by the drop, and
    never again; and then the traffic is reported, once, as it is at that time and for ever. -/
theorem released_once (client : String) (rules : AccessRules) (stream : Stream)
    (steps later : List (Clock × Operation)) :
    let arrival := establish client rules stream
    let run := arrival.connection.performAll steps
    let rest := run.connection.performAll later
    let drop := rest.connection.close
    let life := arrival.journal ++ run.journal ++ rest.journal ++ drop.journal
    (run.connection.connected → run.connection.held) ∧
    (∀ direction name, .transferFailed direction name .notConnected ∉ life.notices) ∧
    (run.connection.connected = false → rest.connection.connected = false ∧
      ∃ calls, drop.connection.stream.calls = run.connection.stream.calls ++ calls ∧
        ∀ call ∈ calls, call = .shutdown) ∧
    (run.connection.stream.shutdowns =
      stream.shutdowns + (run.result.any Outcome.releases).toNat) ∧
    drop.connection.stream.shutdowns = stream.shutdowns + 1 ∧
    (arrival.journal ++ run.journal).summaries =
      (if run.result.any Outcome.releases then [.closed client run.connection.traffic] else []) ∧
    (run.result.any Outcome.releases → drop.connection.traffic = run.connection.traffic) ∧
    life.summaries = [.closed client drop.connection.traffic] := by
  intro arrival run rest drop life
  have sound : arrival.connection.Sound := sound_establish client rules stream
  have sound' : run.connection.Sound := sound_performAll sound steps
  have sound'' : rest.connection.Sound := sound_performAll sound' later
  have before : arrival.connection.Lived (run.result.any Outcome.releases) run.connection
      run.journal := lived_performAll sound steps
  have after : run.connection.Lived (rest.result.any Outcome.releases || true) drop.connection
      (rest.journal ++ drop.journal) :=
    (lived_performAll sound' later).trans (lived_close sound'')
  have whole := before.trans after
  have announced : arrival.journal.summaries = [] := by
    have accepted := Notice.isSummary_eq_false (.accepted client) nofun
    simp [arrival, establish, Journal.summaries, accepted]
  have life_eq : life = arrival.journal ++ (run.journal ++ (rest.journal ++ drop.journal)) := by
    simp only [life, List.append_assoc]
  refine ⟨sound', fun direction name => ?_, fun shut => ⟨?_, (after.cutOff shut).2⟩, ?_, ?_, ?_,
    fun released => ?_, ?_⟩
  · rw [life_eq, Journal.notices_append, List.mem_append, not_or]
    exact ⟨by simp [arrival, establish], whole.present direction name⟩
  · exact shut_performAll sound' shut later
  · exact before.shutdowns
  · simpa [arrival, establish] using whole.shutdowns
  · rw [Journal.summaries_append, announced]
    exact before.summaries
  · exact after.settled (by rw [before.held, released, Bool.not_true, Bool.and_false])
  · rw [life_eq, Journal.summaries_append, announced, whole.summaries]
    simp [arrival, establish]

end Connection

end TimeServer
