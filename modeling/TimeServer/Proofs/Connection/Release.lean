import TimeServer.Proofs.Stats

/-! # The release of a connection

A connection that is served and closed gives its stream up exactly once, and the whole visit of a
client sends it the time or nothing.

* `Stream.Takes`, `Stream.acceptsAll` — streams that take so many bytes, or whatever is sent;
* `sendAll_eq_sent_iff` — a send succeeds just on a stream that takes its bytes;
* `shutdowns_visit` — a visit shuts the stream down once;
* `accepted_visit_of_allow`, `calls_visit_of_refused` — what an admitted and a rejected client get.
-/

namespace TimeServer

/-! ## Streams that take what is sent -/

/-- The write call takes a byte at least, or is to be made again. -/
def WriteItem.proceeds : WriteItem → Bool
  | .accept limit => 0 < limit
  | .fail e => e.isInterrupted
  | .panic => false

/-- How many bytes the write call takes at most. -/
def WriteItem.capacity : WriteItem → Nat
  | .accept limit => limit
  | .fail _ | .panic => 0

/-- Every write call on the stream gets on and every flush succeeds. -/
def Stream.acceptsAll (s : Stream) : Bool :=
  s.writes.all WriteItem.proceeds && s.flushes.all Option.isNone

/-- The script lets so many bytes out: its calls get on until all are taken, or to its end. -/
def Writing.Admits (script : List WriteItem) (count : Nat) : Prop :=
  ∃ front rest, script = front ++ rest ∧ front.all WriteItem.proceeds ∧
    (rest = [] ∨ count ≤ (front.map WriteItem.capacity).sum)

/-- The stream takes so many bytes and the flush behind them succeeds. -/
def Stream.Takes (s : Stream) (count : Nat) : Prop :=
  Writing.Admits s.writes count ∧ s.flushes.head?.join = none

namespace Writing

theorem run_nothing (script : List WriteItem) : run script [] = ⟨.complete, [], [], script⟩ := by
  cases script <;> rfl

variable {script : List WriteItem} {unsent : List UInt8}

theorem accepted_of_complete (complete : (run script unsent).finish = .complete) :
    (run script unsent).accepted = unsent := by
  fun_induction run script unsent with
  | case1 | case2 => rfl
  | case3 | case6 | case7 => cases complete
  | case4 limit script unsent _ _ ih =>
    simp only [after] at complete ⊢
    rw [ih complete, List.take_append_drop]
  | case5 e script unsent _ _ ih => simpa [after] using ih complete

theorem admits_of_complete (complete : (run script unsent).finish = .complete) :
    Admits script unsent.length := by
  fun_induction run script unsent with
  | case1 script => exact ⟨[], script, rfl, rfl, .inr (Nat.zero_le _)⟩
  | case2 => exact ⟨[], [], rfl, rfl, .inl rfl⟩
  | case3 | case6 | case7 => cases complete
  | case4 limit script unsent _ nonzero ih =>
    obtain ⟨front, rest, rfl, proceeds, enough⟩ := ih complete
    have positive : 0 < limit := Nat.pos_of_ne_zero nonzero
    refine ⟨.accept limit :: front, rest, rfl, ?_, enough.imp_right fun enough => ?_⟩
    · simp [WriteItem.proceeds, positive, proceeds]
    · simp only [List.length_drop, List.map_cons, List.sum_cons, WriteItem.capacity] at enough ⊢
      omega
  | case5 e script unsent _ interrupted ih =>
    obtain ⟨front, rest, rfl, proceeds, enough⟩ := ih complete
    refine ⟨.fail e :: front, rest, rfl, ?_, enough.imp_right fun enough => ?_⟩
    · simp [WriteItem.proceeds, interrupted, proceeds]
    · simpa [WriteItem.capacity] using enough

theorem complete_of_admits (admits : Admits script unsent.length) :
    (run script unsent).finish = .complete := by
  obtain ⟨front, rest, rfl, proceeds, enough⟩ := admits
  induction front generalizing unsent with
  | nil =>
    obtain rfl | nothing := enough
    · cases unsent <;> rfl
    · obtain rfl := List.length_eq_zero_iff.1 (Nat.le_zero.1 nothing)
      rw [run_nothing]
  | cons item front ih =>
    simp only [List.all_cons, Bool.and_eq_true] at proceeds
    cases unsent with
    | nil => rw [run_nothing]
    | cons byte bytes =>
      cases item with
      | panic => cases proceeds.1
      | fail e =>
        have interrupted : e.isInterrupted := proceeds.1
        simp only [List.cons_append, run, interrupted, if_true]
        exact ih proceeds.2 (by simpa [WriteItem.capacity] using enough)
      | accept limit =>
        cases limit with
        | zero => cases proceeds.1
        | succ limit =>
          refine ih proceeds.2 (enough.imp_right fun enough => ?_)
          simp only [List.length_drop, List.map_cons, List.sum_cons, WriteItem.capacity] at enough ⊢
          omega

theorem shutdown_notMem_calls (script : List WriteItem) (unsent : List UInt8) :
    .shutdown ∉ (run script unsent).calls := by
  fun_induction run script unsent with
  | case4 | case5 => simp_all [after]
  | case1 | case2 | case3 | case6 | case7 => simp

end Writing

namespace Reading

theorem shutdown_notMem_calls (script : List ReadItem) (missing : Nat) :
    .shutdown ∉ (run script missing).calls := by
  fun_induction run script missing with
  | case4 | case6 => simp_all [after]
  | case1 | case2 | case3 | case5 | case7 => simp

end Reading

namespace Stream

theorem output_sendAll (s : Stream) (bytes : List UInt8) :
    (s.sendAll bytes).2.accepted = s.accepted ++ (Writing.run s.writes bytes).accepted ∧
      (s.sendAll bytes).2.writes = (Writing.run s.writes bytes).script := by
  simp only [sendAll, flush]
  cases (Writing.run s.writes bytes).finish with
  | complete => cases s.flushes.head?.join <;> exact ⟨rfl, rfl⟩
  | stalled | failed _ | panicked => exact ⟨rfl, rfl⟩

theorem sendAll_eq_sent_iff {s : Stream} {bytes : List UInt8} :
    (s.sendAll bytes).1 = .sent ↔ s.Takes bytes.length := by
  have complete_iff : (Writing.run s.writes bytes).finish = .complete ↔
      Writing.Admits s.writes bytes.length :=
    ⟨Writing.admits_of_complete, Writing.complete_of_admits⟩
  rw [Takes, ← complete_iff]
  simp only [sendAll, flush]
  cases (Writing.run s.writes bytes).finish with
  | complete => cases s.flushes.head?.join <;> simp
  | stalled | failed _ | panicked => simp

theorem accepted_of_sent {s : Stream} {bytes : List UInt8} (sent : (s.sendAll bytes).1 = .sent) :
    (s.sendAll bytes).2.accepted = s.accepted ++ bytes := by
  have complete := Writing.complete_of_admits (sendAll_eq_sent_iff.1 sent).1
  rw [(output_sendAll s bytes).1, Writing.accepted_of_complete complete]

theorem takes_of_acceptsAll {s : Stream} (all : s.acceptsAll) (count : Nat) : s.Takes count := by
  simp only [acceptsAll, Bool.and_eq_true] at all
  refine ⟨⟨s.writes, [], (List.append_nil _).symm, all.1, .inl rfl⟩, ?_⟩
  cases flushes : s.flushes with
  | nil => rfl
  | cons first rest => simp_all

theorem sendAll_of_acceptsAll (s : Stream) (bytes : List UInt8) (all : s.acceptsAll) :
    (s.sendAll bytes).1 = .sent ∧ (s.sendAll bytes).2.accepted = s.accepted ++ bytes := by
  have sent := sendAll_eq_sent_iff.2 (takes_of_acceptsAll all bytes.length)
  exact ⟨sent, accepted_of_sent sent⟩

/-- The calls of a send: the writes, and one flush after them if every byte was accepted. -/
theorem calls_sendAll (s : Stream) (bytes : List UInt8) :
    (s.sendAll bytes).2.calls = s.calls ++ (Writing.run s.writes bytes).calls ++
      if (Writing.run s.writes bytes).finish = .complete then [.flush] else [] := by
  simp only [sendAll, flush]
  cases finish : (Writing.run s.writes bytes).finish with
  | complete => cases s.flushes.head?.join <;> simp
  | stalled | failed _ | panicked => simp

@[simp] theorem shutdowns_sendAll (s : Stream) (bytes : List UInt8) :
    (s.sendAll bytes).2.shutdowns = s.shutdowns := by
  have absent : (Writing.run s.writes bytes).calls.count .shutdown = 0 :=
    List.count_eq_zero.2 (Writing.shutdown_notMem_calls s.writes bytes)
  simp only [shutdowns, calls_sendAll, List.count_append, absent]
  split <;> simp

@[simp] theorem shutdowns_receiveAll (s : Stream) (count : Nat) :
    (s.receiveAll count).2.2.shutdowns = s.shutdowns := by
  have absent : (Reading.run s.reads count).calls.count .shutdown = 0 :=
    List.count_eq_zero.2 (Reading.shutdown_notMem_calls s.reads count)
  simp [shutdowns, receiveAll, absent]

end Stream

namespace Connection

/-! ## Closing -/

theorem close_of_released {c : Connection} (released : c.held = false) :
    c.close = ⟨(), c, []⟩ := by
  simp [close, released]

@[simp] theorem held_close (c : Connection) : c.close.connection.held = false := by
  unfold close
  split
  · rfl
  · simp_all

@[simp] theorem accepted_close (c : Connection) :
    c.close.connection.stream.accepted = c.stream.accepted := by
  unfold close
  split <;> rfl

theorem calls_close {c : Connection} (held : c.held) :
    c.close.connection.stream.calls = c.stream.calls ++ [.shutdown] := by
  simp [close, held, Stream.shutdown]

/-- Closing tells of a shutdown that failed, if there is one to tell of, and then of the traffic. -/
theorem journal_close {c : Connection} (held : c.held) : ∃ trouble : Option IoError,
    c.close.journal = (trouble.toList.map fun e => .note (.shutdownFailed c.client e)) ++
      [.note (.closed c.client c.traffic)] := by
  simp only [close, held, if_true, Stream.shutdown]
  cases c.stream.shutdownError with
  | none => exact ⟨none, rfl⟩
  | some e =>
    -- A peer that is already gone is no trouble.
    by_cases gone : e.kind = .notConnected
    · exact ⟨none, by simp [gone]⟩
    · exact ⟨some e, by simp [gone]⟩

theorem quiet_close (c : Connection) : Journal.Quiet c.close.journal := by
  cases held : c.held with
  | true => obtain ⟨_ | e, journal⟩ := journal_close held <;> simp [journal, Journal.Quiet]
  | false => simp [close_of_released held, Journal.Quiet]

/-! ## Serving -/

/-- Sending leaves the stream with its owner, and opens and finishes no connection. -/
theorem sendPacket_frame (c : Connection) (packet : TimePacket) (clock : Clock) :
    (c.sendPacket packet clock).connection.held = c.held ∧
      Journal.Quiet (c.sendPacket packet clock).journal := by
  unfold sendPacket
  split
  · simp [Journal.Quiet]
  · split
    · simp [Journal.Quiet, fail]
    · -- A panic leaves no entry at all, and the other ends count bytes or failures.
      cases finish : (c.stream.sendAll packet.toWire).1 <;> simp [Journal.Quiet, fail, finish]

theorem stream_sendPacket {c : Connection} (connected : c.connected) (held : c.held)
    (packet : TimePacket) (clock : Clock) :
    (c.sendPacket packet clock).connection.stream = (c.stream.sendAll packet.toWire).2 := by
  cases finish : (c.stream.sendAll packet.toWire).1 <;>
    simp [sendPacket, connected, held, fail, finish]

theorem quiet_serve (c : Connection) (clock : Clock) :
    Journal.Quiet (c.serve clock).journal := by
  unfold serve
  split
  · exact (sendPacket_frame c _ clock).2
  · apply Journal.Quiet.append _ (quiet_close c)
    simp [Journal.Quiet]

theorem serve_of_allow {c : Connection} (allow : c.rules.check c.client = .allow)
    (clock : Clock) :
    (c.serve clock).connection = (c.sendPacket (.atClock clock) clock).connection := by
  simp [serve, allow]

theorem serve_of_refused {c : Connection} (refused : c.rules.check c.client ≠ .allow)
    (clock : Clock) : (c.serve clock).connection = c.close.connection := by
  unfold serve
  split
  · contradiction
  · rfl

/-! ## Visits -/

section Visit

variable {client : String} {rules : AccessRules} {stream : Stream} {clock : Clock}

theorem shutdowns_visit :
    (visit client rules stream clock).connection.stream.shutdowns = stream.shutdowns + 1 := by
  let c := (establish client rules stream).connection
  change (c.serve clock).connection.close.connection.stream.shutdowns = c.stream.shutdowns + 1
  by_cases allow : c.rules.check c.client = .allow
  · have held : (c.serve clock).connection.held := by
      rw [serve_of_allow allow, (sendPacket_frame c _ clock).1]
      rfl
    have sent : (c.serve clock).connection.stream.shutdowns = c.stream.shutdowns := by
      rw [serve_of_allow allow, stream_sendPacket rfl rfl, Stream.shutdowns_sendAll]
    rw [Stream.shutdowns, calls_close held, List.count_append, ← sent]
    rfl
  · -- A client that is turned away is closed by the service itself.
    rw [serve_of_refused allow, close_of_released (held_close c), Stream.shutdowns, calls_close rfl]
    simp [Stream.shutdowns]

theorem accepted_visit_of_allow (allow : rules.check client = .allow) (all : stream.acceptsAll) :
    (visit client rules stream clock).connection.stream.accepted =
      stream.accepted ++ encode clock.now := by
  let c := (establish client rules stream).connection
  change (c.serve clock).connection.close.connection.stream.accepted = c.stream.accepted ++ _
  rw [accepted_close, serve_of_allow allow, stream_sendPacket rfl rfl]
  exact (Stream.sendAll_of_acceptsAll stream _ all).2

/-- A rejected client gets nothing: its stream is shut down and not used otherwise. -/
theorem calls_visit_of_refused (refused : rules.check client ≠ .allow) :
    (visit client rules stream clock).connection.stream.accepted = stream.accepted ∧
      (visit client rules stream clock).connection.stream.calls = stream.calls ++ [.shutdown] := by
  let c := (establish client rules stream).connection
  change (c.serve clock).connection.close.connection.stream.accepted = c.stream.accepted ∧
    (c.serve clock).connection.close.connection.stream.calls = c.stream.calls ++ [.shutdown]
  rw [serve_of_refused refused, close_of_released (held_close c), accepted_close, calls_close rfl]
  exact ⟨rfl, rfl⟩

end Visit

end Connection

end TimeServer
