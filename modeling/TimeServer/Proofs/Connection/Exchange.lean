import TimeServer.Proofs.Connection.Reception
import TimeServer.Proofs.Packet.Format

/-! # From one clock to another

A server sends the time of its own clock, and the receiver checks it against another one.  Both
clocks may stand anywhere, also before 1970 and past the last timestamp.

* `accepts_now_iff` — whether the reading of one clock is accepted at another, in seconds;
* `decode_atClock` — what the packet of one clock comes to at another;
* `served_iff` — when the packet gets out;
* `between_clocks` — the whole way.
-/

namespace TimeServer

/-- The reading of a clock is its seconds, kept within the range of a timestamp. -/
theorem toNat_atClock (c : Clock) :
    ((TimePacket.atClock c).timestamp.toNat : Int) = max 0 (min c.seconds (UInt32.size - 1)) :=
  c.toNat_now

/-- Both readings are kept within the range of a timestamp, the limit is not. -/
theorem accepts_now_iff (sender receiver : Clock) :
    accepts sender.now receiver.now ↔
      max 0 (min sender.seconds (UInt32.size - 1)) ≤
        max 0 (min receiver.seconds (UInt32.size - 1)) + 3600 := by
  have sent := toNat_atClock sender
  have received := toNat_atClock receiver
  simp only [TimePacket.atClock] at sent received
  rw [accepts, decide_eq_true_eq, acceptLimit, tolerance]
  omega

theorem decode_atClock (sender receiver : Clock) :
    decode (TimePacket.atClock sender).toWire receiver =
      if accepts sender.now receiver.now then .ok (.atClock sender)
      else .error (.invalid sender.now (acceptLimit receiver.now)) := by
  have read := TimePacket.ofBytes?_encode sender.now []
  rw [List.append_nil] at read
  simp only [decode, decodeAt, TimePacket.toWire, TimePacket.atClock, read]

namespace Connection

/-- A service gets the packet out just if the rules admit the client and the stream takes it. -/
theorem served_iff {c : Connection} (connected : c.connected) (held : c.held) (clock : Clock) :
    ((c.serve clock).result = .ok .served ↔
        c.rules.check c.client = .allow ∧ c.stream.Takes packetSize) ∧
      ((c.serve clock).result = .ok .served →
        (c.serve clock).connection.stream.accepted =
          c.stream.accepted ++ (TimePacket.atClock clock).toWire) := by
  have step := step_perform (fun _ => held) clock .serve
  have outcome : (c.perform clock .serve).result = .served .served ↔
      (c.serve clock).result = .ok .served := by
    simp only [perform]
    cases (c.serve clock).result <;> simp [Outcome.ofResult]
  by_cases allow : c.rules.check c.client = .allow
  · obtain ⟨delivered_iff, output⟩ := step.delivered_iff connected (fun _ => allow) rfl
    rw [Operation.delivered, outcome] at delivered_iff output
    exact ⟨by rw [delivered_iff, and_iff_right allow], output⟩
  · have denied := step.denied_iff.1.2 allow
    have unserved : (c.serve clock).result ≠ .ok .served := by
      intro served
      rw [← outcome, denied] at served
      cases served
    exact ⟨iff_of_false unserved fun admitted => allow admitted.1,
      fun served => absurd served unserved⟩

/-- The packet that a served client gets shows the seconds of the server's clock, kept within the
    range of a timestamp.  A receiver accepts it if those seconds are at most an hour ahead of its
    own, wherever the two clocks stand; in particular the server itself does.  If they are more than
    an hour ahead and both clocks stand within the range, it refuses the packet and tells both
    numbers.  A connection that the packet arrives on, in pieces or at once, gives that answer. -/
theorem between_clocks (sender receiver : Clock) (client : String) (rules : AccessRules)
    (stream : Stream) :
    let service := (establish client rules stream).connection.serve sender
    let packet := TimePacket.atClock sender
    (service.result = .ok .served ↔ rules.check client = .allow ∧ stream.Takes packetSize) ∧
    (service.result = .ok .served →
      service.connection.stream.accepted = stream.accepted ++ packet.toWire) ∧
    (packet.timestamp.toNat : Int) = max 0 (min sender.seconds (UInt32.size - 1)) ∧
    (sender.seconds ≤ receiver.seconds + 3600 → decode packet.toWire receiver = .ok packet) ∧
    (0 ≤ sender.seconds → sender.seconds < UInt32.size → 0 ≤ receiver.seconds →
      receiver.seconds < UInt32.size → receiver.seconds + 3600 < sender.seconds →
      ∃ (timestamp : UInt32) (limit : Nat),
        decode packet.toWire receiver = .error (.invalid timestamp limit) ∧
        (timestamp.toNat : Int) = sender.seconds ∧ (limit : Int) = receiver.seconds + 3600) ∧
    decode packet.toWire sender = .ok packet ∧
    (∀ (c : Connection) (rest : List UInt8), c.connected → c.held →
      c.stream.arriving = packet.toWire ++ rest →
      (c.perform receiver .receive).result = .ofDecoded (decode packet.toWire receiver)) := by
  intro service packet
  let arrival := (establish client rules stream).connection
  have connected : arrival.connected := rfl
  obtain ⟨served, output⟩ := served_iff connected rfl sender
  have shown : (packet.timestamp.toNat : Int) = max 0 (min sender.seconds (UInt32.size - 1)) :=
    toNat_atClock sender
  have accepted (receiver : Clock) (near : sender.seconds ≤ receiver.seconds + 3600) :
      decode packet.toWire receiver = .ok packet := by
    have accepts := (accepts_now_iff sender receiver).2 (by omega)
    rw [decode_atClock, if_pos accepts]
  refine ⟨served, output, shown, accepted receiver, ?_, accepted sender (by omega), ?_⟩
  · intro begun ended begun' ended' ahead
    have refused : ¬ accepts sender.now receiver.now := by
      rw [accepts_now_iff]
      omega
    have limit := toNat_atClock receiver
    refine ⟨packet.timestamp, acceptLimit receiver.now, ?_, by omega, ?_⟩
    · rw [decode_atClock, if_neg refused]
      rfl
    · simp only [TimePacket.atClock] at limit
      simp only [acceptLimit, tolerance]
      omega
  · intro c rest connected held arrives
    have enough : packetSize ≤ c.stream.arriving.length := by
      simp [arrives, TimePacket.toWire]
    have front : c.stream.arriving.take packetSize = packet.toWire := by
      rw [arrives]
      exact List.take_left' (length_encode _)
    rw [← front]
    exact (result_receive_of_le connected held enough receiver).1

end Connection

end TimeServer
