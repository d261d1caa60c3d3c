import TimeServer.Connection.Session
import TimeServer.Proofs.Connection.Release

/-! # What the operations on a connection do

* `Connection.Step` — the operations as a relation, one case for each way that one can end;
* `step_perform` — there are no others;
* `Step.sound`, `Step.of_shut` — a connected connection holds its stream, and one that is no longer
  connected sends and receives nothing;
* `performAll_append` — sequences of operations one after another.
-/

namespace TimeServer

/-- The packet that an operation sends, if it gets to send one. -/
def Operation.packet? (clock : Clock) : Operation → Option TimePacket
  | .serve => some (.atClock clock)
  | .send packet => some packet
  | .receive | .close => none

/-- What an operation gives whose packet was sent. -/
def Operation.delivered : Operation → Outcome
  | .serve => .served .served
  | .send _ | .receive | .close => .sent packetSize

/-- Why a packet could not be sent, if the stream says so. -/
def SendEnd.error? (total : Nat) : SendEnd → Option ConnectionError
  | .stalled written => some (.writeZero written total)
  | .failed e => some (.io e)
  | .sent | .panicked => none

/-- The traffic with one more packet sent. -/
def Traffic.sendOne (t : Traffic) : Traffic :=
  { t with packetsSent := t.packetsSent + 1, bytesSent := t.bytesSent + UInt64.ofNat packetSize }

/-- The traffic with one more packet received, in so many bytes. -/
def Traffic.receiveOne (t : Traffic) (bytes : Nat) : Traffic :=
  { t with
    packetsReceived := t.packetsReceived + 1
    bytesReceived := t.bytesReceived + UInt64.ofNat bytes }

namespace Connection

/-- The rules do not turn the client away before the operation gets to the stream. -/
def Admits (c : Connection) (operation : Operation) : Prop :=
  operation = .serve → c.rules.check c.client = .allow

/-- The operations on a connection: what each gives, the connection after it, and what it leaves
    behind. -/
inductive Step (c : Connection) (clock : Clock) : Operation → Turn Outcome → Prop
  | denied (refused : c.rules.check c.client ≠ .allow) :
      Step c clock .serve
        ⟨.served .denied, c.close.connection,
          [.note (.refused c.client (c.rules.check c.client)), .count .denied] ++ c.close.journal⟩
  | closed : Step c clock .close ⟨.closed, c.close.connection, c.close.journal⟩
  | shut {operation : Operation} (transfers : operation ≠ .close) (admits : c.Admits operation)
      (shut : c.connected = false) :
      Step c clock operation ⟨.failed (.error .notConnected), c, []⟩
  | sent {operation : Operation} {packet : TimePacket} {stream : Stream}
      (sends : operation.packet? clock = some packet) (admits : c.Admits operation)
      (connected : c.connected) (held : c.held)
      (written : c.stream.sendAll packet.toWire = (.sent, stream)) :
      Step c clock operation
        ⟨operation.delivered, { c with stream, traffic := c.traffic.sendOne },
          [.count (.sent (UInt64.ofNat packetSize)), .note (.sent packet clock c.client)]⟩
  | brokeOff {operation : Operation} {packet : TimePacket} {finish : SendEnd} {stream : Stream}
      {error : ConnectionError} (sends : operation.packet? clock = some packet)
      (admits : c.Admits operation) (connected : c.connected) (held : c.held)
      (written : c.stream.sendAll packet.toWire = (finish, stream))
      (stopped : finish.error? packetSize = some error) :
      Step c clock operation
        ⟨.failed (.error error), { c with stream, connected := false },
          [.count .ioError, .note (.transferFailed .send c.client error)]⟩
  | panicked {operation : Operation} {packet : TimePacket} {stream : Stream}
      (sends : operation.packet? clock = some packet) (admits : c.Admits operation)
      (connected : c.connected) (held : c.held)
      (written : c.stream.sendAll packet.toWire = (.panicked, stream)) :
      Step c clock operation ⟨.failed .panic, { c with stream }, []⟩
  | received {bytes : List UInt8} {stream : Stream} {packet : TimePacket}
      (connected : c.connected) (held : c.held)
      (read : c.stream.receiveAll packetSize = (.complete, bytes, stream))
      (decoded : decode bytes clock = .ok packet) :
      Step c clock .receive
        ⟨.received packet, { c with stream, traffic := c.traffic.receiveOne bytes.length },
          [.count (.received (UInt64.ofNat bytes.length)), .note (.received packet clock c.client)]⟩
  | rejected {bytes : List UInt8} {stream : Stream} {error : DecodeError}
      (connected : c.connected) (held : c.held)
      (read : c.stream.receiveAll packetSize = (.complete, bytes, stream))
      (decoded : decode bytes clock = .error error) :
      Step c clock .receive ⟨.failed (.error (.decode error)), { c with stream }, []⟩
  | peerClosed {bytes : List UInt8} {stream : Stream} (connected : c.connected) (held : c.held)
      (read : c.stream.receiveAll packetSize = (.closed, bytes, stream)) :
      Step c clock .receive
        ⟨.failed (.error .peerClosed), { c with stream, connected := false },
          [.note (.peerClosed c.client)]⟩
  | unread {bytes : List UInt8} {stream : Stream} {error : IoError} (connected : c.connected)
      (held : c.held) (read : c.stream.receiveAll packetSize = (.failed error, bytes, stream)) :
      Step c clock .receive
        ⟨.failed (.error (.io error)), { c with stream, connected := false },
          [.count .ioError, .note (.transferFailed .receive c.client (.io error))]⟩

/-- A connected connection holds its stream. -/
def Sound (c : Connection) : Prop := c.connected → c.held

variable {c : Connection} {clock : Clock} {operation : Operation} {turn : Turn Outcome}

/-! ## There are no other steps -/

theorem step_of_send {packet : TimePacket} (sound : c.Sound) (clock : Clock)
    (operation : Operation) (sends : operation.packet? clock = some packet)
    (admits : c.Admits operation) (outcome : Nat → Outcome)
    (delivers : outcome packetSize = operation.delivered) :
    Step c clock operation
      ⟨.ofResult outcome (c.sendPacket packet clock).result,
        (c.sendPacket packet clock).connection, (c.sendPacket packet clock).journal⟩ := by
  have transfers : operation ≠ .close := by
    rintro rfl
    cases sends
  obtain ⟨client, rules, stream, held, connected, traffic⟩ := c
  cases connected with
  | false => exact .shut transfers admits rfl
  | true =>
    obtain rfl : held = true := sound rfl
    rcases written : stream.sendAll packet.toWire with ⟨finish, after⟩
    cases finish with
    | sent =>
      have step := Step.sent sends admits rfl rfl written
      rw [← delivers] at step
      simp only [sendPacket, written]
      exact step
    | stalled count =>
      simp only [sendPacket, written]
      exact .brokeOff sends admits rfl rfl written rfl
    | failed e =>
      simp only [sendPacket, written]
      exact .brokeOff sends admits rfl rfl written rfl
    | panicked =>
      simp only [sendPacket, written]
      exact .panicked sends admits rfl rfl written

theorem step_of_receive (sound : c.Sound) (clock : Clock) :
    Step c clock .receive (c.perform clock .receive) := by
  obtain ⟨client, rules, stream, held, connected, traffic⟩ := c
  cases connected with
  | false => exact .shut nofun nofun rfl
  | true =>
    obtain rfl : held = true := sound rfl
    rcases read : stream.receiveAll packetSize with ⟨finish, bytes, after⟩
    cases finish with
    | complete =>
      cases decoded : decode bytes clock with
      | error e =>
        simp only [perform, receivePacket, read, decoded]
        exact .rejected rfl rfl read decoded
      | ok packet =>
        simp only [perform, receivePacket, read, decoded]
        exact .received rfl rfl read decoded
    | closed =>
      simp only [perform, receivePacket, read]
      exact .peerClosed rfl rfl read
    | failed e =>
      simp only [perform, receivePacket, read]
      exact .unread rfl rfl read

theorem step_perform (sound : c.Sound) (clock : Clock) (operation : Operation) :
    Step c clock operation (c.perform clock operation) := by
  cases operation with
  | serve =>
    by_cases allow : c.rules.check c.client = .allow
    · have step := step_of_send sound clock .serve rfl (fun _ => allow)
        (fun _ => .served .served) rfl
      have mapped : ∀ result : Except Failure Nat,
          Outcome.ofResult .served (result.map fun _ => Service.served) =
            .ofResult (fun _ => .served .served) result := by
        rintro (_ | _) <;> rfl
      simpa only [perform, serve, allow, mapped] using step
    · have turned : c.serve clock =
          ⟨.ok .denied, c.close.connection,
            [.note (.refused c.client (c.rules.check c.client)), .count .denied] ++
              c.close.journal⟩ := by
        cases verdict : c.rules.check c.client with
        | allow => exact absurd verdict allow
        | deny | restrict => simp only [serve, verdict]
      simp only [perform, turned, Outcome.ofResult]
      exact .denied allow
  | send packet =>
    have admits : c.Admits (.send packet) := by
      intro serves
      cases serves
    exact step_of_send sound clock (.send packet) rfl admits .sent rfl
  | receive => exact step_of_receive sound clock
  | close => exact .closed

/-! ## Connected and shut connections -/

theorem sound_close (c : Connection) (sound : c.Sound) : c.close.connection.Sound := by
  unfold close
  split
  · intro connected
    cases connected
  · exact sound

theorem connected_close (sound : c.Sound) : c.close.connection.connected = false := by
  unfold close
  split
  · rfl
  · rename_i released
    exact Bool.eq_false_iff.2 fun connected => released (sound connected)

theorem sound_establish (client : String) (rules : AccessRules) (stream : Stream) :
    (establish client rules stream).connection.Sound := fun _ => rfl

theorem Step.sound (step : Step c clock operation turn) (sound : c.Sound) :
    turn.connection.Sound := by
  cases step with
  | denied | closed => exact sound_close c sound
  | shut => exact sound
  | brokeOff | peerClosed | unread => exact nofun
  | sent _ _ _ held | panicked _ _ _ held => exact fun _ => held
  | received _ held | rejected _ held => exact fun _ => held

/-- A connection that is no longer connected stays so, and nothing more is accepted from it. -/
theorem Step.of_shut (step : Step c clock operation turn) (sound : c.Sound)
    (shut : c.connected = false) :
    turn.connection.connected = false ∧
      turn.connection.stream.accepted = c.stream.accepted := by
  cases step with
  | denied | closed => exact ⟨connected_close sound, accepted_close c⟩
  | shut => exact ⟨shut, rfl⟩
  | sent _ _ connected | brokeOff _ _ connected | panicked _ _ connected | received connected
  | rejected connected | peerClosed connected | unread connected =>
    rw [shut] at connected
    cases connected

/-- A service turns the client away just if the rules do, and then it sends nothing. -/
theorem Step.denied_iff (step : Step c clock .serve turn) :
    (turn.result = .served .denied ↔ c.rules.check c.client ≠ .allow) ∧
      (turn.result = .served .denied →
        turn.connection.stream.accepted = c.stream.accepted) := by
  cases step with
  | denied refused => exact ⟨iff_of_true rfl refused, fun _ => accepted_close c⟩
  | shut _ admits | sent _ admits | brokeOff _ admits | panicked _ admits =>
    exact ⟨iff_of_false nofun (not_not_intro (admits rfl)), nofun⟩

/-- On a connected connection a packet that is admitted goes out just if the stream takes it. -/
theorem Step.delivered_iff (step : Step c clock operation turn) (connected : c.connected)
    (admits : c.Admits operation) {packet : TimePacket}
    (sends : operation.packet? clock = some packet) :
    (turn.result = operation.delivered ↔ c.stream.Takes packetSize) ∧
      (turn.result = operation.delivered →
        turn.connection.stream.accepted = c.stream.accepted ++ packet.toWire) := by
  have sent_iff : (c.stream.sendAll packet.toWire).1 = .sent ↔ c.stream.Takes packetSize :=
    Stream.sendAll_eq_sent_iff
  have undelivered : ∀ failure, .failed failure ≠ operation.delivered := by
    cases operation <;> exact nofun
  cases step with
  | denied refused => exact absurd (admits rfl) refused
  | shut _ _ shut =>
    rw [shut] at connected
    cases connected
  | sent sends' _ _ _ written =>
    cases sends.symm.trans sends'
    have whole := Stream.accepted_of_sent (congrArg Prod.fst written)
    rw [written] at sent_iff whole
    exact ⟨iff_of_true rfl (sent_iff.1 rfl), fun _ => whole⟩
  | @brokeOff _ _ finish _ _ sends' _ _ _ written stopped =>
    cases sends.symm.trans sends'
    rw [written] at sent_iff
    have unsent : finish ≠ .sent := by
      rintro rfl
      cases stopped
    exact ⟨iff_of_false (undelivered _) (mt sent_iff.2 unsent),
      fun delivered => absurd delivered (undelivered _)⟩
  | panicked sends' _ _ _ written =>
    cases sends.symm.trans sends'
    rw [written] at sent_iff
    exact ⟨iff_of_false (undelivered _) (mt sent_iff.2 nofun),
      fun delivered => absurd delivered (undelivered _)⟩
  | closed | received | rejected | peerClosed | unread => cases sends

/-- On a connected connection whose stream takes everything, a packet that is admitted goes out. -/
theorem Step.delivered (step : Step c clock operation turn) (connected : c.connected)
    (admits : c.Admits operation) {packet : TimePacket}
    (sends : operation.packet? clock = some packet) (all : c.stream.acceptsAll) :
    turn.result = operation.delivered ∧
      turn.connection.stream.accepted = c.stream.accepted ++ packet.toWire := by
  obtain ⟨delivered_iff, output⟩ := step.delivered_iff connected admits sends
  have delivered := delivered_iff.2 (Stream.takes_of_acceptsAll all packetSize)
  exact ⟨delivered, output delivered⟩

/-! ## Sequences -/

theorem sound_performAll (sound : c.Sound) (steps : List (Clock × Operation)) :
    (c.performAll steps).connection.Sound := by
  induction steps generalizing c with
  | nil => exact sound
  | cons step steps ih => exact ih ((step_perform sound step.1 step.2).sound sound)

theorem performAll_append (c : Connection) (steps later : List (Clock × Operation)) :
    c.performAll (steps ++ later) =
      ⟨(c.performAll steps).result ++ ((c.performAll steps).connection.performAll later).result,
        ((c.performAll steps).connection.performAll later).connection,
        (c.performAll steps).journal ++
          ((c.performAll steps).connection.performAll later).journal⟩ := by
  induction steps generalizing c with
  | nil => rfl
  | cons step steps ih => simp only [List.cons_append, performAll, ih, List.append_assoc]

theorem shut_performAll (sound : c.Sound) (shut : c.connected = false)
    (steps : List (Clock × Operation)) : (c.performAll steps).connection.connected = false := by
  induction steps generalizing c with
  | nil => exact shut
  | cons step steps ih =>
    have first := step_perform sound step.1 step.2
    exact ih (first.sound sound) (first.of_shut sound shut).1

theorem accepted_performAll_of_shut (sound : c.Sound) (shut : c.connected = false)
    (steps : List (Clock × Operation)) :
    (c.performAll steps).connection.stream.accepted = c.stream.accepted := by
  induction steps generalizing c with
  | nil => rfl
  | cons step steps ih =>
    have first := step_perform sound step.1 step.2
    obtain ⟨stays, same⟩ := first.of_shut sound shut
    exact (ih (first.sound sound) stays).trans same

end Connection

end TimeServer
