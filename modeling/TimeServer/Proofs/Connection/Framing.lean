import TimeServer.Proofs.Connection.Operation

/-! # What goes out on a connection

The bytes that a stream accepts over the whole life of its connection are whole packets, one after
another, and at most one that broke off, after which nothing follows.

* `Writing.prefix_accepted`, `Stream.accepted_sendAll` — a send gets out the front of its bytes;
* `Session.sentPackets`, `Session.brokenPackets` — the packets that were sent in a sequence of
  operations, and those whose sending broke off, told from what the operations gave;
* `Step.output` — what one operation adds to the output;
* `framed_performAll` — what a whole sequence of operations puts out.
-/

namespace TimeServer

/-! ## Writing -/

namespace Writing

variable {script : List WriteItem} {unsent : List UInt8}

theorem prefix_accepted (script : List WriteItem) (unsent : List UInt8) :
    (run script unsent).accepted <+: unsent := by
  fun_induction run script unsent with
  | case1 | case2 | case3 | case6 | case7 => simp
  | case4 limit script unsent _ _ ih =>
    -- What the later calls take follows what this one took.
    have front := (List.prefix_append_right_inj (unsent.take limit)).2 ih
    rwa [List.take_append_drop] at front
  | case5 e script unsent _ _ ih => simpa [after] using ih

theorem script_suffix (script : List WriteItem) (unsent : List UInt8) :
    (run script unsent).script <:+ script := by
  fun_induction run script unsent with
  | case1 | case2 => exact List.suffix_rfl
  | case3 | case6 | case7 => exact List.suffix_cons _ _
  | case4 limit script unsent _ _ ih => exact ih.trans (List.suffix_cons _ _)
  | case5 e script unsent _ _ ih => exact ih.trans (List.suffix_cons _ _)

theorem finish_ne_panicked (calm : .panic ∉ script) (unsent : List UInt8) :
    (run script unsent).finish ≠ .panicked := by
  fun_induction run script unsent with
  | case1 | case2 | case3 | case6 =>
    intro broke
    cases broke
  | case4 limit script unsent _ _ ih => exact ih fun member => calm (List.mem_cons_of_mem _ member)
  | case5 e script unsent _ _ ih => exact ih fun member => calm (List.mem_cons_of_mem _ member)
  | case7 => exact absurd List.mem_cons_self calm

end Writing

namespace Stream

/-- No write call on the stream breaks its thread. -/
def Calm (s : Stream) : Prop := .panic ∉ s.writes

variable {s next : Stream} {bytes : List UInt8} {finish : SendEnd}

theorem Calm.sendAll (calm : s.Calm) (bytes : List UInt8) : (s.sendAll bytes).2.Calm := by
  intro member
  rw [(output_sendAll s bytes).2] at member
  exact calm ((Writing.script_suffix s.writes bytes).subset member)

theorem accepted_sendAll (s : Stream) (bytes : List UInt8) :
    ∃ taken, (s.sendAll bytes).2.accepted = s.accepted ++ taken ∧ taken <+: bytes ∧
      ((s.sendAll bytes).1 = .sent → taken = bytes) := by
  refine ⟨(Writing.run s.writes bytes).accepted, (output_sendAll s bytes).1,
    Writing.prefix_accepted _ _, fun sent => ?_⟩
  apply Writing.accepted_of_complete
  simp only [sendAll] at sent
  cases finish : (Writing.run s.writes bytes).finish with
  | complete => rfl
  | stalled | failed _ | panicked =>
    rw [finish] at sent
    cases sent

theorem Calm.ne_panicked (calm : s.Calm) (bytes : List UInt8) :
    (s.sendAll bytes).1 ≠ .panicked := by
  have unbroken := Writing.finish_ne_panicked calm bytes
  simp only [Stream.sendAll]
  cases finish : (Writing.run s.writes bytes).finish with
  | complete =>
    simp only [flush]
    intro broke
    cases outcome : s.flushes.head?.join <;> rw [outcome] at broke <;> cases broke
  | stalled | failed _ =>
    intro broke
    cases broke
  | panicked => exact absurd finish unbroken

theorem output_of_receiveAll {count : Nat} {finish : ReadEnd}
    (read : s.receiveAll count = (finish, bytes, next)) :
    next.accepted = s.accepted ∧ next.writes = s.writes := by
  obtain rfl : (s.receiveAll count).2.2 = next := by rw [read]
  exact ⟨rfl, rfl⟩

end Stream

/-! ## Sessions -/

namespace Session

/-- The packet that an operation sent, as its outcome tells. -/
def sentPacket? (step : Clock × Operation) : Outcome → Option TimePacket
  | .served .served | .sent _ => step.2.packet? step.1
  | _ => none

/-- The packet of an operation whose sending broke off, as its outcome tells. -/
def brokenPacket? (step : Clock × Operation) : Outcome → Option TimePacket
  | .failed (.error (.writeZero ..)) | .failed (.error (.io _)) => step.2.packet? step.1
  | _ => none

/-- The packets that a sequence of operations sent, in order. -/
def sentPackets (steps : List (Clock × Operation)) (outcomes : List Outcome) : List TimePacket :=
  (steps.zip outcomes).filterMap fun (step, outcome) => sentPacket? step outcome

/-- The packets of a sequence of operations whose sending broke off. -/
def brokenPackets (steps : List (Clock × Operation)) (outcomes : List Outcome) :
    List TimePacket :=
  (steps.zip outcomes).filterMap fun (step, outcome) => brokenPacket? step outcome

variable (step : Clock × Operation) (steps : List (Clock × Operation)) (outcome : Outcome)
  (outcomes : List Outcome)

theorem sentPackets_cons : sentPackets (step :: steps) (outcome :: outcomes) =
    (sentPacket? step outcome).toList ++ sentPackets steps outcomes := by
  simp only [sentPackets, List.zip_cons_cons, List.filterMap_cons]
  cases sentPacket? step outcome <;> rfl

theorem brokenPackets_cons : brokenPackets (step :: steps) (outcome :: outcomes) =
    (brokenPacket? step outcome).toList ++ brokenPackets steps outcomes := by
  simp only [brokenPackets, List.zip_cons_cons, List.filterMap_cons]
  cases brokenPacket? step outcome <;> rfl

/-- The bytes are what got out of packets whose sending broke off: none if there was no such
    packet, the front of it if there was one. -/
def Remnant : List TimePacket → List UInt8 → Prop
  | [], bytes => bytes = []
  | [packet], bytes => bytes <+: packet.toWire
  | _, _ => False

end Session

/-- The outcome ends the connection: the client was turned away, the connection was closed, or the
    stream failed. -/
def Outcome.ends : Outcome → Bool
  | .served .denied | .closed => true
  | .failed (.error .peerClosed) | .failed (.error (.writeZero ..))
  | .failed (.error (.io _)) => true
  | _ => false

namespace Connection

open Session

variable {c : Connection} {clock : Clock} {operation : Operation} {turn : Turn Outcome}

theorem sentPacket?_delivered (operation : Operation) (clock : Clock) :
    sentPacket? (clock, operation) operation.delivered = operation.packet? clock := by
  cases operation <;> rfl

theorem brokenPacket?_delivered (operation : Operation) (clock : Clock) :
    brokenPacket? (clock, operation) operation.delivered = none := by
  cases operation <;> rfl

/-- What one operation adds to the output: a packet if it sent one, the front of a packet if its
    sending broke off, and else nothing. -/
theorem Step.output (step : Step c clock operation turn) (calm : c.stream.Calm) :
    (∃ packet, sentPacket? (clock, operation) turn.result = some packet ∧
        brokenPacket? (clock, operation) turn.result = none ∧
        turn.connection.stream.accepted = c.stream.accepted ++ packet.toWire) ∨
      (∃ packet bytes, sentPacket? (clock, operation) turn.result = none ∧
        brokenPacket? (clock, operation) turn.result = some packet ∧ bytes <+: packet.toWire ∧
        turn.connection.stream.accepted = c.stream.accepted ++ bytes ∧
        turn.connection.connected = false) ∨
      (sentPacket? (clock, operation) turn.result = none ∧
        brokenPacket? (clock, operation) turn.result = none ∧
        turn.connection.stream.accepted = c.stream.accepted) := by
  cases step with
  | @sent _ packet stream sends _ _ _ written =>
    obtain ⟨taken, accepted, _, whole⟩ := c.stream.accepted_sendAll packet.toWire
    rw [written] at accepted whole
    rw [whole rfl] at accepted
    refine .inl ⟨packet, ?_, brokenPacket?_delivered operation clock, accepted⟩
    rw [sentPacket?_delivered, sends]
  | @brokeOff _ packet finish stream error sends _ _ _ written stopped =>
    obtain ⟨taken, accepted, front, _⟩ := c.stream.accepted_sendAll packet.toWire
    rw [written] at accepted
    refine .inr (.inl ⟨packet, taken, ?_, ?_, front, accepted, rfl⟩)
    · rfl
    · cases finish with
      | stalled | failed _ =>
        cases stopped
        exact sends
      | sent | panicked => cases stopped
  | @panicked _ packet stream _ _ _ _ written =>
    have unbroken := calm.ne_panicked packet.toWire
    rw [written] at unbroken
    exact absurd rfl unbroken
  | denied | closed => exact .inr (.inr ⟨rfl, rfl, accepted_close c⟩)
  | shut => exact .inr (.inr ⟨rfl, rfl, rfl⟩)
  | received _ _ read | rejected _ _ read | peerClosed _ _ read | unread _ _ read =>
    exact .inr (.inr ⟨rfl, rfl, (Stream.output_of_receiveAll read).1⟩)

theorem calm_close (calm : c.stream.Calm) : c.close.connection.stream.Calm := by
  unfold close
  split <;> exact calm

theorem Step.calm (step : Step c clock operation turn) (calm : c.stream.Calm) :
    turn.connection.stream.Calm := by
  cases step with
  | denied | closed => exact calm_close calm
  | shut => exact calm
  | @sent _ packet _ _ _ _ _ written | @brokeOff _ packet _ _ _ _ _ _ _ written
  | @panicked _ packet _ _ _ _ _ written =>
    have after := calm.sendAll packet.toWire
    rwa [written] at after
  | received _ _ read | rejected _ _ read | peerClosed _ _ read | unread _ _ read =>
    intro member
    rw [(Stream.output_of_receiveAll read).2] at member
    exact calm member

theorem Step.of_ends (step : Step c clock operation turn) (sound : c.Sound)
    (ends : turn.result.ends) : turn.connection.connected = false := by
  cases step with
  | denied | closed => exact connected_close sound
  | shut _ _ shut => exact shut
  | brokeOff | peerClosed | unread => rfl
  | sent => cases operation <;> cases ends
  | panicked | received | rejected => cases ends

theorem Step.of_not_ends (step : Step c clock operation turn) (connected : c.connected)
    (goes_on : turn.result.ends = false) : turn.connection.connected := by
  cases step with
  | denied | closed | peerClosed | unread => cases goes_on
  | shut _ _ shut =>
    rw [shut] at connected
    cases connected
  | @brokeOff _ _ finish _ _ _ _ _ _ _ stopped =>
    cases finish with
    | stalled | failed _ =>
      cases stopped
      cases goes_on
    | sent | panicked => cases stopped
  | sent | panicked | received | rejected => exact connected

theorem Step.silent_of_shut (step : Step c clock operation turn) (shut : c.connected = false) :
    sentPacket? (clock, operation) turn.result = none ∧
      brokenPacket? (clock, operation) turn.result = none := by
  cases step with
  | denied | closed | shut => exact ⟨rfl, rfl⟩
  | sent _ _ connected | brokeOff _ _ connected | panicked _ _ connected | received connected
  | rejected connected | peerClosed connected | unread connected =>
    rw [shut] at connected
    cases connected

/-! ### Sequences -/

theorem silent_of_shut (sound : c.Sound) (shut : c.connected = false)
    (steps : List (Clock × Operation)) :
    sentPackets steps (c.performAll steps).result = [] ∧
      brokenPackets steps (c.performAll steps).result = [] := by
  induction steps generalizing c with
  | nil => exact ⟨rfl, rfl⟩
  | cons step steps ih =>
    have first := step_perform sound step.1 step.2
    obtain ⟨unsent, unbroken⟩ := first.silent_of_shut shut
    obtain ⟨sent, broken⟩ := ih (first.sound sound) (first.of_shut sound shut).1
    simp only [performAll, sentPackets_cons, brokenPackets_cons, unsent, unbroken, sent, broken]
    exact ⟨rfl, rfl⟩

theorem output_performAll (sound : c.Sound) (calm : c.stream.Calm)
    (steps : List (Clock × Operation)) :
    ∃ rest, (c.performAll steps).connection.stream.accepted =
        c.stream.accepted ++
          (sentPackets steps (c.performAll steps).result).flatMap TimePacket.toWire ++ rest ∧
      Remnant (brokenPackets steps (c.performAll steps).result) rest := by
  induction steps generalizing c with
  | nil => exact ⟨[], by simp [performAll, sentPackets], rfl⟩
  | cons step steps ih =>
    have first := step_perform sound step.1 step.2
    have sound' := first.sound sound
    simp only [performAll, sentPackets_cons, brokenPackets_cons]
    obtain ⟨packet, sent, unbroken, accepted⟩ | ⟨packet, bytes, unsent, broken, front, accepted,
      shut⟩ | ⟨unsent, unbroken, accepted⟩ := first.output calm
    · obtain ⟨rest, later, remnant⟩ := ih sound' (first.calm calm)
      rw [accepted] at later
      rw [sent, unbroken]
      exact ⟨rest, by simpa using later, remnant⟩
    · -- Nothing is sent any more, so the bytes of the packet that broke off are the last.
      obtain ⟨no_sent, no_broken⟩ := silent_of_shut sound' shut steps
      have silence := accepted_performAll_of_shut sound' shut steps
      rw [accepted] at silence
      rw [unsent, broken, no_sent, no_broken]
      exact ⟨bytes, by simpa using silence, front⟩
    · obtain ⟨rest, later, remnant⟩ := ih sound' (first.calm calm)
      rw [accepted] at later
      rw [unsent, unbroken]
      exact ⟨rest, later, remnant⟩

theorem shut_of_ends (sound : c.Sound) (steps : List (Clock × Operation))
    (ends : (c.performAll steps).result.any Outcome.ends) :
    (c.performAll steps).connection.connected = false := by
  induction steps generalizing c with
  | nil => cases ends
  | cons step steps ih =>
    have first := step_perform sound step.1 step.2
    have sound' := first.sound sound
    simp only [performAll, List.any_cons, Bool.or_eq_true] at ends
    cases ends with
    | inl now => exact shut_performAll sound' (first.of_ends sound now) steps
    | inr later => exact ih sound' later

theorem connected_of_not_ends (sound : c.Sound) (connected : c.connected)
    (steps : List (Clock × Operation))
    (goes_on : (c.performAll steps).result.any Outcome.ends = false) :
    (c.performAll steps).connection.connected := by
  induction steps generalizing c with
  | nil => exact connected
  | cons step steps ih =>
    have first := step_perform sound step.1 step.2
    simp only [performAll, List.any_cons, Bool.or_eq_false_iff] at goes_on
    exact ih (first.sound sound) (first.of_not_ends connected goes_on.1) goes_on.2

/-- Whatever is done with a connection, its stream has accepted the packets that were sent, one
    after another, and after them at most the front of the one packet whose sending broke off.
    Nothing is accepted after an outcome that ends the connection; and as long as there was none, a
    bad packet from the peer included, the next packet goes out to a stream that takes it. -/
theorem framed_performAll (client : String) (rules : AccessRules) (stream : Stream)
    (calm : stream.Calm) (steps later : List (Clock × Operation)) :
    let c := (establish client rules stream).connection
    let run := c.performAll steps
    (∃ rest, run.connection.stream.accepted =
        stream.accepted ++ (sentPackets steps run.result).flatMap TimePacket.toWire ++ rest ∧
      Remnant (brokenPackets steps run.result) rest) ∧
    (run.result.any Outcome.ends →
      (c.performAll (steps ++ later)).connection.stream.accepted =
        run.connection.stream.accepted) ∧
    (run.result.any Outcome.ends = false → run.connection.stream.acceptsAll →
      ∀ packet clock, (run.connection.perform clock (.send packet)).result = .sent packetSize) := by
  intro c run
  have sound : c.Sound := sound_establish client rules stream
  have sound' : run.connection.Sound := sound_performAll sound steps
  refine ⟨output_performAll sound calm steps, fun ends => ?_, fun goes_on all packet clock => ?_⟩
  · rw [performAll_append]
    exact accepted_performAll_of_shut sound' (shut_of_ends sound steps ends) later
  · have connected := connected_of_not_ends sound rfl steps goes_on
    exact ((step_perform sound' clock (.send packet)).delivered connected nofun rfl all).1

/-- A stream that takes a packet piece by piece, brings one from far ahead, and breaks in the middle
    of the next one. -/
def ragged : Stream where
  reads := [.bytes [255, 255], .bytes [255, 255]]
  writes := [.accept 1, .fail (.plain .interrupted), .accept 9, .accept 2,
    .fail (.plain .brokenPipe)]

/-- The client is served and what it sends is looked at, and a second packet is sent. -/
def exchange : List (Clock × Operation) :=
  [(⟨1, 0⟩, .serve), (⟨1, 0⟩, .receive), (⟨2, 0⟩, .send ⟨5⟩)]

theorem framed_ragged :
    let c := (establish "a" {} ragged).connection
    let patient := (establish "a" {} { ragged with writes := ragged.writes.take 3 }).connection
    (∃ rest, (c.performAll exchange).connection.stream.accepted = encode 1 ++ rest ∧
        rest <+: encode 5) ∧
      (c.performAll (exchange ++ [(⟨3, 0⟩, .serve)])).connection.stream.accepted =
        (c.performAll exchange).connection.stream.accepted ∧
      ((patient.performAll exchange).connection.perform ⟨3, 0⟩ (.send ⟨7⟩)).result =
        .sent packetSize := by
  intro c patient
  have calm : ragged.Calm := by
    unfold Stream.Calm
    decide
  have calm' : Stream.Calm { ragged with writes := ragged.writes.take 3 } :=
    fun member => calm (List.mem_of_mem_take member)
  obtain ⟨⟨rest, accepted, remnant⟩, quiet, _⟩ :=
    framed_performAll "a" {} ragged calm exchange [(⟨3, 0⟩, .serve)]
  obtain ⟨_, _, goes_on⟩ := framed_performAll "a" {} _ calm' exchange []
  have sent : sentPackets exchange (c.performAll exchange).result = [⟨1⟩] := by decide +kernel
  have broken : brokenPackets exchange (c.performAll exchange).result = [⟨5⟩] := by decide +kernel
  rw [sent] at accepted
  rw [broken] at remnant
  exact ⟨⟨rest, accepted, remnant⟩, quiet (by decide +kernel),
    goes_on (by decide +kernel) (by decide +kernel) ⟨7⟩ ⟨3, 0⟩⟩

end Connection

end TimeServer
