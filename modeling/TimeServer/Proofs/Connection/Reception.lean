import TimeServer.Proofs.Connection.Operation

/-! # What comes in on a connection

A client's bytes come in pieces of any size, with interrupted calls between them.  What a
connection makes of them depends on the bytes alone.

* `Stream.arriving`, `Stream.ending` — the bytes that a stream still brings and how it ends;
* `Reading.run_of_le`, `Reading.run_of_lt` — reading takes the next bytes while there are enough;
* `Reception.answer` — what the receiver of a whole text of bytes gives at each call;
* `performAll_receive` — a connection gives just these answers, and everything else that a sequence
  of receive operations does follows from them.
-/

namespace TimeServer

/-! ## Reading -/

namespace Reading

/-- The bytes of the coming reads, up to the end of the stream. -/
def arriving : List ReadItem → List UInt8
  | [] | .bytes [] :: _ => []
  | .bytes data :: script => data ++ arriving script
  | .fail e :: script => if e.isInterrupted then arriving script else []

/-- How the coming reads end. -/
def ending : List ReadItem → ConnectionError
  | [] | .bytes [] :: _ => .peerClosed
  | .bytes _ :: script => ending script
  | .fail e :: script => if e.isInterrupted then ending script else .io e

theorem arriving_bytes {data : List UInt8} (nonempty : data ≠ []) (script : List ReadItem) :
    arriving (.bytes data :: script) = data ++ arriving script ∧
      ending (.bytes data :: script) = ending script := by
  cases data with
  | nil => exact absurd rfl nonempty
  | cons first rest => exact ⟨rfl, rfl⟩

variable {script : List ReadItem} {missing : Nat}

theorem run_of_le (enough : missing ≤ (arriving script).length) :
    (run script missing).finish = .complete ∧
      (run script missing).received = (arriving script).take missing ∧
      arriving (run script missing).script = (arriving script).drop missing ∧
      ending (run script missing).script = ending script := by
  fun_induction run script missing with
  | case1 script => simp
  | case2 missing nonzero => exact absurd (Nat.le_zero.1 enough) nonzero
  | case3 script missing nonzero => exact absurd (Nat.le_zero.1 enough) nonzero
  | case4 data script missing nonzero nonempty fits ih =>
    obtain ⟨whole, same_end⟩ := arriving_bytes nonempty script
    rw [whole, List.length_append] at enough
    rw [whole, same_end]
    obtain ⟨finish, received, rest, ends⟩ := ih (by omega)
    refine ⟨finish, ?_, ?_, ends⟩
    · show data ++ (run script (missing - data.length)).received = _
      rw [received, List.take_append, List.take_of_length_le fits]
    · show arriving (run script (missing - data.length)).script = _
      rw [rest, List.drop_append, List.drop_of_length_le fits, List.nil_append]
  | case5 data script missing nonzero nonempty long =>
    -- The bytes that were not asked for stay in front of the rest.
    have short : missing < data.length := Nat.lt_of_not_le long
    have remainder : data.drop missing ≠ [] := by
      rw [Ne, List.drop_eq_nil_iff]
      omega
    obtain ⟨whole, same_end⟩ := arriving_bytes nonempty script
    obtain ⟨left, same_end'⟩ := arriving_bytes remainder script
    rw [whole, same_end]
    refine ⟨rfl, ?_, ?_, same_end'⟩
    · rw [List.take_append_of_le_length (Nat.le_of_lt short)]
    · rw [left, List.drop_append_of_le_length (Nat.le_of_lt short)]
  | case6 e script missing nonzero interrupted ih =>
    simp only [arriving, ending, interrupted, if_true] at enough ⊢
    exact ih enough
  | case7 e script missing nonzero fatal =>
    simp only [arriving, fatal] at enough
    exact absurd (Nat.le_zero.1 enough) nonzero

end Reading

/-- Why bytes could not be received, if the stream says so. -/
def ReadEnd.error? : ReadEnd → Option ConnectionError
  | .complete => none
  | .closed => some .peerClosed
  | .failed e => some (.io e)

theorem Reading.run_of_lt {script : List ReadItem} {missing : Nat}
    (few : (arriving script).length < missing) :
    (run script missing).finish.error? = some (ending script) := by
  fun_induction run script missing with
  | case1 script => exact absurd few (Nat.not_lt_zero _)
  | case2 | case3 => rfl
  | case4 data script missing nonzero nonempty fits ih =>
    obtain ⟨whole, same_end⟩ := arriving_bytes nonempty script
    rw [whole, List.length_append] at few
    rw [same_end]
    exact ih (by omega)
  | case5 data script missing nonzero nonempty long =>
    rw [(arriving_bytes nonempty script).1, List.length_append] at few
    omega
  | case6 e script missing nonzero interrupted ih =>
    simp only [arriving, ending, interrupted, if_true] at few ⊢
    exact ih few
  | case7 e script missing nonzero fatal =>
    simp [ending, fatal, ReadEnd.error?]

namespace Stream

/-- The bytes that the stream still brings. -/
def arriving (s : Stream) : List UInt8 := Reading.arriving s.reads

/-- How the stream ends. -/
def ending (s : Stream) : ConnectionError := Reading.ending s.reads

theorem receiveAll_of_le {s : Stream} {count : Nat} (enough : count ≤ s.arriving.length) :
    ∃ next, s.receiveAll count = (.complete, s.arriving.take count, next) ∧
      next.arriving = s.arriving.drop count ∧ next.ending = s.ending := by
  obtain ⟨finish, received, rest, ends⟩ := Reading.run_of_le enough
  refine ⟨(s.receiveAll count).2.2, ?_, rest, ends⟩
  show (_, _, _) = _
  rw [finish, received]
  rfl

theorem receiveAll_of_lt {s : Stream} {count : Nat} (few : s.arriving.length < count) :
    (s.receiveAll count).1.error? = some s.ending :=
  Reading.run_of_lt few

theorem length_of_complete {s next : Stream} {count : Nat} {bytes : List UInt8}
    (read : s.receiveAll count = (.complete, bytes, next)) : bytes.length = count := by
  by_cases enough : count ≤ s.arriving.length
  · obtain ⟨_, complete, _⟩ := receiveAll_of_le enough
    cases read.symm.trans complete
    exact List.length_take_of_le enough
  · have stopped := receiveAll_of_lt (Nat.lt_of_not_le enough)
    rw [read] at stopped
    cases stopped

end Stream

/-! ## What a receiver makes of the bytes -/

/-- What receiving a packet gives once its bytes are there. -/
def Outcome.ofDecoded : Except DecodeError TimePacket → Outcome
  | .ok packet => .received packet
  | .error e => .failed (.error (.decode e))

namespace Reception

/-- What the receiver of a whole text of bytes gives at a call, counted from zero: the packet in the
    next four bytes, or at the first call without four bytes what ended them. -/
def answer (bytes : List UInt8) (ending : ConnectionError) (call : Nat) (clock : Clock) : Outcome :=
  if packetSize * (call + 1) ≤ bytes.length then
    .ofDecoded (decode ((bytes.drop (packetSize * call)).take packetSize) clock)
  else if packetSize * call ≤ bytes.length then .failed (.error ending)
  else .failed (.error .notConnected)

/-- What a call that receives leaves behind, told from its outcome. -/
def receipt (client : String) (clock : Clock) : Outcome → Journal
  | .received packet =>
    [.count (.received (UInt64.ofNat packetSize)), .note (.received packet clock client)]
  | .failed (.error .peerClosed) => [.note (.peerClosed client)]
  | .failed (.error (.io e)) => [.count .ioError, .note (.transferFailed .receive client (.io e))]
  | _ => []

/-- The traffic after a call that receives, told from its outcome. -/
def tally (traffic : Traffic) : Outcome → Traffic
  | .received _ => traffic.receiveOne packetSize
  | _ => traffic

theorem answer_succ {bytes : List UInt8} (enough : packetSize ≤ bytes.length)
    (ending : ConnectionError) (call : Nat) (clock : Clock) :
    answer bytes ending (call + 1) clock = answer (bytes.drop packetSize) ending call clock := by
  have whole : packetSize * (call + 1 + 1) ≤ bytes.length ↔
      packetSize * (call + 1) ≤ (bytes.drop packetSize).length := by
    simp only [List.length_drop, packetSize] at enough ⊢
    omega
  have started : packetSize * (call + 1) ≤ bytes.length ↔
      packetSize * call ≤ (bytes.drop packetSize).length := by
    simp only [List.length_drop, packetSize] at enough ⊢
    omega
  have place : bytes.drop (packetSize * (call + 1)) =
      (bytes.drop packetSize).drop (packetSize * call) := by
    rw [List.drop_drop, Nat.mul_succ, Nat.add_comm]
  simp only [answer, whole, started, place]

/-- A receiver that has no four bytes says what ended them, and then that it is not connected. -/
theorem answer_of_lt {bytes : List UInt8} (few : bytes.length < packetSize)
    (ending : ConnectionError) (call : Nat) (clock : Clock) :
    answer bytes ending call clock =
      .failed (.error (if call = 0 then ending else .notConnected)) := by
  have none_whole : ¬ packetSize * (call + 1) ≤ bytes.length := by
    simp only [packetSize] at few ⊢
    omega
  have started : packetSize * call ≤ bytes.length ↔ call = 0 := by
    simp only [packetSize] at few ⊢
    omega
  simp only [answer, none_whole, if_false, started]
  split <;> rfl

end Reception

namespace Connection

open Reception

variable {c : Connection} {turn : Turn Outcome}

theorem result_receive_of_le (connected : c.connected) (held : c.held)
    (enough : packetSize ≤ c.stream.arriving.length) (clock : Clock) :
    (c.perform clock .receive).result =
        .ofDecoded (decode (c.stream.arriving.take packetSize) clock) ∧
      (c.perform clock .receive).connection.connected ∧
      (c.perform clock .receive).connection.held ∧
      (c.perform clock .receive).connection.stream.arriving =
        c.stream.arriving.drop packetSize ∧
      (c.perform clock .receive).connection.stream.ending = c.stream.ending := by
  obtain ⟨next, complete, arriving, ending⟩ := Stream.receiveAll_of_le enough
  have step := step_perform (fun _ => held) clock .receive
  generalize c.perform clock .receive = turn at step ⊢
  cases step with
  | shut _ _ shut =>
    rw [shut] at connected
    cases connected
  | received _ _ read decoded | rejected _ _ read decoded =>
    cases read.symm.trans complete
    rw [decoded]
    exact ⟨rfl, connected, held, arriving, ending⟩
  | peerClosed _ _ read | unread _ _ read => cases read.symm.trans complete
  | sent sends | brokeOff sends | panicked sends => cases sends

theorem result_receive_of_lt (connected : c.connected) (held : c.held)
    (few : c.stream.arriving.length < packetSize) (clock : Clock) :
    (c.perform clock .receive).result = .failed (.error c.stream.ending) ∧
      (c.perform clock .receive).connection.connected = false := by
  have stopped := Stream.receiveAll_of_lt few
  have step := step_perform (fun _ => held) clock .receive
  generalize c.perform clock .receive = turn at step ⊢
  cases step with
  | shut _ _ shut =>
    rw [shut] at connected
    cases connected
  | received _ _ read | rejected _ _ read =>
    rw [read] at stopped
    cases stopped
  | peerClosed _ _ read | unread _ _ read =>
    rw [read] at stopped
    rw [← Option.some.inj stopped]
    exact ⟨rfl, rfl⟩
  | sent sends | brokeOff sends | panicked sends => cases sends

theorem effect_receive (sound : c.Sound) (clock : Clock) :
    (c.perform clock .receive).journal =
        receipt c.client clock (c.perform clock .receive).result ∧
      (c.perform clock .receive).connection.traffic =
        tally c.traffic (c.perform clock .receive).result ∧
      (c.perform clock .receive).connection.client = c.client := by
  have step := step_perform sound clock .receive
  generalize c.perform clock .receive = turn at step ⊢
  cases step with
  | shut | rejected | peerClosed | unread => exact ⟨rfl, rfl, rfl⟩
  | @received bytes _ _ _ _ read _ =>
    rw [Stream.length_of_complete read]
    exact ⟨rfl, rfl, rfl⟩
  | sent sends | brokeOff sends | panicked sends => cases sends

/-! ## Sequences of calls -/

/-- The steps that receive at these times. -/
def receiving (clocks : List Clock) : List (Clock × Operation) := clocks.map (·, .receive)

theorem performAll_receiving_cons (c : Connection) (clock : Clock) (clocks : List Clock) :
    c.performAll (receiving (clock :: clocks)) =
      let turn := c.perform clock .receive
      let later := turn.connection.performAll (receiving clocks)
      ⟨turn.result :: later.result, later.connection, turn.journal ++ later.journal⟩ := rfl

theorem performAll_of_shut (shut : c.connected = false) (clocks : List Clock) :
    c.performAll (receiving clocks) =
      ⟨clocks.map fun _ => .failed (.error .notConnected), c, []⟩ := by
  have refused : ∀ clock, c.perform clock .receive = ⟨.failed (.error .notConnected), c, []⟩ := by
    intro clock
    simp [perform, receivePacket, shut, Outcome.ofResult]
  induction clocks with
  | nil => rfl
  | cons clock clocks ih =>
    simp only [performAll_receiving_cons, refused, ih, List.map_cons, List.append_nil]

theorem results_receive (connected : c.connected) (held : c.held) (clocks : List Clock) :
    (c.performAll (receiving clocks)).result =
        clocks.mapIdx (answer c.stream.arriving c.stream.ending) ∧
      ((c.performAll (receiving clocks)).connection.connected ↔
        packetSize * clocks.length ≤ c.stream.arriving.length) := by
  induction clocks generalizing c with
  | nil => simp [performAll, receiving, connected]
  | cons clock clocks ih =>
    simp only [performAll_receiving_cons, List.mapIdx_cons, List.length_cons]
    by_cases enough : packetSize ≤ c.stream.arriving.length
    · -- The receiver of the whole text goes on behind the packet, and so does the connection.
      obtain ⟨result, connected', held', arriving, ending⟩ :=
        result_receive_of_le connected held enough clock
      obtain ⟨results, still⟩ := ih connected' held'
      have first : answer c.stream.arriving c.stream.ending 0 clock =
          .ofDecoded (decode (c.stream.arriving.take packetSize) clock) := by
        simp [answer, enough]
      have shift : (fun call => answer c.stream.arriving c.stream.ending (call + 1)) =
          answer (c.stream.arriving.drop packetSize) c.stream.ending :=
        funext fun call => funext fun clock => answer_succ enough c.stream.ending call clock
      rw [results, still, result, arriving, ending, first, shift]
      refine ⟨rfl, ?_⟩
      simp only [List.length_drop, packetSize] at enough ⊢
      omega
    · have few := Nat.lt_of_not_le enough
      obtain ⟨result, shut⟩ := result_receive_of_lt connected held few clock
      have nothing : ¬ packetSize * (clocks.length + 1) ≤ c.stream.arriving.length := by
        simp only [packetSize] at few ⊢
        omega
      have refusals : (fun call => answer c.stream.arriving c.stream.ending (call + 1)) =
          fun _ _ => .failed (.error .notConnected) :=
        funext fun call => funext fun clock => answer_of_lt few c.stream.ending (call + 1) clock
      rw [performAll_of_shut shut, result, answer_of_lt few, refusals]
      simp [shut, nothing, List.mapIdx_eq_zipIdx_map, List.map_const']

theorem effects_receive (sound : c.Sound) (clocks : List Clock) :
    (c.performAll (receiving clocks)).journal =
        (clocks.zip (c.performAll (receiving clocks)).result).flatMap
          (fun (clock, outcome) => receipt c.client clock outcome) ∧
      (c.performAll (receiving clocks)).connection.traffic =
        (c.performAll (receiving clocks)).result.foldl tally c.traffic := by
  induction clocks generalizing c with
  | nil => exact ⟨rfl, rfl⟩
  | cons clock clocks ih =>
    obtain ⟨journal, traffic, client⟩ := effect_receive sound clock
    obtain ⟨journals, traffics⟩ := ih ((step_perform sound clock .receive).sound sound)
    rw [client] at journals
    rw [traffic] at traffics
    refine ⟨?_, traffics⟩
    simp only [performAll_receiving_cons, journal, journals, List.zip_cons_cons,
      List.flatMap_cons]

/-- Receiving again and again from an open connection gives the packets in the bytes that arrive,
    four by four, each checked against the clock of its call; then once what ended the bytes; and
    then nothing is received any more and nothing changes.  A stream that brings the same bytes in
    other pieces, with other interruptions, gives the same results, events and counters. -/
theorem performAll_receive (c : Connection) (connected : c.connected) (held : c.held)
    (clocks more : List Clock) :
    let run := c.performAll (receiving clocks)
    run.result = clocks.mapIdx (answer c.stream.arriving c.stream.ending) ∧
      (run.connection.connected ↔ packetSize * clocks.length ≤ c.stream.arriving.length) ∧
      (c.stream.arriving.length < packetSize * clocks.length →
        (c.performAll (receiving (clocks ++ more))).connection = run.connection) ∧
      ∀ other : Stream, other.arriving = c.stream.arriving → other.ending = c.stream.ending →
        let run' := { c with stream := other }.performAll (receiving clocks)
        run'.result = run.result ∧ run'.journal = run.journal ∧
          run'.connection.traffic = run.connection.traffic ∧
          run'.connection.connected = run.connection.connected := by
  intro run
  obtain ⟨results, still⟩ := results_receive connected held clocks
  refine ⟨results, still, fun exhausted => ?_, fun other same_bytes same_end => ?_⟩
  · have shut : run.connection.connected = false :=
      Bool.eq_false_iff.2 fun open_still => Nat.not_le.2 exhausted (still.1 open_still)
    have longer : receiving (clocks ++ more) = receiving clocks ++ receiving more :=
      List.map_append
    rw [longer, performAll_append]
    show (run.connection.performAll (receiving more)).connection = run.connection
    rw [performAll_of_shut shut]
  · intro run'
    obtain ⟨results', still'⟩ :=
      results_receive (c := { c with stream := other }) connected held clocks
    have sound : c.Sound := fun _ => held
    have sound' : Sound { c with stream := other } := fun _ => held
    obtain ⟨journal, traffic⟩ := effects_receive sound clocks
    obtain ⟨journal', traffic'⟩ := effects_receive sound' clocks
    have same : run'.result = run.result := by
      show (performAll _ _).result = (performAll _ _).result
      rw [results, results']
      simp only [same_bytes, same_end]
    refine ⟨same, ?_, ?_, ?_⟩
    · rw [journal, journal', same]
    · rw [traffic, traffic', same]
    · rw [Bool.eq_iff_iff, still, still', same_bytes]

/-- Ten bytes in pieces that straddle the packets, with an interruption, until the stream breaks. -/
def pieces : List ReadItem :=
  [.bytes [0], .fail (.plain .interrupted), .bytes [0, 0], .bytes [9, 255, 255, 255],
    .bytes [255, 0, 0], .fail (.plain .connectionReset)]

/-- The same bytes at once. -/
def block : List ReadItem :=
  [.bytes [0, 0, 0, 9, 255, 255, 255, 255, 0, 0], .fail (.plain .connectionReset)]

theorem performAll_receive_pieces :
    let c := (establish "a" {} { reads := pieces }).connection
    let whole := (establish "a" {} { reads := block }).connection
    let calls := receiving (List.replicate 4 ⟨10, 0⟩)
    (c.performAll calls).result =
        [.received ⟨9⟩, .failed (.error (.decode (.invalid 0xFFFFFFFF 3610))),
          .failed (.error (.io (.plain .connectionReset))), .failed (.error .notConnected)] ∧
      (whole.performAll calls).result = (c.performAll calls).result ∧
      (whole.performAll calls).journal = (c.performAll calls).journal ∧
      (c.performAll (receiving (List.replicate 9 ⟨10, 0⟩))).connection =
        (c.performAll calls).connection := by
  intro c whole calls
  obtain ⟨results, _, rest, same⟩ :=
    performAll_receive c rfl rfl (List.replicate 4 ⟨10, 0⟩) (List.replicate 5 ⟨10, 0⟩)
  obtain ⟨same_results, same_journal, _⟩ := same { reads := block } rfl rfl
  refine ⟨results.trans ?_, same_results, same_journal, rest (by decide +kernel)⟩
  decide +kernel

end Connection

end TimeServer
