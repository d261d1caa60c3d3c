import TimeServer.Proofs.Connection.Framing

/-! # What a send comes to

The end of a send, told from the scripts of the stream alone: which of its write calls ends the
writing, and how many bytes the calls before it take.

* `Writing.room`, `Writing.obstacle?`, `Writing.stop?` — what the calls of a script take, the first
  call that ends the writing, and whether it comes before so many bytes are taken;
* `Writing.follows_run` — writing ends as the script says;
* `Stream.sendAll_of_stop?`, `Stream.sendAll_of_not_stop?` — and with it sending;
* `Connection.Delivered`, `Connection.BrokeOff`, `Connection.Unwound` — what a send leaves behind;
* `Connection.sendPacket_exact` — which of them it is, for every script.
-/

namespace TimeServer

/-- How a writing ends at a call that takes nothing and is not made again. -/
def WriteItem.ending : WriteItem → WriteEnd
  | .accept _ => .stalled
  | .fail e => .failed e
  | .panic => .panicked

/-- How a send ends if such a call comes after so many bytes. -/
def WriteItem.sendEnd (written : Nat) : WriteItem → SendEnd
  | .accept _ => .stalled written
  | .fail e => .failed e
  | .panic => .panicked

namespace Writing

/-- The bytes that the calls of a script take before the first that ends the writing. -/
def room (script : List WriteItem) : Nat :=
  ((script.takeWhile WriteItem.proceeds).map WriteItem.capacity).sum

/-- The first call of a script that ends the writing. -/
def obstacle? (script : List WriteItem) : Option WriteItem := script.find? (!·.proceeds)

/-- The call that ends the writing of so many bytes, and how many of them were taken before it. -/
def stop? (script : List WriteItem) (count : Nat) : Option (Nat × WriteItem) :=
  if room script < count then (obstacle? script).map (room script, ·) else none

variable {script : List WriteItem} {item : WriteItem} {count n : Nat} {unsent : List UInt8}

theorem stop?_zero (script : List WriteItem) : stop? script 0 = none :=
  if_neg (Nat.not_lt_zero _)

theorem stop?_nil (count : Nat) : stop? [] count = none := by
  simp [stop?, obstacle?]

theorem stop?_cons_of_ends (ends : item.proceeds = false) (some_left : 0 < count) :
    stop? (item :: script) count = some (0, item) := by
  simp [stop?, room, obstacle?, ends, some_left]

theorem stop?_cons_of_proceeds (proceeds : item.proceeds) :
    stop? (item :: script) count =
      (stop? script (count - item.capacity)).map (Prod.map (item.capacity + ·) id) := by
  have taken : room (item :: script) = item.capacity + room script := by
    simp [room, proceeds]
  have same : obstacle? (item :: script) = obstacle? script := by
    simp [obstacle?, proceeds]
  have level : item.capacity + room script < count ↔ room script < count - item.capacity := by
    omega
  simp only [stop?, taken, same, level]
  split
  · rw [Option.map_map]
    rfl
  · rfl

theorem lt_of_stop?_some (stops : stop? script count = some (n, item)) : n < count := by
  unfold stop? at stops
  split at stops
  · rename_i short
    obtain ⟨_, _, same⟩ := Option.map_eq_some_iff.1 stops
    cases same
    exact short
  · cases stops

/-- Only a call that takes nothing, a failure that is no interruption and a panic end a writing. -/
theorem ends_of_stop?_some (stops : stop? script count = some (n, item)) :
    item.proceeds = false := by
  unfold stop? at stops
  split at stops
  · obtain ⟨found, first, same⟩ := Option.map_eq_some_iff.1 stops
    cases same
    simpa using List.find?_some first
  · cases stops

/-- Writing came to the end that the script gives it. -/
def Follows (w : Writing) (script : List WriteItem) (unsent : List UInt8) : Prop :=
  match stop? script unsent.length with
  | none => w.finish = .complete ∧ w.accepted = unsent
  | some (n, item) => w.finish = item.ending ∧ w.accepted = unsent.take n

/-- A call that gets on takes its share of the bytes and leaves the rest to the later calls. -/
theorem follows_after {w : Writing} (proceeds : item.proceeds)
    (follows : w.Follows script (unsent.drop item.capacity)) :
    (w.after unsent (unsent.take item.capacity)).Follows (item :: script) unsent := by
  unfold Follows at *
  rw [List.length_drop] at follows
  rw [stop?_cons_of_proceeds proceeds]
  cases stops : stop? script (unsent.length - item.capacity) with
  | none =>
    rw [stops] at follows
    obtain ⟨finish, accepted⟩ := follows
    refine ⟨finish, ?_⟩
    simp only [after, accepted, List.take_append_drop]
  | some stop =>
    rw [stops] at follows
    obtain ⟨finish, accepted⟩ := follows
    refine ⟨finish, ?_⟩
    simp only [after, accepted, List.take_add]

theorem follows_of_ends {w : Writing} (ends : item.proceeds = false) (some_left : unsent ≠ [])
    (finish : w.finish = item.ending) (accepted : w.accepted = []) :
    w.Follows (item :: script) unsent := by
  unfold Follows
  rw [stop?_cons_of_ends ends (List.length_pos_iff.2 some_left)]
  exact ⟨finish, accepted⟩

/-- Writing ends at the call that stops it, with what was taken before; if there is none it is
    complete. -/
theorem follows_run (script : List WriteItem) (unsent : List UInt8) :
    (run script unsent).Follows script unsent := by
  -- One case for each way a call can go; two of them go on with the next call.
  fun_induction run script unsent with
  | case1 script =>
    rw [Follows, List.length_nil, stop?_zero]
    exact ⟨rfl, rfl⟩
  | case2 unsent =>
    rw [Follows, stop?_nil]
    exact ⟨rfl, rfl⟩
  | case3 script unsent some_left => exact follows_of_ends rfl some_left rfl rfl
  | case4 limit script unsent some_left nonzero ih =>
    have proceeds : (WriteItem.accept limit).proceeds := by
      simpa [WriteItem.proceeds] using Nat.pos_of_ne_zero nonzero
    exact follows_after proceeds ih
  | case5 e script unsent some_left interrupted ih =>
    have proceeds : (WriteItem.fail e).proceeds := interrupted
    exact follows_after proceeds ih
  | case6 e script unsent some_left ends =>
    have ends : (WriteItem.fail e).proceeds = false := Bool.eq_false_iff.2 ends
    exact follows_of_ends ends some_left rfl rfl
  | case7 script unsent some_left => exact follows_of_ends rfl some_left rfl rfl

end Writing

/-! ## Sending -/

namespace Stream

variable {s : Stream} {bytes : List UInt8} {n : Nat} {item : WriteItem}

theorem sendAll_of_stop? (stops : Writing.stop? s.writes bytes.length = some (n, item)) :
    (s.sendAll bytes).1 = item.sendEnd n ∧
      (s.sendAll bytes).2.accepted = s.accepted ++ bytes.take n := by
  have follows := Writing.follows_run s.writes bytes
  rw [Writing.Follows, stops] at follows
  obtain ⟨finish, accepted⟩ := follows
  have written : (bytes.take n).length = n :=
    List.length_take_of_le (Nat.le_of_lt (Writing.lt_of_stop?_some stops))
  refine ⟨?_, by rw [(output_sendAll s bytes).1, accepted]⟩
  cases item <;> simp only [sendAll, finish, accepted, written, WriteItem.ending, WriteItem.sendEnd]

theorem sendAll_of_not_stop? (free : Writing.stop? s.writes bytes.length = none) :
    (s.sendAll bytes).1 = (s.flushes.head?.join.map SendEnd.failed).getD .sent ∧
      (s.sendAll bytes).2.accepted = s.accepted ++ bytes := by
  have follows := Writing.follows_run s.writes bytes
  rw [Writing.Follows, free] at follows
  obtain ⟨finish, accepted⟩ := follows
  refine ⟨?_, by rw [(output_sendAll s bytes).1, accepted]⟩
  cases flushed : s.flushes.head?.join <;> simp only [sendAll, finish, flush, flushed] <;> rfl

end Stream

namespace Connection

/-- The packet went out: its bytes follow what was sent before, it is counted and told of, and the
    connection stays connected. -/
structure Delivered (c : Connection) (packet : TimePacket) (clock : Clock)
    (turn : Turn (Except Failure Nat)) : Prop where
  result : turn.result = .ok 4
  output : turn.connection.stream.accepted = c.stream.accepted ++ encode packet.timestamp
  connected : turn.connection.connected
  traffic : turn.connection.traffic = c.traffic.sendOne
  journal : turn.journal = [.count (.sent 4), .note (.sent packet clock c.client)]

/-- The send broke off with an error after these bytes: the connection is no longer connected, one
    failure is counted and nothing else, and the observer is told of it once, as an error. -/
structure BrokeOff (c : Connection) (turn : Turn (Except Failure Nat)) (error : ConnectionError)
    (bytes : List UInt8) : Prop where
  result : turn.result = .error (.error error)
  output : turn.connection.stream.accepted = c.stream.accepted ++ bytes
  disconnected : turn.connection.connected = false
  traffic : turn.connection.traffic = c.traffic
  counted : ∀ stats : Stats,
    stats.record turn.journal = { stats with ioErrors := stats.ioErrors + 1 }
  told : turn.journal.notices = [.transferFailed .send c.client error]
  loud : turn.journal.notices.map Notice.level = [.error]

/-- The thread broke after these bytes, and nothing was counted or told. -/
structure Unwound (c : Connection) (turn : Turn (Except Failure Nat)) (bytes : List UInt8) :
    Prop where
  result : turn.result = .error .panic
  output : turn.connection.stream.accepted = c.stream.accepted ++ bytes
  journal : turn.journal = []

section

variable {c : Connection} {packet : TimePacket} {clock : Clock} (connected : c.connected)
  (held : c.held)

include connected held

theorem delivered_of_sent (finish : (c.stream.sendAll packet.toWire).1 = .sent)
    (output : (c.stream.sendAll packet.toWire).2.accepted = c.stream.accepted ++ packet.toWire) :
    c.Delivered packet clock (c.sendPacket packet clock) := by
  have turn : c.sendPacket packet clock =
      ⟨.ok 4, { c with stream := (c.stream.sendAll packet.toWire).2, traffic := c.traffic.sendOne },
        [.count (.sent 4), .note (.sent packet clock c.client)]⟩ := by
    simp only [sendPacket, connected, held, finish]
    rfl
  rw [turn]
  exact ⟨rfl, output, connected, rfl, rfl⟩

theorem brokeOff_of_error? {error : ConnectionError} {bytes : List UInt8}
    (stopped : (c.stream.sendAll packet.toWire).1.error? packetSize = some error)
    (output : (c.stream.sendAll packet.toWire).2.accepted = c.stream.accepted ++ bytes) :
    c.BrokeOff (c.sendPacket packet clock) error bytes := by
  have turn : c.sendPacket packet clock =
      ⟨.error (.error error),
        { c with stream := (c.stream.sendAll packet.toWire).2, connected := false },
        [.count .ioError, .note (.transferFailed .send c.client error)]⟩ := by
    cases finish : (c.stream.sendAll packet.toWire).1 with
    | stalled | failed _ =>
      rw [finish] at stopped
      cases stopped
      simp only [sendPacket, connected, held, finish, fail]
      rfl
    | sent | panicked =>
      rw [finish] at stopped
      cases stopped
  rw [turn]
  exact ⟨rfl, output, rfl, rfl, fun _ => rfl, rfl, rfl⟩

theorem unwound_of_panicked {bytes : List UInt8}
    (finish : (c.stream.sendAll packet.toWire).1 = .panicked)
    (output : (c.stream.sendAll packet.toWire).2.accepted = c.stream.accepted ++ bytes) :
    c.Unwound (c.sendPacket packet clock) bytes := by
  have turn : c.sendPacket packet clock =
      ⟨.error .panic, { c with stream := (c.stream.sendAll packet.toWire).2 }, []⟩ := by
    simp only [sendPacket, connected, held, finish]
    rfl
  rw [turn]
  exact ⟨rfl, output, rfl⟩

end

/-- What a send comes to on a connection, whatever was done with it before, told from the scripts of
    its stream: the packet goes out, or the first call that takes nothing, the first failure that is
    no interruption, or else the flush decides how the send breaks off. -/
theorem sendPacket_exact (client : String) (rules : AccessRules) (stream : Stream)
    (steps : List (Clock × Operation)) (packet : TimePacket) (clock : Clock)
    (connected :
      ((establish client rules stream).connection.performAll steps).connection.connected) :
    let c := ((establish client rules stream).connection.performAll steps).connection
    let turn := c.sendPacket packet clock
    let bytes := encode packet.timestamp
    match Writing.stop? c.stream.writes 4, c.stream.flushes.head?.join with
    | none, none => c.Delivered packet clock turn
    | none, some e => c.BrokeOff turn (.io e) bytes
    | some (n, .accept limit), _ =>
      limit = 0 ∧ n ≤ 3 ∧ c.BrokeOff turn (.writeZero n 4) (bytes.take n)
    | some (n, .fail e), _ =>
      e.isInterrupted = false ∧ n ≤ 3 ∧ c.BrokeOff turn (.io e) (bytes.take n)
    | some (n, .panic), _ => n ≤ 3 ∧ c.Unwound turn (bytes.take n) := by
  intro c turn bytes
  have held : c.held := sound_performAll (sound_establish client rules stream) steps connected
  cases stops : Writing.stop? c.stream.writes 4 with
  | none =>
    -- All four bytes are taken, so that only the flush can fail.
    obtain ⟨finish, output⟩ := @Stream.sendAll_of_not_stop? c.stream packet.toWire stops
    cases flushed : c.stream.flushes.head?.join with
    | none =>
      rw [flushed] at finish
      exact delivered_of_sent connected held finish output
    | some e =>
      rw [flushed] at finish
      exact brokeOff_of_error? connected held (congrArg (SendEnd.error? packetSize) finish) output
  | some stop =>
    obtain ⟨n, item⟩ := stop
    obtain ⟨finish, output⟩ := @Stream.sendAll_of_stop? c.stream packet.toWire n item stops
    have few : n ≤ 3 := Nat.le_of_lt_succ (Writing.lt_of_stop?_some stops)
    have ends := Writing.ends_of_stop?_some stops
    cases item with
    | accept limit =>
      have nothing : limit = 0 := by simpa [WriteItem.proceeds] using ends
      exact ⟨nothing, few,
        brokeOff_of_error? connected held (congrArg (SendEnd.error? packetSize) finish) output⟩
    | fail e =>
      exact ⟨ends, few,
        brokeOff_of_error? connected held (congrArg (SendEnd.error? packetSize) finish) output⟩
    | panic => exact ⟨few, unwound_of_panicked connected held finish output⟩

/-- A stream that takes three bytes in two calls, is interrupted around them, and then takes none.
    -/
def reluctant : Stream where
  writes := [.fail (.plain .interrupted), .accept 1, .accept 2, .fail (.os 4), .accept 0]

theorem sendPacket_exact_reluctant :
    let c := (establish "a" {} reluctant).connection
    c.BrokeOff (c.sendPacket ⟨0x01020304⟩ ⟨0, 0⟩) (.writeZero 3 4) [1, 2, 3] := by
  obtain ⟨-, -, broke⟩ := sendPacket_exact "a" {} reluctant [] ⟨0x01020304⟩ ⟨0, 0⟩ rfl
  exact broke

end Connection

end TimeServer
