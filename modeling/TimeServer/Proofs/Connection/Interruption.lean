import TimeServer.Proofs.Connection.Framing

/-! # Interrupted calls

A read or a write that was merely interrupted is made again, so nobody sees that it happened.  A
flush is not.

* `Interspersed`, `Stream.Disturbed` — scripts and streams with further interruptions put in;
* `Writing.run_interspersed`, `Reading.run_interspersed` — the loops make the same of them;
* `disturbed_performAll` — and so does every sequence of operations;
* `Stream.interrupted_sendAll_iff` — a send fails with an interruption just if its flush does;
* `same_of_interruptions` — what interruptions change and what they do not;
* `seen_interrupted_flush` — an interrupted flush, which is seen.
-/

namespace TimeServer

/-- The read call is merely interrupted. -/
def ReadItem.isInterruption : ReadItem → Bool
  | .fail e => e.isInterrupted
  | .bytes _ => false

/-- The write call is merely interrupted. -/
def WriteItem.isInterruption : WriteItem → Bool
  | .fail e => e.isInterrupted
  | .accept _ | .panic => false

/-- A script, and the same script with further interruptions put in anywhere. -/
inductive Interspersed {α : Type} (isInterruption : α → Bool) : List α → List α → Prop
  | nil : Interspersed isInterruption [] []
  | keep (item : α) {script script' : List α} (rest : Interspersed isInterruption script script') :
      Interspersed isInterruption (item :: script) (item :: script')
  | put {item : α} (interruption : isInterruption item) {script script' : List α}
      (rest : Interspersed isInterruption script script') :
      Interspersed isInterruption script (item :: script')

/-! ## The loops -/

namespace Writing

/-- Writing makes the same of a script with interruptions put in, and leaves such a script. -/
theorem run_interspersed {script script' : List WriteItem}
    (interspersed : Interspersed WriteItem.isInterruption script script') (unsent : List UInt8) :
    (run script' unsent).finish = (run script unsent).finish ∧
      (run script' unsent).accepted = (run script unsent).accepted ∧
      Interspersed WriteItem.isInterruption (run script unsent).script
        (run script' unsent).script := by
  induction interspersed generalizing unsent with
  | nil => cases unsent <;> exact ⟨rfl, rfl, .nil⟩
  | @keep item script script' rest ih =>
    cases unsent with
    | nil => exact ⟨rfl, rfl, .keep item rest⟩
    | cons byte bytes =>
      cases item with
      | accept limit =>
        cases limit with
        | zero => exact ⟨rfl, rfl, rest⟩
        | succ limit =>
          obtain ⟨finish, accepted, left⟩ := ih ((byte :: bytes).drop (limit + 1))
          exact ⟨finish, congrArg (_ ++ ·) accepted, left⟩
      | fail e =>
        simp only [run]
        split
        · exact ih (byte :: bytes)
        · exact ⟨rfl, rfl, rest⟩
      | panic => exact ⟨rfl, rfl, rest⟩
  | @put item interruption script script' rest ih =>
    cases unsent with
    | nil =>
      rw [run_nothing, run_nothing]
      exact ⟨rfl, rfl, .put interruption rest⟩
    | cons byte bytes =>
      cases item with
      | fail e =>
        have interrupted : e.isInterrupted := interruption
        simp only [run, interrupted, if_true]
        exact ih (byte :: bytes)
      | accept | panic => cases interruption

variable {script : List WriteItem} {unsent : List UInt8} {e : IoError}

theorem fatal_of_failed (failed : (run script unsent).finish = .failed e) :
    e.isInterrupted = false := by
  fun_induction run script unsent with
  | case1 | case2 | case3 | case7 => cases failed
  | case4 limit script unsent _ _ ih | case5 e script unsent _ _ ih => exact ih failed
  | case6 e script unsent _ fatal =>
    cases failed
    exact Bool.eq_false_iff.2 fatal

theorem complete_iff : (run script unsent).finish = .complete ↔
    (run script unsent).accepted = unsent := by
  refine ⟨accepted_of_complete, fun whole => ?_⟩
  fun_induction run script unsent with
  | case1 | case2 => rfl
  | case3 | case6 | case7 => simp_all
  | case4 limit script unsent _ _ ih =>
    apply ih
    exact List.append_cancel_left (whole.trans (List.take_append_drop limit unsent).symm)
  | case5 e script unsent _ _ ih => exact ih whole

end Writing

namespace Reading

theorem run_nothing (script : List ReadItem) : run script 0 = ⟨.complete, [], [], script⟩ := by
  cases script <;> rfl

/-- Reading makes the same of a script with interruptions put in, and leaves such a script. -/
theorem run_interspersed {script script' : List ReadItem}
    (interspersed : Interspersed ReadItem.isInterruption script script') (missing : Nat) :
    (run script' missing).finish = (run script missing).finish ∧
      (run script' missing).received = (run script missing).received ∧
      Interspersed ReadItem.isInterruption (run script missing).script
        (run script' missing).script := by
  induction interspersed generalizing missing with
  | nil => cases missing <;> exact ⟨rfl, rfl, .nil⟩
  | @keep item script script' rest ih =>
    cases missing with
    | zero => exact ⟨rfl, rfl, .keep item rest⟩
    | succ missing =>
      cases item with
      | bytes data =>
        cases data with
        | nil => exact ⟨rfl, rfl, rest⟩
        | cons byte data =>
          simp only [run]
          split
          · obtain ⟨finish, received, left⟩ := ih (missing + 1 - (byte :: data).length)
            exact ⟨finish, congrArg (_ ++ ·) received, left⟩
          · exact ⟨rfl, rfl, .keep _ rest⟩
      | fail e =>
        simp only [run]
        split
        · exact ih (missing + 1)
        · exact ⟨rfl, rfl, rest⟩
  | @put item interruption script script' rest ih =>
    cases missing with
    | zero =>
      rw [run_nothing, run_nothing]
      exact ⟨rfl, rfl, .put interruption rest⟩
    | succ missing =>
      cases item with
      | fail e =>
        have interrupted : e.isInterrupted := interruption
        simp only [run, interrupted, if_true]
        exact ih (missing + 1)
      | bytes => cases interruption

theorem fatal_of_failed {script : List ReadItem} {missing : Nat} {e : IoError}
    (failed : (run script missing).finish = .failed e) : e.isInterrupted = false := by
  fun_induction run script missing with
  | case1 | case2 | case3 | case5 => cases failed
  | case4 data script missing _ _ _ ih | case6 e script missing _ _ ih => exact ih failed
  | case7 e script missing _ fatal =>
    cases failed
    exact Bool.eq_false_iff.2 fatal

end Reading

/-! ## Streams -/

namespace Stream

/-- A stream, and the same stream with further interruptions put into its reads and writes.  The
    calls made so far may differ, but for the shutdowns. -/
structure Disturbed (s s' : Stream) : Prop where
  reads : Interspersed ReadItem.isInterruption s.reads s'.reads
  writes : Interspersed WriteItem.isInterruption s.writes s'.writes
  flushes : s'.flushes = s.flushes
  shutdownError : s'.shutdownError = s.shutdownError
  accepted : s'.accepted = s.accepted
  shutdowns : s'.shutdowns = s.shutdowns

variable {s s' : Stream} {e : IoError}

theorem Disturbed.sendAll (disturbed : s.Disturbed s') (bytes : List UInt8) :
    (s'.sendAll bytes).1 = (s.sendAll bytes).1 ∧
      (s.sendAll bytes).2.Disturbed (s'.sendAll bytes).2 := by
  obtain ⟨finish, accepted, left⟩ := Writing.run_interspersed disturbed.writes bytes
  have shutdowns : (s'.sendAll bytes).2.shutdowns = (s.sendAll bytes).2.shutdowns := by
    rw [shutdowns_sendAll, shutdowns_sendAll, disturbed.shutdowns]
  simp only [Stream.sendAll, flush, finish, accepted, disturbed.flushes, disturbed.accepted]
    at shutdowns ⊢
  cases ended : (Writing.run s.writes bytes).finish with
  | complete =>
    rw [ended] at shutdowns
    cases flushed : s.flushes.head?.join <;> rw [flushed] at shutdowns <;>
      exact ⟨rfl, disturbed.reads, left, rfl, disturbed.shutdownError, rfl, shutdowns⟩
  | stalled | failed _ | panicked =>
    rw [ended] at shutdowns
    exact ⟨rfl, disturbed.reads, left, rfl, disturbed.shutdownError, rfl, shutdowns⟩

theorem Disturbed.receiveAll (disturbed : s.Disturbed s') (count : Nat) :
    (s'.receiveAll count).1 = (s.receiveAll count).1 ∧
      (s'.receiveAll count).2.1 = (s.receiveAll count).2.1 ∧
      (s.receiveAll count).2.2.Disturbed (s'.receiveAll count).2.2 := by
  obtain ⟨finish, received, left⟩ := Reading.run_interspersed disturbed.reads count
  have shutdowns : (s'.receiveAll count).2.2.shutdowns = (s.receiveAll count).2.2.shutdowns := by
    rw [shutdowns_receiveAll, shutdowns_receiveAll, disturbed.shutdowns]
  exact ⟨finish, received, left, disturbed.writes, disturbed.flushes, disturbed.shutdownError,
    disturbed.accepted, shutdowns⟩

/-- A send fails with an interruption just if all its bytes were accepted and the flush behind them
    was interrupted. -/
theorem interrupted_sendAll_iff (s : Stream) (bytes : List UInt8) (interrupted : e.isInterrupted) :
    (s.sendAll bytes).1 = .failed e ↔
      (s.sendAll bytes).2.accepted = s.accepted ++ bytes ∧ s.flushes.head?.join = some e := by
  rw [(output_sendAll s bytes).1, List.append_cancel_left_eq, ← Writing.complete_iff]
  simp only [sendAll, flush]
  cases ended : (Writing.run s.writes bytes).finish with
  | complete => cases s.flushes.head?.join <;> simp
  | stalled | panicked => simp
  | failed cause =>
    -- A write that is interrupted is made again, so this is another failure.
    have other : cause ≠ e := by
      rintro rfl
      rw [Writing.fatal_of_failed ended] at interrupted
      cases interrupted
    simp [other]

end Stream

/-! ## Connections -/

/-- A connection, and the same connection on a stream with further interruptions put in. -/
def Connection.Disturbed (c c' : Connection) : Prop :=
  ∃ stream, c.stream.Disturbed stream ∧ c' = { c with stream }

/-- Two turns that nobody can tell apart. -/
structure Turn.Alike {α : Type} (turn turn' : Turn α) : Prop where
  result : turn'.result = turn.result
  journal : turn'.journal = turn.journal
  connection : turn.connection.Disturbed turn'.connection

namespace Connection

variable {c c' : Connection}

theorem disturbed_close (disturbed : c.Disturbed c') : c.close.Alike c'.close := by
  obtain ⟨stream, disturbed, rfl⟩ := disturbed
  unfold close
  split
  · have shutdowns : stream.shutdown.2.shutdowns = c.stream.shutdown.2.shutdowns := by
      simpa [Stream.shutdown, Stream.shutdowns] using disturbed.shutdowns
    simp only [Stream.shutdown, disturbed.shutdownError]
    refine ⟨rfl, rfl, _, ?_, rfl⟩
    exact { disturbed with shutdownError := rfl, shutdowns := shutdowns }
  · exact ⟨rfl, rfl, stream, disturbed, rfl⟩

theorem disturbed_sendPacket (disturbed : c.Disturbed c') (packet : TimePacket) (clock : Clock) :
    (c.sendPacket packet clock).Alike (c'.sendPacket packet clock) := by
  obtain ⟨stream, disturbed, rfl⟩ := disturbed
  obtain ⟨finish, after⟩ := disturbed.sendAll packet.toWire
  simp only [sendPacket, finish]
  split
  · exact ⟨rfl, rfl, stream, disturbed, rfl⟩
  · split
    · exact ⟨rfl, rfl, stream, disturbed, rfl⟩
    · cases (c.stream.sendAll packet.toWire).1 <;> exact ⟨rfl, rfl, _, after, rfl⟩

theorem disturbed_receivePacket (disturbed : c.Disturbed c') (clock : Clock) :
    (c.receivePacket clock).Alike (c'.receivePacket clock) := by
  obtain ⟨stream, disturbed, rfl⟩ := disturbed
  obtain ⟨finish, received, after⟩ := disturbed.receiveAll packetSize
  simp only [receivePacket, finish, received]
  split
  · exact ⟨rfl, rfl, stream, disturbed, rfl⟩
  · split
    · exact ⟨rfl, rfl, stream, disturbed, rfl⟩
    · cases (c.stream.receiveAll packetSize).1 with
      | closed | failed _ => exact ⟨rfl, rfl, _, after, rfl⟩
      | complete =>
        cases decode (c.stream.receiveAll packetSize).2.1 clock <;>
          exact ⟨rfl, rfl, _, after, rfl⟩

theorem disturbed_serve (disturbed : c.Disturbed c') (clock : Clock) :
    (c.serve clock).Alike (c'.serve clock) := by
  have sending := disturbed_sendPacket disturbed (.atClock clock) clock
  have closing := disturbed_close disturbed
  obtain ⟨stream, _, rfl⟩ := disturbed
  unfold serve
  cases c.rules.check c.client with
  | allow =>
    exact ⟨congrArg (Except.map _) sending.result, sending.journal, sending.connection⟩
  | deny | restrict => exact ⟨rfl, congrArg (_ ++ ·) closing.journal, closing.connection⟩

theorem disturbed_perform (disturbed : c.Disturbed c') (clock : Clock) (operation : Operation) :
    (c.perform clock operation).Alike (c'.perform clock operation) := by
  cases operation with
  | serve =>
    have alike := disturbed_serve disturbed clock
    exact ⟨congrArg (Outcome.ofResult _) alike.result, alike.journal, alike.connection⟩
  | send packet =>
    have alike := disturbed_sendPacket disturbed packet clock
    exact ⟨congrArg (Outcome.ofResult _) alike.result, alike.journal, alike.connection⟩
  | receive =>
    have alike := disturbed_receivePacket disturbed clock
    exact ⟨congrArg (Outcome.ofResult _) alike.result, alike.journal, alike.connection⟩
  | close =>
    have alike := disturbed_close disturbed
    exact ⟨rfl, alike.journal, alike.connection⟩

theorem disturbed_performAll (disturbed : c.Disturbed c') (steps : List (Clock × Operation)) :
    (c.performAll steps).Alike (c'.performAll steps) := by
  induction steps generalizing c c' with
  | nil => exact ⟨rfl, rfl, disturbed⟩
  | cons step steps ih =>
    have first := disturbed_perform disturbed step.1 step.2
    have later := ih first.connection
    exact ⟨congrArg₂ _ first.result later.result, congrArg₂ _ first.journal later.journal,
      later.connection⟩

/-! ## Interruptions that are seen -/

/-- The operation has its packet taken as a whole by the stream, which has then accepted these
    bytes, and the flush behind the packet fails. -/
def FlushFails (c : Connection) (clock : Clock) (operation : Operation) (output : List UInt8)
    (e : IoError) : Prop :=
  c.connected ∧ c.Admits operation ∧ c.stream.flushes.head?.join = some e ∧
    ∃ packet, operation.packet? clock = some packet ∧
      output = c.stream.accepted ++ packet.toWire

variable {clock : Clock} {operation : Operation} {turn : Turn Outcome} {e : IoError}

theorem flushFails_iff {packet : TimePacket} {finish : SendEnd} {stream : Stream}
    (interrupted : e.isInterrupted) (sends : operation.packet? clock = some packet)
    (admits : c.Admits operation) (connected : c.connected)
    (written : c.stream.sendAll packet.toWire = (finish, stream)) :
    c.FlushFails clock operation stream.accepted e ↔ finish = .failed e := by
  have flushed := c.stream.interrupted_sendAll_iff packet.toWire interrupted
  rw [written] at flushed
  rw [flushed]
  constructor
  · rintro ⟨_, _, flush, _, sends', output⟩
    cases sends.symm.trans sends'
    exact ⟨output, flush⟩
  · rintro ⟨output, flush⟩
    exact ⟨connected, admits, flush, packet, sends, output⟩

theorem not_flushFails {output : List UInt8} (silent : operation.packet? clock = none) :
    ¬ c.FlushFails clock operation output e := by
  rintro ⟨_, _, _, _, sends, _⟩
  rw [silent] at sends
  cases sends

/-- An operation fails with an interruption just if the stream took its whole packet and the flush
    behind it was interrupted. -/
theorem Step.interrupted_iff (step : Step c clock operation turn) (interrupted : e.isInterrupted) :
    turn.result = .failed (.error (.io e)) ↔
      c.FlushFails clock operation turn.connection.stream.accepted e := by
  cases step with
  | denied refused => exact iff_of_false nofun fun ⟨_, admits, _⟩ => refused (admits rfl)
  | shut _ _ shut =>
    exact iff_of_false nofun fun ⟨connected, _⟩ => Bool.false_ne_true (shut.symm.trans connected)
  | sent sends admits connected _ written =>
    rw [flushFails_iff interrupted sends admits connected written]
    exact iff_of_false (by cases operation <;> exact nofun) nofun
  | @brokeOff _ _ finish _ _ sends admits connected _ written stopped =>
    rw [flushFails_iff interrupted sends admits connected written]
    cases finish with
    | sent | panicked => cases stopped
    | stalled | failed _ =>
      cases stopped
      simp
  | panicked sends admits connected _ written =>
    rw [flushFails_iff interrupted sends admits connected written]
    exact iff_of_false nofun nofun
  | @unread _ _ cause _ _ read =>
    refine iff_of_false (fun same => ?_) (not_flushFails rfl)
    -- A read that is interrupted is made again.
    cases same
    have fatal := Reading.fatal_of_failed (congrArg Prod.fst read)
    rw [interrupted] at fatal
    cases fatal
  | closed | received | rejected | peerClosed => exact iff_of_false nofun (not_flushFails rfl)

/-- Interruptions of reads and writes, put in anywhere, change nothing that can be seen: whatever is
    done with the connection gives the same results, the same events and counts, the same output,
    and leaves the same connection.  An operation on it then fails with an interruption just if the
    stream took its whole packet and the flush behind it was interrupted. -/
theorem same_of_interruptions (client : String) (rules : AccessRules) {stream stream' : Stream}
    (disturbed : stream.Disturbed stream') (steps : List (Clock × Operation)) :
    let run := (establish client rules stream).connection.performAll steps
    let run' := (establish client rules stream').connection.performAll steps
    (run'.result = run.result ∧ run'.journal = run.journal ∧
        run'.connection.traffic = run.connection.traffic ∧
        run'.connection.connected = run.connection.connected ∧
        run'.connection.held = run.connection.held ∧
        run'.connection.stream.accepted = run.connection.stream.accepted ∧
        run'.connection.stream.shutdowns = run.connection.stream.shutdowns) ∧
      ∀ clock operation e, e.isInterrupted →
        let turn := run'.connection.perform clock operation
        (turn.result = .failed (.error (.io e)) ↔
          run'.connection.FlushFails clock operation turn.connection.stream.accepted e) := by
  intro run run'
  have arrival : (establish client rules stream).connection.Disturbed
      (establish client rules stream').connection := ⟨stream', disturbed, rfl⟩
  have alike : run.Alike run' := disturbed_performAll arrival steps
  have sound : run'.connection.Sound :=
    sound_performAll (sound_establish client rules stream') steps
  refine ⟨?_, fun clock operation e interrupted => ?_⟩
  · obtain ⟨after, same, left⟩ := alike.connection
    refine ⟨alike.result, alike.journal, ?_⟩
    rw [left]
    exact ⟨rfl, rfl, rfl, same.accepted, same.shutdowns⟩
  · exact (step_perform sound clock operation).interrupted_iff interrupted

/-- A stream that brings and takes a packet in pieces and is interrupted in its second flush. -/
def steady : Stream where
  reads := [.bytes [0, 0], .bytes [0, 9]]
  writes := [.accept 1, .accept 3]
  flushes := [none, some (.os 4)]

/-- The same stream, interrupted at every turn. -/
def jittery : Stream where
  reads := [.bytes [0, 0], .fail (.os 4), .bytes [0, 9], .fail (.plain .interrupted)]
  writes := [.fail (.plain .interrupted), .accept 1, .fail (.os 4), .fail (.os 4), .accept 3]
  flushes := [none, some (.os 4)]

theorem disturbed_jittery : steady.Disturbed jittery where
  reads := .keep _ (.put rfl (.keep _ (.put rfl .nil)))
  writes := .put rfl (.keep _ (.put rfl (.put rfl (.keep _ .nil))))
  flushes := rfl
  shutdownError := rfl
  accepted := rfl
  shutdowns := rfl

theorem same_of_interruptions_jittery :
    let steps : List (Clock × Operation) := [(⟨10, 0⟩, .receive), (⟨10, 0⟩, .serve)]
    let run := (establish "a" {} steady).connection.performAll steps
    let run' := (establish "a" {} jittery).connection.performAll steps
    run.result = [.received ⟨9⟩, .served .served] ∧ run'.result = run.result ∧
      run'.journal = run.journal ∧ run'.connection.stream.accepted = encode 10 ∧
      (run'.connection.perform ⟨11, 0⟩ (.send ⟨5⟩)).result =
        .failed (.error (.io (.os 4))) := by
  intro steps run run'
  obtain ⟨⟨result, journal, _, _, _, accepted, _⟩, seen⟩ :=
    same_of_interruptions "a" {} disturbed_jittery steps
  refine ⟨by decide +kernel, result, journal, accepted.trans (by decide +kernel), ?_⟩
  apply (seen ⟨11, 0⟩ (.send ⟨5⟩) (.os 4) rfl).2
  exact ⟨by decide +kernel, nofun, by decide +kernel, ⟨5⟩, rfl, by decide +kernel⟩

/-- An interruption put in front of a flush makes a send fail whose packet is already out. -/
theorem seen_interrupted_flush :
    let calm := (establish "a" {} {}).connection
    let cut := (establish "a" {} { flushes := [some (.plain .interrupted)] }).connection
    (calm.perform ⟨10, 0⟩ (.send ⟨5⟩)).result = .sent packetSize ∧
      (cut.perform ⟨10, 0⟩ (.send ⟨5⟩)).result =
        .failed (.error (.io (.plain .interrupted))) ∧
      (cut.perform ⟨10, 0⟩ (.send ⟨5⟩)).connection.stream.accepted = encode 5 ∧
      (cut.perform ⟨10, 0⟩ (.send ⟨5⟩)).connection.connected = false := by
  decide +kernel

end Connection

end TimeServer
