import TimeServer.Proofs.Connection.Interruption

/-! # The loops that transfer bytes

Sending and receiving go round in the same way: while bytes are missing a call is made for all of
them, and a call that was not interrupted and yet transfers nothing is the last.

* `Loop`, `Loop.Runs` — where such a loop stands between two calls, and how it comes to its end;
* `Loop.Steady` — a call gets on, uses up an interruption, or is the last;
* `Loop.exists_runs`, `Loop.Runs.bounded` — so every loop ends, stays within its bytes and makes few
  calls;
* `Writing.of_runs`, `Reading.of_runs` — writing and reading are such loops;
* `Stream.transfers_bounded` — what this means for the four bytes of a packet.
-/

namespace TimeServer

/-- Where a loop stands: how many bytes are transferred, and the calls to come. -/
structure Loop (Item : Type) where
  position : Nat
  script : List Item

namespace Loop

variable {Item : Type}

/-- What the next call of a script gives to a loop that misses so many bytes: how many of them it
    transfers, and the script after it; `none` if the loop ends with the call. -/
abbrev Call (Item : Type) := List Item → Nat → Option (Nat × List Item)

/-- From here the loop makes calls at these positions and then has ended there. -/
inductive Runs (call? : Call Item) (total : Nat) : Loop Item → List Nat → Loop Item → Prop
  | full {script : List Item} : Runs call? total ⟨total, script⟩ [] ⟨total, script⟩
  | last {position : Nat} {script : List Item} (missing : position < total)
      (ends : call? script (total - position) = none) :
      Runs call? total ⟨position, script⟩ [position] ⟨position, script.tail⟩
  | pass {position moved : Nat} {script rest : List Item} {positions : List Nat}
      {stop : Loop Item} (missing : position < total)
      (goes : call? script (total - position) = some (moved, rest))
      (later : Runs call? total ⟨position + moved, rest⟩ positions stop) :
      Runs call? total ⟨position, script⟩ (position :: positions) stop

/-- A call transfers no more than is missing, and nothing at all only if it uses up an
    interruption. -/
structure Steady (call? : Call Item) (isInterruption : Item → Bool) : Prop where
  goes : ∀ {script rest : List Item} {missing moved : Nat}, 0 < missing →
    call? script missing = some (moved, rest) →
      moved ≤ missing ∧ rest.countP isInterruption + 1 ≤ script.countP isInterruption + moved
  ends : ∀ {script : List Item} {missing : Nat}, call? script missing = none →
    script.tail.countP isInterruption = script.countP isInterruption

/-- What a loop over so many bytes did to its end: at each of its calls some bytes were missing, it
    never went beyond the last, and it made one call at most for each byte and for each interruption
    that it used up. -/
structure Bounded (isInterruption : Item → Bool) (total : Nat) (l : Loop Item)
    (positions : List Nat) (stop : Loop Item) : Prop where
  missing : ∀ position ∈ positions, position < total
  within : stop.position ≤ total
  few : positions.length + stop.script.countP isInterruption ≤
    total - l.position + l.script.countP isInterruption

variable {call? : Call Item} {isInterruption : Item → Bool} {total : Nat} {l stop : Loop Item}
  {positions : List Nat}

/-- Every loop comes to its end: a call brings it closer to its last byte, or takes an interruption
    from those to come. -/
theorem exists_runs (steady : Steady call? isInterruption) (inside : l.position ≤ total) :
    ∃ positions stop, Runs call? total l positions stop := by
  -- The position alone need not change, nor the script: their sum tells how much is left.
  generalize left_eq : total - l.position + l.script.countP isInterruption = left
  induction left using Nat.strongRecOn generalizing l with
  | ind left ih =>
    obtain ⟨position, script⟩ := l
    simp only at inside left_eq
    cases Nat.lt_or_ge position total with
    | inr full =>
      obtain rfl := Nat.le_antisymm inside full
      exact ⟨_, _, .full⟩
    | inl missing =>
      cases goes : call? script (total - position) with
      | none => exact ⟨_, _, .last missing goes⟩
      | some next =>
        obtain ⟨moved, rest⟩ := next
        obtain ⟨few, used⟩ := steady.goes (Nat.sub_pos_of_lt missing) goes
        obtain ⟨positions, stop, later⟩ := ih (total - (position + moved) + rest.countP
          isInterruption) (by omega) (l := ⟨position + moved, rest⟩) (by simp only; omega) rfl
        exact ⟨_, _, .pass missing goes later⟩

theorem Runs.bounded (steady : Steady call? isInterruption)
    (runs : Runs call? total l positions stop) :
    Bounded isInterruption total l positions stop := by
  induction runs with
  | full => exact ⟨List.forall_mem_nil _, Nat.le_refl _, by simp⟩
  | @last position script missing ends =>
    refine ⟨List.forall_mem_singleton.2 missing, Nat.le_of_lt missing, ?_⟩
    rw [steady.ends ends, List.length_singleton]
    simp only
    omega
  | @pass position moved script rest positions stop missing goes later ih =>
    obtain ⟨some_left, used⟩ := steady.goes (Nat.sub_pos_of_lt missing) goes
    have few := ih.few
    refine ⟨List.forall_mem_cons.2 ⟨missing, ih.missing⟩, ih.within, ?_⟩
    simp only [List.length_cons] at few ⊢
    omega

end Loop

/-! ## Writing -/

namespace Writing

/-- What the next write call gives to the loop.  A script that has run out accepts everything. -/
def call? : Loop.Call WriteItem
  | [], missing => some (missing, [])
  | item :: script, missing =>
    if item.proceeds then some (min item.capacity missing, script) else none

theorem steady_call? : Loop.Steady call? WriteItem.isInterruption where
  goes {script rest missing moved} some_left goes := by
    cases script with
    | nil =>
      cases goes
      simp only [List.countP_nil]
      omega
    | cons item script =>
      simp only [call?, Option.ite_none_right_eq_some, Option.some.injEq, Prod.mk.injEq] at goes
      obtain ⟨proceeds, rfl, rfl⟩ := goes
      cases item with
      | accept limit =>
        have positive : 0 < limit := by simpa [WriteItem.proceeds] using proceeds
        simp only [WriteItem.capacity, List.countP_cons, WriteItem.isInterruption]
        omega
      | fail e =>
        have interrupted : e.isInterrupted := proceeds
        simp [WriteItem.capacity, WriteItem.isInterruption, interrupted]
      | panic => cases proceeds
  ends {script missing} ends := by
    cases script with
    | nil => rfl
    | cons item script =>
      have stops : item.proceeds = false := by simpa [call?] using ends
      have fresh : item.isInterruption = false := by
        cases item with
        | accept | panic => rfl
        | fail e => exact stops
      simp [fresh]

variable {script rest : List WriteItem} {unsent : List UInt8} {moved : Nat}

theorem run_of_call?_some (some_left : unsent ≠ [])
    (goes : call? script unsent.length = some (moved, rest)) :
    run script unsent = (run rest (unsent.drop moved)).after unsent (unsent.take moved) := by
  obtain ⟨byte, bytes, rfl⟩ := List.exists_cons_of_ne_nil some_left
  cases script with
  | nil =>
    cases goes
    rw [List.drop_length, List.take_length, run_nothing]
    simp [run, after]
  | cons item script =>
    simp only [call?, Option.ite_none_right_eq_some, Option.some.injEq, Prod.mk.injEq] at goes
    obtain ⟨proceeds, rfl, rfl⟩ := goes
    cases item with
    | accept limit =>
      cases limit with
      | zero => cases proceeds
      | succ limit =>
        rw [run]
        · simp only [WriteItem.capacity]
          rw [List.take_eq_take_min, ← List.drop_eq_drop_min]
        · simp
        · simp
    | fail e =>
      have interrupted : e.isInterrupted := proceeds
      simp [run, WriteItem.capacity, interrupted]
    | panic => cases proceeds

theorem run_of_call?_none (some_left : unsent ≠ []) (ends : call? script unsent.length = none) :
    (run script unsent).finish ≠ .complete ∧ (run script unsent).accepted = [] ∧
      (run script unsent).calls = [.write unsent] ∧ (run script unsent).script = script.tail := by
  obtain ⟨byte, bytes, rfl⟩ := List.exists_cons_of_ne_nil some_left
  cases script with
  | nil => cases ends
  | cons item script =>
    have stops : item.proceeds = false := by simpa [call?] using ends
    cases item with
    | accept limit =>
      obtain rfl : limit = 0 := by simpa [WriteItem.proceeds] using stops
      simp [run]
    | fail e =>
      have fatal : e.isInterrupted = false := stops
      simp [run, fatal]
    | panic => simp [run]

/-- Writing makes the calls of the loop: at each position it offers all that is behind it. -/
theorem of_runs {bytes : List UInt8} {l stop : Loop WriteItem} {positions : List Nat}
    (runs : Loop.Runs call? bytes.length l positions stop) :
    (run l.script (bytes.drop l.position)).calls =
        positions.map (fun position => .write (bytes.drop position)) ∧
      bytes.take l.position ++ (run l.script (bytes.drop l.position)).accepted =
        bytes.take stop.position ∧
      (run l.script (bytes.drop l.position)).script = stop.script ∧
      ((run l.script (bytes.drop l.position)).finish = .complete ↔
        stop.position = bytes.length) := by
  induction runs with
  | full => simp [run_nothing]
  | @last position script missing ends =>
    have some_left : bytes.drop position ≠ [] := by simpa using missing
    rw [← List.length_drop] at ends
    obtain ⟨finish, accepted, calls, rest⟩ := run_of_call?_none some_left ends
    refine ⟨calls, by rw [accepted, List.append_nil], rest, fun complete => absurd complete finish,
      fun full => ?_⟩
    simp only at full
    omega
  | @pass position moved script rest positions stop missing goes later ih =>
    have some_left : bytes.drop position ≠ [] := by simpa using missing
    rw [← List.length_drop] at goes
    rw [run_of_call?_some some_left goes, List.drop_drop]
    obtain ⟨calls, accepted, left, finish⟩ := ih
    refine ⟨?_, ?_, left, finish⟩
    · simp only [after, calls, List.map_cons]
    · rw [← accepted, List.take_add, List.append_assoc]
      rfl

end Writing

/-! ## Reading -/

namespace Reading

/-- What the next read call gives to the loop.  A script that has run out has come to its end. -/
def call? : Loop.Call ReadItem
  | [], _ => none
  | .bytes data :: script, missing =>
    if data = [] then none
    else if data.length ≤ missing then some (data.length, script)
    else some (missing, .bytes (data.drop missing) :: script)
  | .fail e :: script, _ => if e.isInterrupted then some (0, script) else none

theorem steady_call? : Loop.Steady call? ReadItem.isInterruption where
  goes {script rest missing moved} some_left goes := by
    cases script with
    | nil => cases goes
    | cons item script =>
      cases item with
      | bytes data =>
        simp only [call?] at goes
        split at goes
        · cases goes
        · rename_i nonempty
          have positive : 0 < data.length := List.length_pos_iff.2 nonempty
          split at goes <;> cases goes <;> simp [ReadItem.isInterruption] <;> omega
      | fail e =>
        simp only [call?, Option.ite_none_right_eq_some, Option.some.injEq, Prod.mk.injEq] at goes
        obtain ⟨interrupted, rfl, rfl⟩ := goes
        simp [ReadItem.isInterruption, interrupted]
  ends {script missing} ends := by
    cases script with
    | nil => rfl
    | cons item script =>
      have fresh : item.isInterruption = false := by
        cases item with
        | bytes => rfl
        | fail e => simpa [call?, ReadItem.isInterruption] using ends
      simp [fresh]

variable {script rest : List ReadItem} {missing moved : Nat}

theorem run_of_call?_some (some_left : 0 < missing)
    (goes : call? script missing = some (moved, rest)) :
    ∃ taken, taken.length = moved ∧
      run script missing = (run rest (missing - moved)).after missing taken := by
  obtain ⟨missing, rfl⟩ := Nat.exists_eq_add_one.2 some_left
  cases script with
  | nil => cases goes
  | cons item script =>
    cases item with
    | bytes data =>
      cases data with
      | nil => cases goes
      | cons byte data =>
        simp only [call?, if_neg (List.cons_ne_nil byte data)] at goes
        split at goes <;> cases goes
        · rename_i fits
          exact ⟨byte :: data, rfl, by simp only [run, if_pos fits]⟩
        · -- More came than was asked for, so nothing is missing any more.
          rename_i long
          refine ⟨(byte :: data).take (missing + 1), ?_, ?_⟩
          · exact List.length_take_of_le (Nat.le_of_lt (Nat.lt_of_not_le long))
          · rw [Nat.sub_self, run_nothing]
            simp only [run, if_neg long, after, List.append_nil]
    | fail e =>
      simp only [call?, Option.ite_none_right_eq_some, Option.some.injEq, Prod.mk.injEq] at goes
      obtain ⟨interrupted, rfl, rfl⟩ := goes
      exact ⟨[], rfl, by simp [run, interrupted]⟩

theorem run_of_call?_none (some_left : 0 < missing) (ends : call? script missing = none) :
    (run script missing).finish ≠ .complete ∧ (run script missing).received = [] ∧
      (run script missing).calls = [.read missing] ∧
        (run script missing).script = script.tail := by
  obtain ⟨missing, rfl⟩ := Nat.exists_eq_add_one.2 some_left
  cases script with
  | nil => simp [run]
  | cons item script =>
    cases item with
    | bytes data =>
      cases data with
      | nil => simp [run]
      | cons byte data =>
        simp only [call?, if_neg (List.cons_ne_nil byte data)] at ends
        split at ends <;> cases ends
    | fail e =>
      have fatal : e.isInterrupted = false := by simpa [call?] using ends
      simp [run, fatal]

/-- Reading makes the calls of the loop: at each position it asks for all that is behind it. -/
theorem of_runs {total : Nat} {l stop : Loop ReadItem} {positions : List Nat}
    (runs : Loop.Runs call? total l positions stop) :
    (run l.script (total - l.position)).calls =
        positions.map (fun position => .read (total - position)) ∧
      l.position + (run l.script (total - l.position)).received.length = stop.position ∧
      (run l.script (total - l.position)).script = stop.script ∧
      ((run l.script (total - l.position)).finish = .complete ↔ stop.position = total) := by
  induction runs with
  | full => simp [run_nothing]
  | @last position script missing ends =>
    obtain ⟨finish, received, calls, rest⟩ := run_of_call?_none (Nat.sub_pos_of_lt missing) ends
    refine ⟨calls, by simp only [received, List.length_nil, Nat.add_zero], rest,
      fun complete => absurd complete finish, fun full => ?_⟩
    simp only at full
    omega
  | @pass position moved script rest positions stop missing goes later ih =>
    obtain ⟨taken, rfl, goes_on⟩ := run_of_call?_some (Nat.sub_pos_of_lt missing) goes
    rw [goes_on, Nat.sub_sub]
    obtain ⟨calls, received, left, finish⟩ := ih
    refine ⟨?_, ?_, left, finish⟩
    · simp only [after, calls, List.map_cons]
    · rw [← received]
      simp only [after, List.length_append, Nat.add_assoc]

end Reading

/-! ## Packets -/

namespace Stream

/-- A send comes to its end, and so does a receipt, whatever the scripts.  Each call is offered just
    the bytes that are not transferred yet, of which there are some, and there is one call at most
    for each of the four bytes and for each interruption that was used up.  A send flushes once,
    after all its write calls, if all four bytes were accepted, and else not at all. -/
theorem transfers_bounded (s : Stream) (packet : TimePacket) :
    (∃ positions stop, Loop.Runs Writing.call? 4 ⟨0, s.writes⟩ positions stop ∧
      Loop.Bounded WriteItem.isInterruption 4 ⟨0, s.writes⟩ positions stop ∧
      (s.sendAll packet.toWire).2.calls = s.calls ++
        positions.map (fun position => .write (packet.toWire.drop position)) ++
          (if stop.position = 4 then [.flush] else []) ∧
      (s.sendAll packet.toWire).2.accepted = s.accepted ++ packet.toWire.take stop.position ∧
      (s.sendAll packet.toWire).2.writes = stop.script) ∧
    (∃ positions stop, Loop.Runs Reading.call? 4 ⟨0, s.reads⟩ positions stop ∧
      Loop.Bounded ReadItem.isInterruption 4 ⟨0, s.reads⟩ positions stop ∧
      (s.receiveAll 4).2.2.calls =
        s.calls ++ positions.map (fun position => .read (4 - position)) ∧
      (s.receiveAll 4).2.1.length = stop.position ∧
      ((s.receiveAll 4).1 = .complete ↔ stop.position = 4) ∧
      (s.receiveAll 4).2.2.reads = stop.script) := by
  have wire : packet.toWire.length = 4 := rfl
  refine ⟨?_, ?_⟩
  · obtain ⟨positions, stop, runs⟩ :=
      Loop.exists_runs Writing.steady_call? (l := ⟨0, s.writes⟩) (Nat.zero_le 4)
    obtain ⟨calls, accepted, left, complete⟩ := Writing.of_runs (wire ▸ runs)
    simp only [List.drop_zero, List.take_zero, List.nil_append, wire]
      at calls accepted left complete
    refine ⟨positions, stop, runs, runs.bounded Writing.steady_call?, ?_, ?_, ?_⟩
    · simp only [calls_sendAll, calls, complete]
    · rw [(output_sendAll s _).1, accepted]
    · rw [(output_sendAll s _).2, left]
  · obtain ⟨positions, stop, runs⟩ :=
      Loop.exists_runs Reading.steady_call? (l := ⟨0, s.reads⟩) (Nat.zero_le 4)
    obtain ⟨calls, received, left, complete⟩ := Reading.of_runs runs
    refine ⟨positions, stop, runs, runs.bounded Reading.steady_call?, ?_, ?_, complete, left⟩
    · rw [← calls]
      rfl
    · rw [← received, Nat.zero_add]
      rfl

end Stream

end TimeServer
