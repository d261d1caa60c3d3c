import TimeServer.Proofs.Packet.Format

/-! # Runs of packets on byte streams

Packets written one after another to a sink of any size, and read one after another from a source
that hands its bytes out in pieces of any size.

* `Sink.writePackets`, `Source.readPackets` — the runs;
* `Sink.results_writePackets`, `Sink.sink_writePackets` — which writes succeed, and what is stored;
* `Sink.kept`, `Sink.kept_writePackets` — the timestamps whose writes succeed come first;
* `groups` — the timestamps that bytes denote, four bytes each, and `flatMap_groups`;
* `Source.readExactly_of_lt` — a read that meets the end takes all that is left;
* `Source.results_readPackets` — the groups are read, and then the end for ever;
* `transferred` — writing and reading agree on which packets there are.
-/

namespace TimeServer

/-! ## Writing -/

namespace Sink

/-- Writes timestamps one after another: what each write gave, and the sink after them. -/
def writePackets (s : Sink) : List UInt32 → List (Except IoError Unit) × Sink
  | [] => ([], s)
  | t :: ts =>
    let (result, s) := s.writePacket ⟨t⟩
    let (results, s) := s.writePackets ts
    (result :: results, s)

theorem writePacket_eq (s : Sink) (t : UInt32) :
    s.writePacket ⟨t⟩ =
      (if s.content.length + 4 ≤ s.capacity then .ok () else .error fullError,
        { s with content := s.content ++ (encode t).take (s.capacity - s.content.length) }) := by
  have whole : ((encode t).take (s.capacity - s.content.length)).length = (encode t).length ↔
      s.content.length + 4 ≤ s.capacity := by
    simp only [List.length_take, length_encode, packetSize]
    omega
  simp only [writePacket, bigEndian_eq_encode, write, whole]
  split <;> rfl

theorem sink_writePackets (s : Sink) (ts : List UInt32) :
    (s.writePackets ts).2 =
      { s with content := s.content ++ (ts.flatMap encode).take (s.capacity - s.content.length) } := by
  induction ts generalizing s with
  | nil => simp [writePackets]
  | cons t ts ih =>
    have left : s.capacity - (s.content.length + min (s.capacity - s.content.length) 4) =
        s.capacity - s.content.length - 4 := by
      omega
    simp only [writePackets, writePacket_eq, ih, List.length_append, List.length_take,
      length_encode, packetSize, left, List.append_assoc, List.flatMap_cons, List.take_append]

theorem results_writePackets (s : Sink) (ts : List UInt32) :
    (s.writePackets ts).1 = (List.range ts.length).map fun k =>
      if s.content.length + 4 * (k + 1) ≤ s.capacity then .ok () else .error fullError := by
  induction ts generalizing s with
  | nil => rfl
  | cons t ts ih =>
    -- A packet that did not fit leaves no room.
    have later (k : Nat) :
        s.content.length + min (s.capacity - s.content.length) 4 + 4 * (k + 1) ≤ s.capacity ↔
          s.content.length + 4 * (k + 1 + 1) ≤ s.capacity := by
      omega
    simp only [writePackets, writePacket_eq, ih, List.length_append, List.length_take,
      length_encode, packetSize, later, List.length_cons, List.range_succ_eq_map, List.map_cons,
      List.map_map]
    rfl

/-- The timestamps whose writes succeeded. -/
def kept (ts : List UInt32) (results : List (Except IoError Unit)) : List UInt32 :=
  (ts.zip results).filterMap fun (t, result) => result.toOption.map fun _ => t

theorem kept_writePackets (s : Sink) (ts : List UInt32) :
    kept ts (s.writePackets ts).1 = ts.take ((s.capacity - s.content.length) / 4) := by
  induction ts generalizing s with
  | nil => simp [kept]
  | cons t ts ih =>
    have later := ih (s.writePacket ⟨t⟩).2
    simp only [writePacket_eq, List.length_append, List.length_take, length_encode, packetSize]
      at later
    simp only [writePackets, writePacket_eq]
    by_cases fits : s.content.length + 4 ≤ s.capacity
    · have one : (s.capacity - s.content.length) / 4 =
          (s.capacity - (s.content.length + min (s.capacity - s.content.length) 4)) / 4 + 1 := by
        omega
      rw [if_pos fits, one, List.take_succ_cons, ← later]
      rfl
    · have none_left : (s.capacity - s.content.length) / 4 = 0 := by omega
      have none_later :
          (s.capacity - (s.content.length + min (s.capacity - s.content.length) 4)) / 4 = 0 := by
        omega
      rw [none_later, List.take_zero] at later
      rw [if_neg fits, none_left, List.take_zero, ← later]
      rfl

theorem length_flatMap_encode (ts : List UInt32) :
    (ts.flatMap encode).length = 4 * ts.length := by
  induction ts with
  | nil => rfl
  | cons t ts ih =>
    rw [List.flatMap_cons, List.length_append, ih, length_encode, packetSize, List.length_cons]
    omega

theorem content_writePacket_after (capacity : Nat) (front : List UInt32) (t : UInt32) :
    (((Sink.mk capacity []).writePackets front).2.writePacket ⟨t⟩).2.content =
      ((Sink.mk capacity []).writePackets front).2.content ++
        if 4 * (front.length + 1) ≤ capacity then encode t
        else if 4 * front.length ≤ capacity then (encode t).take (capacity % 4)
        else [] := by
  rw [writePacket_eq, sink_writePackets]
  have stored :
      ((front.flatMap encode).take capacity).length = min capacity (4 * front.length) := by
    rw [List.length_take, length_flatMap_encode]
  simp only [List.nil_append, List.length_nil, Nat.sub_zero, stored]
  congr 1
  split
  · rw [List.take_of_length_le]
    rw [length_encode, packetSize]
    omega
  · split
    · have left : capacity - min capacity (4 * front.length) = capacity % 4 := by omega
      rw [left]
    · have full : capacity - min capacity (4 * front.length) = 0 := by omega
      rw [full, List.take_zero]

end Sink

/-! ## Groups of bytes -/

/-- The timestamps that bytes denote, four bytes each, most significant first. -/
def groups : List UInt8 → List UInt32
  | a :: b :: c :: d :: rest => word a b c d :: groups rest
  | _ => []

theorem groups_of_lt {bytes : List UInt8} (few : bytes.length < 4) : groups bytes = [] := by
  match bytes, few with
  | [], _ | [_], _ | [_, _], _ | [_, _, _], _ => rfl
  | _ :: _ :: _ :: _ :: rest, few => exact absurd few (by simp)

theorem groups_encode (t : UInt32) (rest : List UInt8) :
    groups (encode t ++ rest) = t :: groups rest := by
  have read := TimePacket.ofBytes?_encode t rest
  simp only [encode, List.cons_append, List.nil_append, TimePacket.ofBytes?, Except.ok.injEq,
    Prod.mk.injEq, TimePacket.mk.injEq, and_true] at read
  simp only [encode, List.cons_append, List.nil_append, groups, read]

theorem exists_group {bytes : List UInt8} (enough : 4 ≤ bytes.length) :
    ∃ t rest, bytes = encode t ++ rest := by
  obtain ⟨p, -, wire⟩ := TimePacket.ofBytes?_of_le enough
  refine ⟨p.timestamp, bytes.drop 4, ?_⟩
  rw [wire]
  exact (List.take_append_drop 4 bytes).symm

theorem flatMap_groups (bytes : List UInt8) :
    (groups bytes).flatMap encode = bytes.take (4 * (bytes.length / 4)) := by
  -- Four bytes fewer at a time.
  induction long : bytes.length using Nat.strongRecOn generalizing bytes with
  | ind n ih =>
    by_cases few : bytes.length < 4
    · rw [groups_of_lt few, ← long, Nat.div_eq_of_lt few]
      rfl
    · obtain ⟨t, rest, rfl⟩ := exists_group (Nat.le_of_not_lt few)
      rw [List.length_append, length_encode, packetSize] at long
      have whole : 4 * (n / 4) = (encode t).length + 4 * (rest.length / 4) := by
        rw [length_encode, packetSize]
        omega
      rw [groups_encode, List.flatMap_cons, ih rest.length (by omega) rest rfl, whole,
        List.take_length_add_append]

/-- What fits of written packets are as many whole ones as there is room for. -/
theorem groups_take (ts : List UInt32) (room : Nat) :
    groups ((ts.flatMap encode).take room) = ts.take (room / 4) := by
  induction ts generalizing room with
  | nil => simp [groups]
  | cons t ts ih =>
    by_cases few : room < 4
    · have short : (((t :: ts).flatMap encode).take room).length < 4 :=
        Nat.lt_of_le_of_lt (List.length_take_le _ _) few
      rw [groups_of_lt short, Nat.div_eq_of_lt few, List.take_zero]
    · obtain ⟨room, rfl⟩ := Nat.exists_eq_add_of_le (Nat.le_of_not_lt few)
      have fits : (encode t ++ ts.flatMap encode).take ((encode t).length + room) =
          encode t ++ (ts.flatMap encode).take room := List.take_length_add_append room
      rw [length_encode, packetSize] at fits
      rw [List.flatMap_cons, fits, groups_encode, ih, Nat.add_div_left room (by decide),
        List.take_succ_cons]

/-! ## Reading -/

namespace Source

/-- Reads packets one after another: what each read gave, and the source after them. -/
def readPackets (s : Source) : Nat → List (Except IoError TimePacket) × Source
  | 0 => ([], s)
  | n + 1 =>
    let (result, s) := s.readPacket
    let (results, s) := s.readPackets n
    (result :: results, s)

/-- What a read gives if these timestamps come before the end and so many were read before. -/
def outcome (ts : List UInt32) (failure : IoError) (k : Nat) : Except IoError TimePacket :=
  match ts[k]? with
  | some t => .ok ⟨t⟩
  | none => .error failure

theorem advance_advance (s : Source) (count more : Nat) :
    (s.advance count).advance more = s.advance (count + more) := by
  simp only [advance, List.drop_drop, Nat.add_assoc]

theorem read_of_ne_nil {s : Source} (some_left : s.pending ≠ []) (limit : Nat) :
    s.read limit =
      (.ok (s.pending.take (min s.chunk limit)),
        s.advance (s.pending.take (min s.chunk limit)).length) := by
  obtain ⟨pending, chunk, failure, position⟩ := s
  cases pending with
  | nil => exact absurd rfl some_left
  | cons b rest => rfl

theorem readExactly_of_lt {s : Source} {count : Nat} (positive : 0 < s.chunk)
    (few : s.pending.length < count) :
    s.readExactly count = (.error (s.failure.getD endError), s.advance s.pending.length) := by
  -- Every piece has a byte at least, so that the next call asks for less.
  induction count using Nat.strongRecOn generalizing s with
  | ind count ih =>
    unfold readExactly
    rw [if_neg (Nat.ne_zero_of_lt few)]
    by_cases none_left : s.pending = []
    · obtain ⟨pending, chunk, failure, position⟩ := s
      obtain rfl : pending = [] := none_left
      cases failure <;> rfl
    · have some_left := List.length_pos_iff.2 none_left
      have piece : (s.pending.take (min s.chunk count)).length =
          min (min s.chunk count) s.pending.length := List.length_take
      rw [read_of_ne_nil none_left]
      generalize s.pending.take (min s.chunk count) = taken at piece
      cases taken with
      | nil =>
        rw [List.length_nil] at piece
        omega
      | cons b bytes =>
        rw [List.length_cons] at piece
        have short :
            (s.advance (bytes.length + 1)).pending.length < count - (bytes.length + 1) := by
          simp only [advance, List.length_drop]
          omega
        have later : (s.advance (bytes.length + 1)).readExactly (count - (bytes.length + 1)) = _ :=
          ih (count - (bytes.length + 1)) (by omega) positive short
        have all : bytes.length + 1 + (s.advance (bytes.length + 1)).pending.length =
            s.pending.length := by
          simp only [advance, List.length_drop]
          omega
        simp only [List.length_cons, later, advance_advance, all]
        rfl

theorem readPacket_of_lt {s : Source} (positive : 0 < s.chunk)
    (few : s.pending.length < packetSize) :
    s.readPacket = (.error (s.failure.getD endError), s.advance s.pending.length) := by
  rw [readPacket, readExactly_of_lt positive few]

theorem results_readPackets {s : Source} (positive : 0 < s.chunk) (n : Nat) :
    (s.readPackets n).1 =
      (List.range n).map (outcome (groups s.pending) (s.failure.getD endError)) := by
  induction n generalizing s with
  | zero => rfl
  | succ n ih =>
    rw [List.range_succ_eq_map, List.map_cons, List.map_map, readPackets]
    by_cases few : s.pending.length < packetSize
    · -- The source that met its end is another such source, with nothing pending.
      have later : ((s.advance s.pending.length).readPackets n).1 = _ := ih positive
      have spent : (s.advance s.pending.length).pending = [] := List.drop_length
      rw [spent] at later
      simp only [readPacket_of_lt positive few, later, groups_of_lt few]
      rfl
    · obtain ⟨t, rest, next⟩ := exists_group (Nat.le_of_not_lt few)
      simp only [readPacket_encode positive next, next, groups_encode]
      exact congrArg _ (ih positive)

end Source

/-! ## There and back -/

/-- Timestamps are written to a sink of some capacity.  The writes succeed as long as another packet
    fits; the first that fails stores what still fits of its packet and the later ones nothing, so
    that the sink holds the front of all packets.  A source hands out its bytes in groups of four,
    and after them its end, for ever, in pieces of whatever size: from what was written come just
    the timestamps whose writes succeeded.  A failure that is an interruption is no end, as the read
    would be made again. -/
theorem transferred (ts : List UInt32) (capacity : Nat) :
    let written := (Sink.mk capacity []).writePackets ts
    let kept := Sink.kept ts written.1
    written.1 = (List.range ts.length).map (fun k =>
      if 4 * (k + 1) ≤ capacity then .ok () else .error Sink.fullError) ∧
    Sink.fullError.kind = .writeZero ∧
    written.2.content = (ts.flatMap encode).take capacity ∧
    kept = ts.take (capacity / 4) ∧
    (∀ (front : List UInt32) (t : UInt32),
      let before := ((Sink.mk capacity []).writePackets front).2
      (before.writePacket ⟨t⟩).2.content = before.content ++
        if 4 * (front.length + 1) ≤ capacity then encode t
        else if 4 * front.length ≤ capacity then (encode t).take (capacity % 4)
        else []) ∧
    (∀ source : Source, 0 < source.chunk → (∀ e ∈ source.failure, e.isInterrupted = false) →
      ∀ n : Nat,
      (groups source.pending).flatMap encode =
        source.pending.take (4 * (source.pending.length / 4)) ∧
      (source.readPackets n).1 = (List.range n).map
        (Source.outcome (groups source.pending) (source.failure.getD Source.endError)) ∧
      (source.pending = written.2.content →
        (source.readPackets n).1 = (List.range n).map
          (Source.outcome kept (source.failure.getD Source.endError)))) ∧
    Source.endError.kind = .unexpectedEof := by
  intro written kept
  have content : written.2.content = (ts.flatMap encode).take capacity := by
    rw [Sink.sink_writePackets]
    rfl
  have kept_eq : kept = ts.take (capacity / 4) := Sink.kept_writePackets _ ts
  refine ⟨?_, rfl, content, kept_eq, fun front t => ?_,
    fun source positive _ n => ⟨flatMap_groups _, Source.results_readPackets positive n,
      fun same => ?_⟩, rfl⟩
  · rw [Sink.results_writePackets]
    simp
  · exact Sink.content_writePacket_after capacity front t
  · rw [Source.results_readPackets positive, same, content, groups_take, kept_eq]

/-- Three timestamps for ten bytes, read back three bytes at a time and beyond the end. -/
theorem transferred_tenBytes :
    let written := (Sink.mk 10 []).writePackets [1, 2, 3]
    let source : Source := { pending := written.2.content, chunk := 3 }
    Sink.kept [1, 2, 3] written.1 = [1, 2] ∧
      (source.readPackets 4).1 = [.ok ⟨1⟩, .ok ⟨2⟩, .error Source.endError, .error Source.endError] := by
  intro written source
  obtain ⟨-, -, -, kept, -, reading, -⟩ := transferred [1, 2, 3] 10
  obtain ⟨-, -, back⟩ := reading source (by decide) nofun 4
  refine ⟨kept, (back rfl).trans ?_⟩
  rw [kept]
  rfl

end TimeServer
