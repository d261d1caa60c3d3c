import TimeServer.Packet.Stream
import Mathlib.Data.List.Induction

/-! # The format of packets

A packet is the timestamp in four bytes, most significant first.  Whatever is written, over a buffer
or to a stream, is in this format, and whatever reads packets reads it.

* `bigEndianValue` — the number that bytes denote, and `eq_of_bigEndianValue`: so many bytes denote
  it in one way only;
* `eq_encode_iff`, `encode_word` — the bytes of a timestamp, and the word that bytes make up;
* `ofBytes?_encode`, `decodeAt_of_ofBytes?` — reading from the front of bytes;
* `Source.readExactly_of_le`, `Sink.write_of_le` — what streams hand out and take, in pieces of any
  size;
* `codecs_agree` — all ways to write and to read a packet.
-/

namespace TimeServer

/-! ## Bytes and words -/

/-- The number that bytes denote, most significant first. -/
def bigEndianValue (bytes : List UInt8) : Nat := bytes.foldl (fun n b => n * 256 + b.toNat) 0

theorem bigEndianValue_concat (bytes : List UInt8) (b : UInt8) :
    bigEndianValue (bytes ++ [b]) = bigEndianValue bytes * 256 + b.toNat := by
  simp [bigEndianValue]

theorem eq_of_bigEndianValue {bytes bytes' : List UInt8} (long : bytes.length = bytes'.length)
    (same : bigEndianValue bytes = bigEndianValue bytes') : bytes = bytes' := by
  induction bytes using List.reverseRecOn generalizing bytes' with
  | nil => exact (List.eq_nil_of_length_eq_zero long.symm).symm
  | append_singleton front b ih =>
    obtain rfl | ⟨front', b', rfl⟩ := List.eq_nil_or_concat bytes'
    · simp at long
    · rw [List.concat_eq_append] at long same ⊢
      rw [bigEndianValue_concat, bigEndianValue_concat] at same
      have low := b.toNat_lt
      have low' := b'.toNat_lt
      have last : b = b' := UInt8.toNat_inj.1 (by omega)
      have rest : front = front' := ih (by simpa using long) (by omega)
      rw [last, rest]

theorem shiftLeft_or_byte (n place : Nat) (b : UInt8) :
    n <<< (place + 8) ||| b.toNat <<< place = (n * 256 + b.toNat) <<< place := by
  have low : b.toNat < 2 ^ 8 := b.toNat_lt
  rw [Nat.add_comm, Nat.shiftLeft_add, ← Nat.shiftLeft_or_distrib,
    ← Nat.shiftLeft_add_eq_or_of_lt low, Nat.shiftLeft_eq n 8]

theorem toNat_word (a b c d : UInt8) : (word a b c d).toNat = bigEndianValue [a, b, c, d] := by
  -- No bit is shifted out of the word.
  have whole (byte : UInt8) (place : Nat) (below : place ≤ 24) :
      byte.toNat <<< place % 4294967296 = byte.toNat <<< place := by
    have fits : byte.toNat * 2 ^ place < 4294967296 := calc
      byte.toNat * 2 ^ place
      _ < 2 ^ 8 * 2 ^ place := Nat.mul_lt_mul_of_pos_right byte.toNat_lt (Nat.two_pow_pos place)
      _ ≤ 2 ^ 8 * 2 ^ 24 := Nat.mul_le_mul_left _ (Nat.pow_le_pow_right (by decide) below)
      _ = 4294967296 := rfl
    rw [Nat.shiftLeft_eq, Nat.mod_eq_of_lt fits]
  have first := shiftLeft_or_byte a.toNat 16 b
  have second := shiftLeft_or_byte (a.toNat * 256 + b.toNat) 8 c
  have third := shiftLeft_or_byte ((a.toNat * 256 + b.toNat) * 256 + c.toNat) 0 d
  simp only [Nat.shiftLeft_zero, Nat.reduceAdd] at first second third
  simp [word, bigEndianValue, whole, first, second, third]

theorem bigEndianValue_encode (t : UInt32) : bigEndianValue (encode t) = t.toNat := by
  have bound := t.toNat_lt
  simp [encode, bigEndianValue, Nat.shiftRight_eq_div_pow]
  omega

theorem bigEndianValue_bigEndian (t : UInt32) : bigEndianValue (bigEndian t) = t.toNat := by
  have bound := t.toNat_lt
  simp [bigEndian, bigEndianValue]
  omega

theorem eq_encode_iff {bytes : List UInt8} {t : UInt32} :
    bytes = encode t ↔ bytes.length = packetSize ∧ bigEndianValue bytes = t.toNat := by
  constructor
  · rintro rfl
    exact ⟨rfl, bigEndianValue_encode t⟩
  · rintro ⟨long, value⟩
    exact eq_of_bigEndianValue long (value.trans (bigEndianValue_encode t).symm)

theorem bigEndian_eq_encode (t : UInt32) : bigEndian t = encode t :=
  eq_encode_iff.2 ⟨rfl, bigEndianValue_bigEndian t⟩

theorem encode_word (a b c d : UInt8) : encode (word a b c d) = [a, b, c, d] :=
  (eq_encode_iff.2 ⟨rfl, (toNat_word a b c d).symm⟩).symm

/-! ## Reading from the front of bytes -/

namespace TimePacket

theorem ofBytes?_of_le {bytes : List UInt8} (enough : packetSize ≤ bytes.length) :
    ∃ p, ofBytes? bytes = .ok (p, packetSize) ∧ encode p.timestamp = bytes.take packetSize := by
  match bytes, enough with
  | a :: b :: c :: d :: rest, _ => exact ⟨⟨word a b c d⟩, rfl, encode_word a b c d⟩

theorem ofBytes?_of_lt {bytes : List UInt8} (few : bytes.length < packetSize) :
    ofBytes? bytes = .error (.tooShort packetSize bytes.length) := by
  match bytes, few with
  | [], _ | [_], _ | [_, _], _ | [_, _, _], _ => rfl
  | _ :: _ :: _ :: _ :: rest, few => exact absurd few (by simp [packetSize])

theorem ofBytes?_encode (t : UInt32) (rest : List UInt8) :
    ofBytes? (encode t ++ rest) = .ok (⟨t⟩, packetSize) := by
  have enough : packetSize ≤ (encode t ++ rest).length := by simp
  obtain ⟨p, read, wire⟩ := ofBytes?_of_le enough
  have value := congrArg bigEndianValue wire
  rw [List.take_left' (length_encode t), bigEndianValue_encode, bigEndianValue_encode,
    UInt32.toNat_inj] at value
  rw [read, ← value]

end TimePacket

theorem decodeAt_of_ofBytes? {bytes : List UInt8} {p : TimePacket} {taken : Nat}
    (read : TimePacket.ofBytes? bytes = .ok (p, taken)) (now : UInt32) :
    decodeAt bytes now =
      if p.timestamp.toNat ≤ now.toNat + 3600 then .ok p
      else .error (.invalid p.timestamp (now.toNat + 3600)) := by
  simp only [decodeAt, read, accepts, decide_eq_true_eq]
  rfl

theorem decodeAt_eq_tooShort_iff {bytes : List UInt8} {now : UInt32} :
    decodeAt bytes now = .error (.tooShort packetSize bytes.length) ↔
      bytes.length < packetSize := by
  constructor
  · intro short
    by_contra enough
    obtain ⟨p, read, -⟩ := TimePacket.ofBytes?_of_le (Nat.le_of_not_lt enough)
    rw [decodeAt_of_ofBytes? read] at short
    split at short <;> cases short
  · intro few
    rw [decodeAt, TimePacket.ofBytes?_of_lt few]

/-! ## Streams -/

namespace Source

/-- The stream after so many bytes were read. -/
def advance (s : Source) (count : Nat) : Source :=
  { s with pending := s.pending.drop count, position := s.position + count }

theorem read_of_le {s : Source} {limit : Nat} (positive : 0 < limit)
    (enough : limit ≤ s.pending.length) :
    s.read limit =
      (.ok (s.pending.take (min s.chunk limit)), s.advance (min s.chunk limit)) := by
  have taken : (s.pending.take (min s.chunk limit)).length = min s.chunk limit := by
    rw [List.length_take]
    omega
  obtain ⟨pending, chunk, failure, position⟩ := s
  cases pending with
  | nil => exact absurd enough (Nat.not_le_of_lt positive)
  | cons b rest =>
    simp only [read, advance]
    rw [taken]

/-- Pieces of any size add up to the bytes that are asked for, and nothing more is taken. -/
theorem readExactly_of_le {s : Source} {count : Nat} (positive : 0 < s.chunk)
    (enough : count ≤ s.pending.length) :
    s.readExactly count = (.ok (s.pending.take count), s.advance count) := by
  induction count using Nat.strongRecOn generalizing s with
  | ind count ih =>
    unfold readExactly
    split
    · rename_i none_left
      simp [none_left, advance]
    · rename_i some_left
      have piece : 0 < min s.chunk count := by omega
      have bound : min s.chunk count ≤ count := Nat.min_le_right _ _
      rw [read_of_le (Nat.pos_of_ne_zero some_left) enough]
      generalize min s.chunk count = n at piece bound
      have long : (s.pending.take n).length = n := by
        rw [List.length_take]
        omega
      have left : count - n ≤ (s.advance n).pending.length := by
        simp only [advance, List.length_drop]
        omega
      have later : (s.advance n).readExactly (count - n) = _ :=
        ih (count - n) (by omega) positive left
      have whole : s.pending.take n ++ (s.pending.drop n).take (count - n) =
          s.pending.take count := by
        rw [← List.take_add, Nat.add_sub_cancel' bound]
      cases first : s.pending.take n with
      | nil =>
        rw [first] at long
        exact absurd long (Nat.ne_of_lt piece)
      | cons b bytes =>
        rw [first] at long whole
        rw [List.length_cons] at long
        simp only [long, later]
        simp [advance, ← whole]
        omega

/-- A packet that is next in a stream is read whatever the stream hands out at a time, and nothing
    more. -/
theorem readPacket_encode {s : Source} {t : UInt32} {rest : List UInt8} (positive : 0 < s.chunk)
    (next : s.pending = encode t ++ rest) :
    s.readPacket =
      (.ok ⟨t⟩, { s with pending := rest, position := s.position + packetSize }) := by
  have enough : packetSize ≤ s.pending.length := by simp [next]
  have bytes : s.pending.take packetSize = encode t := by
    rw [next, List.take_left' (length_encode t)]
  have read := TimePacket.ofBytes?_encode t []
  rw [List.append_nil] at read
  rw [readPacket, readExactly_of_le positive enough, bytes]
  simp only [read, advance, next, List.drop_left' (length_encode t)]

end Source

namespace Sink

theorem write_of_le {s : Sink} {bytes : List UInt8}
    (room : s.content.length + bytes.length ≤ s.capacity) :
    s.write bytes = (.ok (), { s with content := s.content ++ bytes }) := by
  have stored : bytes.take (s.capacity - s.content.length) = bytes :=
    List.take_of_length_le (by omega)
  simp [write, stored]

theorem write_eq_ok_iff {s : Sink} {bytes : List UInt8} (some_bytes : bytes ≠ []) :
    (s.write bytes).1 = .ok () ↔ s.content.length + bytes.length ≤ s.capacity := by
  have positive := List.length_pos_iff.2 some_bytes
  constructor
  · intro written
    by_contra full
    have short : (bytes.take (s.capacity - s.content.length)).length ≠ bytes.length := by
      rw [List.length_take]
      omega
    have refused : s.write bytes = (.error fullError, _) := if_neg short
    rw [refused] at written
    cases written
  · intro room
    rw [write_of_le room]

end Sink

/-! ## All ways to write and to read -/

/-- Every timestamp has one form, its four bytes with the most significant first.  Packets are
    written in that form, over a buffer and to a stream; a buffer keeps its other bytes, and all of
    them if it is too short.  The form is read back, whatever follows it, and nothing more is taken;
    only a receiver with a clock refuses it, just if the timestamp is more than an hour ahead, where
    the limit does not wrap.  And any bytes that are read have the form of what was read. -/
theorem codecs_agree (t now : UInt32) (bytes : List UInt8) :
    let p : TimePacket := ⟨t⟩
    let limit : Nat := now.toNat + 3600
    (∀ wire : List UInt8, wire = encode t ↔ wire.length = 4 ∧ bigEndianValue wire = t.toNat) ∧
    p.toWire = encode t ∧
    (∀ buffer : List UInt8, 4 ≤ buffer.length →
      p.overwrite buffer = (.ok 4, encode t ++ buffer.drop 4)) ∧
    (∀ buffer : List UInt8, buffer.length < 4 →
      p.overwrite buffer = (.error (.tooShort 4 buffer.length), buffer)) ∧
    (∀ sink : Sink, (sink.writePacket p).1 = .ok () ↔ sink.content.length + 4 ≤ sink.capacity) ∧
    (∀ sink : Sink, (sink.writePacket p).1 = .ok () →
      (sink.writePacket p).2 = { sink with content := sink.content ++ encode t }) ∧
    (∀ rest, TimePacket.ofBytes? (encode t ++ rest) = .ok (p, 4)) ∧
    (∀ rest, decodeAt (encode t ++ rest) now =
      if t.toNat ≤ limit then .ok p else .error (.invalid t limit)) ∧
    (∀ (source : Source) (rest : List UInt8), 0 < source.chunk →
      source.pending = encode t ++ rest →
      source.readPacket = (.ok p, { source with pending := rest, position := source.position + 4 })) ∧
    (4 ≤ bytes.length → ∃ q, TimePacket.ofBytes? bytes = .ok (q, 4) ∧
      encode q.timestamp = bytes.take 4 ∧
      decodeAt bytes now =
        if q.timestamp.toNat ≤ limit then .ok q else .error (.invalid q.timestamp limit)) ∧
    (decodeAt bytes now = .error (.tooShort 4 bytes.length) ↔ bytes.length < 4) := by
  intro p limit
  have fits {sink : Sink} : (sink.writePacket p).1 = .ok () ↔
      sink.content.length + 4 ≤ sink.capacity :=
    Sink.write_eq_ok_iff (by simp [bigEndian])
  refine ⟨fun wire => eq_encode_iff, rfl, fun buffer enough => ?_, fun buffer few => ?_,
    fun sink => fits, fun sink written => ?_, TimePacket.ofBytes?_encode t,
    fun rest => decodeAt_of_ofBytes? (TimePacket.ofBytes?_encode t rest) now,
    fun source rest => Source.readPacket_encode, fun enough => ?_, decodeAt_eq_tooShort_iff⟩
  · exact if_neg (Nat.not_lt_of_le enough)
  · exact if_pos few
  · rw [Sink.writePacket, bigEndian_eq_encode, Sink.write_of_le (fits.1 written)]
  · obtain ⟨q, read, wire⟩ := TimePacket.ofBytes?_of_le enough
    exact ⟨q, read, wire, decodeAt_of_ofBytes? read now⟩

end TimeServer
