import TimeServer.Packet

/-! # Packets on byte streams

Reading packets from a source that hands out its bytes in pieces, and writing them to a sink of
bounded size.

* `Source`, `Source.readPacket` — collects four bytes over as many reads as it takes;
* `bigEndian` — the bytes of a word as a stream writes them;
* `Sink`, `Sink.writePacket` — stores what fits.
-/

namespace TimeServer

structure Source where
  pending : List UInt8
  chunk : Nat
  /-- The error that a read at the end gives; without one it gives no bytes. -/
  failure : Option IoError := none
  position : Nat := 0
  deriving Repr

namespace Source

def read (s : Source) (limit : Nat) : Except IoError (List UInt8) × Source :=
  match s.pending, s.failure with
  | [], some e => (.error e, s)
  | [], none => (.ok [], s)
  | pending, _ =>
    let taken := pending.take (min s.chunk limit)
    (.ok taken,
      { s with pending := pending.drop taken.length, position := s.position + taken.length })

def endError : IoError := .custom .unexpectedEof "failed to fill whole buffer"

/-- Reads exactly `count` bytes, piece by piece.  Bytes read before an error stay read. -/
def readExactly (s : Source) (count : Nat) : Except IoError (List UInt8) × Source :=
  if count = 0 then (.ok [], s)
  else
    match s.read count with
    | (.error e, s) => (.error e, s)
    | (.ok [], s) => (.error endError, s)
    | (.ok (b :: bytes), s) =>
      match readExactly s (count - (bytes.length + 1)) with
      | (.error e, s) => (.error e, s)
      | (.ok more, s) => (.ok (b :: bytes ++ more), s)
termination_by count

def readPacket (s : Source) : Except IoError TimePacket × Source :=
  match s.readExactly packetSize with
  | (.error e, s) => (.error e, s)
  | (.ok bytes, s) =>
    match TimePacket.ofBytes? bytes with
    | .error e => (.error e.toIoError, s)
    | .ok (p, _) => (.ok p, s)

end Source

def bigEndian (n : UInt32) : List UInt8 :=
  [3, 2, 1, 0].map fun place => UInt8.ofNat (n.toNat / Nat.pow 256 place)

structure Sink where
  capacity : Nat
  content : List UInt8 := []
  deriving Repr

namespace Sink

def fullError : IoError := .custom .writeZero "failed to write whole buffer"

/-- Writes all the bytes, or as many as there is room for. -/
def write (s : Sink) (bytes : List UInt8) : Except IoError Unit × Sink :=
  let stored := bytes.take (s.capacity - s.content.length)
  let s := { s with content := s.content ++ stored }
  if stored.length = bytes.length then (.ok (), s) else (.error fullError, s)

def writePacket (s : Sink) (p : TimePacket) : Except IoError Unit × Sink :=
  s.write (bigEndian p.timestamp)

end Sink

end TimeServer
