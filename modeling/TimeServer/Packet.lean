import TimeServer.IoError
import TimeServer.Clock

/-! # Time packets

A time packet is four bytes: an unsigned count of seconds since 1970, most significant byte
first.

* `encode` / `TimePacket.ofBytes?` — the two directions;
* `accepts`, `decodeAt` — a receiver refuses packets more than an hour ahead of its clock;
* `TimePacket.overwrite`, `TimePacket.writeTo` — writing over the front of a buffer.
-/

namespace TimeServer

def packetSize : Nat := 4

/-- How many seconds a received timestamp may lie ahead of the receiver's clock. -/
def tolerance : Nat := 3600

structure TimePacket where
  timestamp : UInt32
  deriving DecidableEq, Repr

inductive DecodeError
  | tooShort (needed available : Nat)
  | invalid (timestamp : UInt32) (limit : Nat)
  deriving DecidableEq, Repr

namespace DecodeError

def message : DecodeError → String
  | tooShort needed available => s!"time packet too short: needed {needed} bytes, got {available}"
  | invalid timestamp limit => s!"timestamp {timestamp} is beyond the accepted limit {limit}"

def toIoError (e : DecodeError) : IoError :=
  match e with
  | tooShort .. => .custom .unexpectedEof e.message
  | invalid .. => .custom .invalidData e.message

def debugText : DecodeError → String
  | tooShort needed available => s!"TooShort \x7b needed: {needed}, available: {available} \x7d"
  | invalid timestamp limit => s!"Invalid \x7b timestamp: {timestamp}, limit: {limit} \x7d"

end DecodeError

def encode (timestamp : UInt32) : List UInt8 :=
  [(timestamp >>> 24).toUInt8, (timestamp >>> 16).toUInt8, (timestamp >>> 8).toUInt8,
    timestamp.toUInt8]

def word (a b c d : UInt8) : UInt32 :=
  (a.toUInt32 <<< 24) ||| (b.toUInt32 <<< 16) ||| (c.toUInt32 <<< 8) ||| d.toUInt32

/-- The latest timestamp that a receiver whose clock shows `now` accepts.  The sum is not cut to
    32 bits, so that it never wraps. -/
def acceptLimit (now : UInt32) : Nat := now.toNat + tolerance

/-- Whether a receiver whose clock shows `now` accepts a timestamp.  There is no lower bound. -/
def accepts (timestamp now : UInt32) : Bool := timestamp.toNat ≤ acceptLimit now

namespace TimePacket

def toWire (p : TimePacket) : List UInt8 := encode p.timestamp

def ofBytes? : List UInt8 → Except DecodeError (TimePacket × Nat)
  | a :: b :: c :: d :: _ => .ok (⟨word a b c d⟩, packetSize)
  | bytes => .error (.tooShort packetSize bytes.length)

/-- Writes the packet over the front of a buffer: the number of bytes written, and the buffer after
    it.  A buffer that is too short is left alone. -/
def overwrite (p : TimePacket) (buffer : List UInt8) : Except DecodeError Nat × List UInt8 :=
  if buffer.length < packetSize then (.error (.tooShort packetSize buffer.length), buffer)
  else (.ok packetSize, p.toWire ++ buffer.drop packetSize)

def writeTo (p : TimePacket) (buffer : List UInt8) : Except DecodeError (Nat × List UInt8) :=
  let (written, after) := p.overwrite buffer
  written.map (·, after)

def atClock (c : Clock) : TimePacket := ⟨c.now⟩

def isValid (p : TimePacket) (c : Clock) : Bool := accepts p.timestamp c.now

def debugText (p : TimePacket) : String := s!"TimePacket \x7b timestamp: {p.timestamp} \x7d"

end TimePacket

def decodeAt (bytes : List UInt8) (now : UInt32) : Except DecodeError TimePacket :=
  match TimePacket.ofBytes? bytes with
  | .error e => .error e
  | .ok (p, _) =>
    if accepts p.timestamp now then .ok p else .error (.invalid p.timestamp (acceptLimit now))

def decode (bytes : List UInt8) (c : Clock) : Except DecodeError TimePacket := decodeAt bytes c.now

@[simp] theorem length_encode (t : UInt32) : (encode t).length = packetSize := rfl

end TimeServer
