import TimeServer.IoError

/-! # Client streams

A client's end of a connection, described by what it will do: a script of the results of the
coming read, write and flush calls.  The stream records every call made on it and the bytes that it
accepted.

* `Stream.sendAll` — writes bytes call by call until all are accepted, then flushes;
* `Stream.receiveAll` — reads until so many bytes have come.

Both repeat read and write calls that were interrupted; a flush is called once, whatever it gives.
Each consumes its script as it goes, so both end.
-/

namespace TimeServer

inductive ReadItem
  /-- Bytes, of which a call takes as many as it asked for; the rest stays first in line.  No bytes
      mean that the peer closed its end. -/
  | bytes (data : List UInt8)
  | fail (error : IoError)
  deriving DecidableEq, Repr

inductive WriteItem
  | accept (limit : Nat)
  | fail (error : IoError)
  | panic
  deriving DecidableEq, Repr

inductive StreamCall
  | read (limit : Nat)
  | write (offered : List UInt8)
  | flush
  | shutdown
  deriving DecidableEq, Repr

structure Stream where
  /-- The coming read calls; after them the peer has closed its end. -/
  reads : List ReadItem := []
  /-- The coming write calls; after them everything is accepted. -/
  writes : List WriteItem := []
  /-- The coming flush calls; after them every one succeeds. -/
  flushes : List (Option IoError) := []
  shutdownError : Option IoError := none
  accepted : List UInt8 := []
  calls : List StreamCall := []
  deriving DecidableEq, Repr

/-! ## Sending -/

inductive WriteEnd
  | complete
  | stalled
  | failed (error : IoError)
  | panicked
  deriving DecidableEq, Repr

structure Writing where
  finish : WriteEnd
  accepted : List UInt8
  calls : List StreamCall
  script : List WriteItem
  deriving DecidableEq, Repr

namespace Writing

def after (w : Writing) (offered taken : List UInt8) : Writing :=
  { w with accepted := taken ++ w.accepted, calls := .write offered :: w.calls }

/-- Writes bytes, offering in each call all that was not accepted before. -/
def run : (script : List WriteItem) → (unsent : List UInt8) → Writing
  | script, [] => ⟨.complete, [], [], script⟩
  | [], unsent => ⟨.complete, unsent, [.write unsent], []⟩
  -- A call that takes nothing would be repeated without end.
  | .accept 0 :: script, unsent => ⟨.stalled, [], [.write unsent], script⟩
  | .accept limit :: script, unsent =>
    (run script (unsent.drop limit)).after unsent (unsent.take limit)
  | .fail e :: script, unsent =>
    if e.isInterrupted then (run script unsent).after unsent []
    else ⟨.failed e, [], [.write unsent], script⟩
  | .panic :: script, unsent => ⟨.panicked, [], [.write unsent], script⟩

end Writing

inductive SendEnd
  | sent
  | stalled (written : Nat)
  | failed (error : IoError)
  | panicked
  deriving DecidableEq, Repr

namespace Stream

def flush (s : Stream) : Option IoError × Stream :=
  (s.flushes.head?.join, { s with flushes := s.flushes.tail, calls := s.calls ++ [.flush] })

def sendAll (s : Stream) (bytes : List UInt8) : SendEnd × Stream :=
  let w := Writing.run s.writes bytes
  let s :=
    { s with writes := w.script, accepted := s.accepted ++ w.accepted, calls := s.calls ++ w.calls }
  match w.finish with
  | .complete =>
    match s.flush with
    | (none, s) => (.sent, s)
    | (some e, s) => (.failed e, s)
  | .stalled => (.stalled w.accepted.length, s)
  | .failed e => (.failed e, s)
  | .panicked => (.panicked, s)

end Stream

/-! ## Receiving -/

inductive ReadEnd
  | complete
  | closed
  | failed (error : IoError)
  deriving DecidableEq, Repr

structure Reading where
  finish : ReadEnd
  received : List UInt8
  calls : List StreamCall
  script : List ReadItem
  deriving DecidableEq, Repr

namespace Reading

def after (r : Reading) (limit : Nat) (taken : List UInt8) : Reading :=
  { r with received := taken ++ r.received, calls := .read limit :: r.calls }

/-- Reads until `missing` bytes have come, asking in each call for all that are missing. -/
def run : (script : List ReadItem) → (missing : Nat) → Reading
  | script, 0 => ⟨.complete, [], [], script⟩
  | [], missing => ⟨.closed, [], [.read missing], []⟩
  | .bytes [] :: script, missing => ⟨.closed, [], [.read missing], script⟩
  | .bytes data :: script, missing =>
    if data.length ≤ missing then (run script (missing - data.length)).after missing data
    else
      -- What was not asked for stays in front.
      ⟨.complete, data.take missing, [.read missing], .bytes (data.drop missing) :: script⟩
  | .fail e :: script, missing =>
    if e.isInterrupted then (run script missing).after missing []
    else ⟨.failed e, [], [.read missing], script⟩

end Reading

namespace Stream

/-- Receives so many bytes.  Bytes that came before a failure are lost. -/
def receiveAll (s : Stream) (count : Nat) : ReadEnd × List UInt8 × Stream :=
  let r := Reading.run s.reads count
  (r.finish, r.received, { s with reads := r.script, calls := s.calls ++ r.calls })

def shutdown (s : Stream) : Option IoError × Stream :=
  (s.shutdownError, { s with calls := s.calls ++ [.shutdown] })

def shutdowns (s : Stream) : Nat := s.calls.count .shutdown

end Stream

end TimeServer
