import TimeServer.Access
import TimeServer.Address
import TimeServer.Connection.Error
import TimeServer.Log.Level
import TimeServer.Packet.Text
import TimeServer.Server.Error
import TimeServer.Stats

/-! # Notices

What a server tells its observer, one case for each kind of event, with the level and the text of
each.  A `Journal` is what an operation leaves behind in the shared state of the server: counts and
notices, in order.
-/

namespace TimeServer

inductive Direction
  | send
  | receive
  deriving DecidableEq, Repr

namespace Direction

def name : Direction → String
  | send => "send"
  | receive => "receive"

end Direction

structure Traffic where
  packetsSent : UInt64 := 0
  packetsReceived : UInt64 := 0
  bytesSent : UInt64 := 0
  bytesReceived : UInt64 := 0
  deriving DecidableEq, Repr

inductive Notice
  | accepted (client : String)
  | refused (client : String) (verdict : Verdict)
  | sent (packet : TimePacket) (clock : Clock) (client : String)
  | received (packet : TimePacket) (clock : Clock) (client : String)
  | transferFailed (direction : Direction) (client : String) (error : ConnectionError)
  | peerClosed (client : String)
  | shutdownFailed (client : String) (error : IoError)
  | closed (client : String) (traffic : Traffic)
  | recovered (worker : Nat) (client : String)
  | workerExiting (worker : Nat)
  | acceptFailed (error : IoError)
  | cannotDrain (error : IoError)
  | timeoutsFailed (peer : SocketAddress) (error : IoError)
  | acceptLoopExiting
  | listening (address : SocketAddress) (workers : Nat) (stratum : UInt8) (referenceId : String)
  | startFailed (error : ServerError)
  | stopping
  | wakeFailed (target : SocketAddress) (error : IoError)
  | alreadyClosed (target : SocketAddress)
  | stopped (total packetsSent : UInt64)
  deriving DecidableEq, Repr

namespace Notice

def level : Notice → Level
  | transferFailed .. | recovered .. | acceptFailed .. | startFailed .. => .error
  | refused .. | cannotDrain .. | timeoutsFailed .. | wakeFailed .. => .warn
  | accepted .. | closed .. | listening .. | stopping | stopped .. => .info
  | sent .. | received .. | peerClosed .. | shutdownFailed .. | workerExiting ..
  | acceptLoopExiting | alreadyClosed .. => .debug

def refusalReason : Verdict → String
  | .deny => "deny list"
  | _ => "not on allow list"

def text : Notice → String
  | accepted client => s!"accepted connection from {client}"
  | refused client verdict => s!"access denied for {client} ({refusalReason verdict})"
  | sent packet clock client => s!"sent {packet.text clock} to {client}"
  | received packet clock client => s!"received {packet.text clock} from {client}"
  | transferFailed direction client error =>
    s!"{direction.name} failed for {client}: {error.message}"
  | peerClosed client => s!"{client} closed the connection"
  | shutdownFailed client error => s!"shutdown of {client} failed: {error.message}"
  | closed client t =>
    s!"closed connection from {client}: {t.packetsSent} packets sent, " ++
      s!"{t.packetsReceived} received, {t.bytesSent} bytes sent, {t.bytesReceived} bytes received"
  | recovered worker client => s!"worker {worker} recovered from a panic while serving {client}"
  | workerExiting worker => s!"worker {worker} exiting"
  | acceptFailed error => s!"accept failed: {error.message}"
  | cannotDrain error => s!"cannot drain pending connections: {error.message}"
  | timeoutsFailed peer error => s!"failed to set timeouts for {peer.text}: {error.message}"
  | acceptLoopExiting => "accept loop exiting"
  | listening address workers stratum referenceId =>
    s!"time server listening on {address.text} ({workers} workers, stratum {stratum}, " ++
      s!"reference {referenceId})"
  | startFailed error => s!"failed to start: {error.message}"
  | stopping => "time server stopping"
  | wakeFailed target error => s!"failed to wake accept loop via {target.text}: {error.message}"
  | alreadyClosed target => s!"accept loop already closed at {target.text}"
  | stopped total packetsSent =>
    s!"time server stopped: {total} connections, {packetsSent} packets sent"

end Notice

inductive Entry
  | count (count : Count)
  | note (notice : Notice)
  deriving DecidableEq, Repr

abbrev Journal := List Entry

namespace Journal

def notices (journal : Journal) : List Notice :=
  journal.filterMap fun
    | .note notice => some notice
    | .count _ => none

def counts (journal : Journal) : List Count :=
  journal.filterMap fun
    | .count count => some count
    | .note _ => none

end Journal

/-- The statistics after everything in a journal was counted. -/
def Stats.record (stats : Stats) (journal : Journal) : Stats :=
  journal.counts.foldl Stats.count stats

end TimeServer
