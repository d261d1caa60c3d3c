/-! # Statistics

The counters that all connections of a server share.  They are words of 64 bits: sums wrap, and
the number of active connections stops at zero.
-/

namespace TimeServer

structure Stats where
  active : UInt64 := 0
  total : UInt64 := 0
  packetsSent : UInt64 := 0
  packetsReceived : UInt64 := 0
  bytesSent : UInt64 := 0
  bytesReceived : UInt64 := 0
  /-- Connections closed by the access rules. -/
  denied : UInt64 := 0
  ioErrors : UInt64 := 0
  deriving DecidableEq, Repr

inductive Count
  | opened
  | finished
  | sent (bytes : UInt64)
  | received (bytes : UInt64)
  | denied
  | ioError
  deriving DecidableEq, Repr

namespace Stats

def count (s : Stats) : Count → Stats
  | .opened => { s with active := s.active + 1, total := s.total + 1 }
  | .finished => { s with active := if s.active = 0 then 0 else s.active - 1 }
  | .sent n => { s with packetsSent := s.packetsSent + 1, bytesSent := s.bytesSent + n }
  | .received n =>
    { s with packetsReceived := s.packetsReceived + 1, bytesReceived := s.bytesReceived + n }
  | .denied => { s with denied := s.denied + 1 }
  | .ioError => { s with ioErrors := s.ioErrors + 1 }

def debugText (s : Stats) : String :=
  s!"StatsSnapshot \x7b active_connections: {s.active}, total_connections: {s.total}, " ++
    s!"packets_sent: {s.packetsSent}, packets_received: {s.packetsReceived}, " ++
    s!"bytes_sent: {s.bytesSent}, bytes_received: {s.bytesReceived}, " ++
    s!"connections_denied: {s.denied}, io_errors: {s.ioErrors} \x7d"

end Stats

end TimeServer
