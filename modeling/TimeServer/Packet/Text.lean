import TimeServer.Packet
import TimeServer.Time.Text

/-! # The text of a packet -/

namespace TimeServer

/-- The packet for log lines: its number, the time that it names, and whether a receiver with this
    clock accepts it. -/
def TimePacket.text (p : TimePacket) (c : Clock) : String :=
  s!"TimePacket\x7btimestamp={p.timestamp}, time={Time.format p.timestamp}, valid={p.isValid c}\x7d"

end TimeServer
