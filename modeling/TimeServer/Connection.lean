import TimeServer.Notice
import TimeServer.Stream
import TimeServer.Text.Quoted

/-! # Connections

One client connection: served once with the current time, closed at most once.

A connection holds its stream until it is closed.  It is connected until a transfer fails, the peer
closes its end, or it is closed itself.  Every operation gives a `Turn`: its result, the connection
after it, and what it did to the shared state.
-/

namespace TimeServer

structure Connection where
  client : String
  rules : AccessRules
  stream : Stream
  /-- Whether the stream has not been released. -/
  held : Bool := true
  connected : Bool := true
  traffic : Traffic := {}
  deriving DecidableEq, Repr

inductive Failure
  | error (error : ConnectionError)
  | panic
  deriving DecidableEq, Repr

inductive Service
  | served
  | denied
  deriving DecidableEq, Repr

structure Turn (α : Type) where
  result : α
  connection : Connection
  journal : Journal

namespace Connection

def establish (client : String) (rules : AccessRules) (stream : Stream) : Turn Unit :=
  ⟨(), { client, rules, stream }, [.note (.accepted client)]⟩

/-- Releases the stream, if it is still held: shuts it down and reports what went over the
    connection. -/
def close (c : Connection) : Turn Unit :=
  if c.held then
    let (error, stream) := c.stream.shutdown
    let trouble : Journal := match error with
      -- A peer that is already gone is nothing to report.
      | some e => if e.kind = .notConnected then [] else [.note (.shutdownFailed c.client e)]
      | none => []
    ⟨(), { c with stream, held := false, connected := false },
      trouble ++ [.note (.closed c.client c.traffic)]⟩
  else ⟨(), c, []⟩

/-- A transfer failed: the connection is no longer connected, and the failure is counted and
    reported. -/
def fail {α : Type} (c : Connection) (direction : Direction) (error : ConnectionError) :
    Turn (Except Failure α) :=
  ⟨.error (.error error), { c with connected := false },
    [.count .ioError, .note (.transferFailed direction c.client error)]⟩

def sendPacket (c : Connection) (packet : TimePacket) (clock : Clock) :
    Turn (Except Failure Nat) :=
  if !c.connected then ⟨.error (.error .notConnected), c, []⟩
  else if !c.held then c.fail .send .notConnected
  else
    let wire := packet.toWire
    let (finish, stream) := c.stream.sendAll wire
    let c := { c with stream }
    match finish with
    | .sent =>
      let traffic :=
        { c.traffic with
          packetsSent := c.traffic.packetsSent + 1
          bytesSent := c.traffic.bytesSent + UInt64.ofNat wire.length }
      ⟨.ok wire.length, { c with traffic },
        [.count (.sent (UInt64.ofNat wire.length)), .note (.sent packet clock c.client)]⟩
    | .stalled written => c.fail .send (.writeZero written wire.length)
    | .failed e => c.fail .send (.io e)
    -- The thread unwinds past every statement that would have counted or reported.
    | .panicked => ⟨.error .panic, c, []⟩

/-- Receives a packet and checks it against the clock.  A packet that is refused leaves the
    connection as it is and is not counted. -/
def receivePacket (c : Connection) (clock : Clock) : Turn (Except Failure TimePacket) :=
  if !c.connected then ⟨.error (.error .notConnected), c, []⟩
  else if !c.held then c.fail .receive .notConnected
  else
    let (finish, bytes, stream) := c.stream.receiveAll packetSize
    let c := { c with stream }
    match finish with
    | .closed =>
      ⟨.error (.error .peerClosed), { c with connected := false }, [.note (.peerClosed c.client)]⟩
    | .failed e => c.fail .receive (.io e)
    | .complete =>
      match decode bytes clock with
      -- Still connected: only the packet was bad.
      | .error e => ⟨.error (.error (.decode e)), c, []⟩
      | .ok packet =>
        let traffic :=
          { c.traffic with
            packetsReceived := c.traffic.packetsReceived + 1
            bytesReceived := c.traffic.bytesReceived + UInt64.ofNat bytes.length }
        ⟨.ok packet, { c with traffic },
          [.count (.received (UInt64.ofNat bytes.length)),
            .note (.received packet clock c.client)]⟩

/-- Serves the client: sends it the time if the rules admit it, else turns it away and closes the
    connection.  The rules are asked even if the connection is no longer connected. -/
def serve (c : Connection) (clock : Clock) : Turn (Except Failure Service) :=
  match c.rules.check c.client with
  | .allow =>
    let turn := c.sendPacket (.atClock clock) clock
    { turn with result := turn.result.map fun _ => .served }
  | verdict =>
    let turn := c.close
    { turn with
      result := .ok .denied
      journal := [.note (.refused c.client verdict), .count .denied] ++ turn.journal }

def visit (client : String) (rules : AccessRules) (stream : Stream) (clock : Clock) : Turn Unit :=
  let arrival := establish client rules stream
  let service := arrival.connection.serve clock
  let release := service.connection.close
  ⟨(), release.connection,
    [.count .opened] ++ arrival.journal ++ service.journal ++ release.journal ++
      [.count .finished]⟩

def debugText (c : Connection) : String :=
  s!"Connection \x7b client_address: {Text.quoted c.client}, connected: {c.connected}, " ++
    s!"packets_sent: {c.traffic.packetsSent}, " ++
    s!"packets_received: {c.traffic.packetsReceived}, .. \x7d"

end Connection

end TimeServer
