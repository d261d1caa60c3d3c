import TimeServer.Packet

/-! # Connection errors -/

namespace TimeServer

inductive ConnectionError
  | notConnected
  | peerClosed
  /-- A write took no byte, after `written` of `total` had been taken. -/
  | writeZero (written total : Nat)
  | decode (cause : DecodeError)
  | io (cause : IoError)
  deriving DecidableEq, Repr

namespace ConnectionError

def message : ConnectionError → String
  | notConnected => "connection is not open"
  | peerClosed => "connection closed by peer"
  | writeZero written total => s!"socket accepted no bytes ({written} of {total} written)"
  | decode cause => cause.message
  | io cause => cause.message

def toIoError (e : ConnectionError) : IoError :=
  match e with
  | notConnected => .custom .notConnected e.message
  | peerClosed => .custom .unexpectedEof e.message
  | writeZero .. => .custom .writeZero e.message
  | decode cause => cause.toIoError
  | io cause => cause

end ConnectionError

end TimeServer
