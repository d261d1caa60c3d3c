import TimeServer.Address
import TimeServer.IoError

/-! # The rules of a network

What a host decides and a program only sees: which addresses a socket can be bound to, which address
a connection shows, and what addresses names stand for.

* `NetworkRules` — these, as parameters;
* `NetworkRules.loopback` — a host on its own, which looks no name up.
-/

namespace TimeServer

inductive LookupError
  -- What the service that resolves names says.
  | service (detail : String)
  | system (code : Nat)
  deriving DecidableEq, Repr

namespace LookupError

def message : LookupError → String
  | service detail => s!"failed to lookup address information: {detail}"
  | system code => (IoError.os code).message

end LookupError

structure NetworkRules where
  /-- Why a listening socket cannot be bound to an address, whatever other sockets there are. -/
  refusal? : IpAddress → (dualStack : Bool) → Option IoError
  /-- The address that a connection shows when its socket is bound to this one. -/
  shown : IpAddress → IpAddress
  lookup : List Char → Except LookupError (List IpAddress)

namespace NetworkRules

/-- A connection whose socket is bound to this address shows it, in one family or the other. -/
def Shows (rules : NetworkRules) (ip : IpAddress) : Prop :=
  (rules.shown ip).canonical = ip.canonical

instance (rules : NetworkRules) (ip : IpAddress) : Decidable (rules.Shows ip) :=
  inferInstanceAs (Decidable (_ = _))

def isLocal (ip : IpAddress) : Bool := ip.canonical.isLoopback || ip.canonical.isUnspecified

/-- A host with no address but those of its own.  It resolves numbers and no names. -/
def loopback : NetworkRules where
  refusal? ip _ := if isLocal ip then none else some (.os 99)
  shown ip := ip
  lookup host :=
    match Ipv4.ofNumeric? host with
    | some ip => .ok [.v4 ip]
    | none => .error (.service "Name or service not known")

end NetworkRules

end TimeServer
