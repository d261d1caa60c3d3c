import TimeServer.Access
import TimeServer.Address
import TimeServer.Network.Rules
import TimeServer.Server.Error
import TimeServer.Text.Quoted

/-! # Server settings

* `Settings` and its defaults;
* `Settings.set`, `Settings.build` — settings made one by one;
* `Settings.accessRules`, `Settings.socketAddress` — what they mean for a server.
-/

namespace TimeServer

open TimeServer.Text

structure Settings where
  listenAddress : String := "0.0.0.0"
  listenPort : UInt16 := 37
  dualStack : Bool := true
  backlog : UInt32 := 128
  maxConnections : UInt64 := 1000
  workerThreads : UInt64 := 4
  restrictQueries : Bool := false
  allowedClients : List String := []
  deniedClients : List String := []
  /-- Reported only: the protocol has no field for it. -/
  stratum : UInt8 := 2
  referenceId : String := "UTC"
  /-- Milliseconds that a stalled client may hold up a worker; without a value, for ever. -/
  ioTimeout : Option UInt64 := some 1000
  deriving DecidableEq, Repr

inductive Setting
  | config (settings : Settings)
  | listen (address : String)
  | port (port : UInt16)
  | dualStack (enabled : Bool)
  | backlog (limit : UInt32)
  | maxConnections (limit : UInt64)
  | workerThreads (count : UInt64)
  | restrictQueries (enabled : Bool)
  | allow (client : String)
  | deny (client : String)
  | stratum (stratum : UInt8)
  | referenceId (id : String)
  | ioTimeout (milliseconds : Option UInt64)

namespace Settings

def set (s : Settings) : Setting → Settings
  | .config settings => settings
  | .listen address => { s with listenAddress := address }
  | .port port => { s with listenPort := port }
  | .dualStack enabled => { s with dualStack := enabled }
  | .backlog limit => { s with backlog := limit }
  | .maxConnections limit => { s with maxConnections := limit }
  | .workerThreads count => { s with workerThreads := count }
  | .restrictQueries enabled => { s with restrictQueries := enabled }
  | .allow client => { s with allowedClients := s.allowedClients ++ [client] }
  | .deny client => { s with deniedClients := s.deniedClients ++ [client] }
  | .stratum stratum => { s with stratum := stratum }
  | .referenceId id => { s with referenceId := id }
  | .ioTimeout milliseconds => { s with ioTimeout := milliseconds }

def build (steps : List Setting) : Settings := steps.foldl set {}

def accessRules (s : Settings) : AccessRules :=
  ⟨s.restrictQueries, s.allowedClients, s.deniedClients⟩

/-- The host in a listen address: without white space around it, then without opening brackets in
    front and closing ones behind. -/
def host (address : String) : List Char :=
  dropEndWhile (· == ']') ((trim address.toList).dropWhile (· == '['))

/-- The first address that a host denotes: it is the text of an address, or a name to look up. -/
def resolve (lookup : List Char → Except LookupError (List IpAddress)) (host : List Char) :
    Except String IpAddress :=
  match IpAddress.ofChars? host with
  | some ip => .ok ip
  | none =>
    if host = [] then .error "empty address"
    else if '\x00' ∈ host then .error "file name contained an unexpected NUL byte"
    else
      match lookup host with
      | .error e => .error e.message
      | .ok [] => .error "no addresses resolved"
      | .ok (ip :: _) => .ok ip

def socketAddress (s : Settings) (lookup : List Char → Except LookupError (List IpAddress)) :
    Except ServerError SocketAddress :=
  match resolve lookup (host s.listenAddress) with
  | .ok ip => .ok ⟨ip, s.listenPort⟩
  | .error detail => .error (.invalidListenAddress s.listenAddress detail)

/-- A number of milliseconds in the largest unit that it has a whole one of, with as many decimals
    as it needs. -/
def durationText (milliseconds : UInt64) : String :=
  let seconds := milliseconds.toNat / 1000
  let rest := milliseconds.toNat % 1000
  if seconds = 0 then if rest = 0 then "0ns" else s!"{rest}ms"
  else if rest = 0 then s!"{seconds}s"
  else
    let decimals := dropEndWhile (· == '0') (Decimal.padded 3 rest)
    s!"{seconds}.{String.ofList decimals}s"

def debugText (s : Settings) : String :=
  let timeout := match s.ioTimeout with
    | none => "None"
    | some ms => s!"Some({durationText ms})"
  s!"ServerConfig \x7b listen_address: {quoted s.listenAddress}, listen_port: {s.listenPort}, " ++
    s!"dual_stack: {s.dualStack}, backlog: {s.backlog}, max_connections: {s.maxConnections}, " ++
    s!"worker_threads: {s.workerThreads}, restrict_queries: {s.restrictQueries}, " ++
    s!"allowed_clients: {quotedList s.allowedClients}, " ++
    s!"denied_clients: {quotedList s.deniedClients}, stratum: {s.stratum}, " ++
    s!"reference_id: {quoted s.referenceId}, io_timeout: {timeout} \x7d"

end Settings

end TimeServer
