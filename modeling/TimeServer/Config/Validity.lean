import TimeServer.Config
import TimeServer.Config.Error
import TimeServer.Log.Level

/-! # Valid configurations

What a configuration must satisfy before a server is started with it, field by field.  The first
field that does not decides what is reported.
-/

namespace TimeServer.Config

open TimeServer.Text

def isBlankText (text : String) : Bool := trim text.toList == []

def maxWorkerThreads : UInt64 := 1024

/-- The first entry of a client list that is no IP address. -/
def badClient? (clients : List String) : Option String :=
  clients.find? fun client => (IpAddress.parse? client).isNone

def Network.defect? (n : Network) : Option ConfigError :=
  if isBlankText n.listenAddress then some (.invalid "network.listen_address" "must not be empty")
  else if n.maxConnections = 0 then some (.invalid "network.max_connections" "must be at least 1")
  else if n.backlog = 0 then some (.invalid "network.backlog" "must be at least 1")
  else none

def Identity.defect? (s : Identity) : Option ConfigError :=
  if s.stratum < 1 ∨ 15 < s.stratum then
    some (.invalid "server.stratum" s!"{s.stratum} is outside 1-15")
  else if isBlankText s.referenceId then some (.invalid "server.reference_id" "must not be empty")
  else none

def Logging.defect? (l : Logging) : Option ConfigError :=
  match Threshold.parse? l.logLevel with
  | some _ => none
  | none => some (.invalid "logging.log_level" s!"unknown level '{l.logLevel}'")

def clientsDefect? (field : String) (clients : List String) : Option ConfigError :=
  (badClient? clients).map fun bad => .invalid field s!"'{bad}' is not an IP address"

def Security.defect? (s : Security) : Option ConfigError :=
  clientsDefect? "security.allowed_clients" s.allowedClients <|>
    clientsDefect? "security.denied_clients" s.deniedClients

def Performance.defect? (p : Performance) : Option ConfigError :=
  if p.workerThreads < 1 ∨ maxWorkerThreads < p.workerThreads then
    some (.invalid "performance.worker_threads"
      s!"{p.workerThreads} is outside 1-{maxWorkerThreads}")
  else if p.enableStatistics ∧ p.statsInterval = 0 then
    some (.invalid "performance.stats_interval" "must be at least 1")
  else none

def defect? (c : Config) : Option ConfigError :=
  c.network.defect? <|> c.server.defect? <|> c.logging.defect? <|> c.security.defect? <|>
    c.performance.defect?

/-- Checks that every value is usable. -/
def validate (c : Config) : Except ConfigError Unit :=
  match c.defect? with
  | some e => .error e
  | none => .ok ()

end TimeServer.Config
