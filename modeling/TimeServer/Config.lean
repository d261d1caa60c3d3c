import TimeServer.Settings

/-! # Configuration

The configuration of the daemon, in five sections, with the value of each field that is not given.

* `Config.settings` — the server settings that it describes;
* `Config.statsInterval` — how often statistics are logged.
-/

namespace TimeServer

namespace Config

structure Network where
  listenAddress : String := "0.0.0.0"
  listenPort : UInt16 := 37
  /-- Whether an IPv6 listener takes IPv4 clients too. -/
  enableIpv6 : Bool := true
  maxConnections : UInt64 := 1000
  backlog : UInt32 := 128
  /-- Milliseconds that a stalled client may hold up a worker; 0 for ever. -/
  timeoutMs : UInt64 := 1000
  deriving DecidableEq, Repr

structure Identity where
  stratum : UInt8 := 2
  referenceId : String := "UTC"
  /-- The clock that the host follows.  Reported only. -/
  referenceClock : String := "UTC"
  deriving DecidableEq, Repr

structure Logging where
  logFile : Option String := none
  logLevel : String := "info"
  console : Bool := true
  enableSyslog : Bool := false
  deriving DecidableEq, Repr

structure Security where
  restrictQueries : Bool := false
  allowedClients : List String := []
  deniedClients : List String := []
  deriving DecidableEq, Repr

structure Performance where
  workerThreads : UInt64 := 4
  enableStatistics : Bool := true
  statsInterval : UInt64 := 60
  deriving DecidableEq, Repr

end Config

structure Config where
  network : Config.Network := {}
  server : Config.Identity := {}
  logging : Config.Logging := {}
  security : Config.Security := {}
  performance : Config.Performance := {}
  deriving DecidableEq, Repr

namespace Config

def settings (c : Config) : Settings where
  listenAddress := c.network.listenAddress
  listenPort := c.network.listenPort
  dualStack := c.network.enableIpv6
  backlog := c.network.backlog
  maxConnections := c.network.maxConnections
  workerThreads := c.performance.workerThreads
  restrictQueries := c.security.restrictQueries
  allowedClients := c.security.allowedClients
  deniedClients := c.security.deniedClients
  stratum := c.server.stratum
  referenceId := c.server.referenceId
  ioTimeout := if c.network.timeoutMs = 0 then none else some c.network.timeoutMs

/-- Seconds from one report of statistics to the next, if they are reported. -/
def statsInterval (c : Config) : Option UInt64 :=
  if c.performance.enableStatistics ∧ c.performance.statsInterval ≠ 0 then
    some c.performance.statsInterval
  else none

end Config

end TimeServer
