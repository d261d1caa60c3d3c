import TimeServer.Config.Error
import TimeServer.Server.Error

/-! # Daemon errors -/

namespace TimeServer

inductive DaemonError
  | config (error : ConfigError)
  | logFile (path : String) (cause : IoError)
  | syslog (reason : String)
  | logging
  | server (error : ServerError)
  | runtime (cause : IoError)
  deriving DecidableEq, Repr

namespace DaemonError

def message : DaemonError → String
  | config error => error.message
  | logFile path cause => s!"failed to open log file {path}: {cause.message}"
  | syslog reason => s!"failed to open syslog: {reason}"
  | logging =>
    "failed to initialize logging: a global default trace dispatcher has already been set"
  | server error => error.message
  | runtime cause => s!"runtime error: {cause.message}"

def cause? : DaemonError → Option IoError
  | config error => error.cause?
  | logFile _ cause => some cause
  | server error => error.cause?
  | runtime cause => some cause
  | _ => none

end DaemonError

end TimeServer
