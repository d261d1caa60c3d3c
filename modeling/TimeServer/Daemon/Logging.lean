import TimeServer.Config
import TimeServer.Daemon.Error
import TimeServer.Files
import TimeServer.Log.Filter
import TimeServer.Log.Record

/-! # The log of a running program

A running program has at most one log and at most one connection to the system log.

* `Host.initLogging` — sets the log up as a configuration says;
* `ActiveLog.lines` — what a log makes of records;
* `Host.writeLog` — adds records to the log file.
-/

namespace TimeServer

structure ActiveLog where
  filter : Log.Filter
  path : Option String
  console : Bool
  deriving DecidableEq, Repr

def ActiveLog.lines (log : ActiveLog) (records : List Log.Record) : String :=
  String.join ((records.filter fun r => log.filter.allows r.target r.level).map (·.line ++ "\n"))

/-- What a running program finds and changes: the files, its log, and its connection to the system
    log. -/
structure Host where
  files : Files := {}
  log : Option ActiveLog := none
  hasSyslog : Bool := false
  deriving DecidableEq, Repr

namespace Host

def openSyslog (h : Host) : Except DaemonError Unit × Host :=
  if h.hasSyslog then (.error (.syslog "a syslog connection is already open"), h)
  else (.ok (), { h with hasSyslog := true })

def closeSyslog (h : Host) : Host := { h with hasSyslog := false }

def openLogFile (h : Host) (path : String) : Except DaemonError Unit × Host :=
  match h.files.createParents path with
  | (.error e, files) => (.error (.logFile path e), { h with files })
  | (.ok (), files) =>
    match files.append path "" with
    | .error e => (.error (.logFile path e), { h with files })
    | .ok files => (.ok (), { h with files })

def openLogFile? (h : Host) : Option String → Except DaemonError Unit × Host
  | none => (.ok (), h)
  | some path => h.openLogFile path

/-- Makes a log the one of the program, unless it has one. -/
def install (h : Host) (log : ActiveLog) : Except DaemonError Unit × Host :=
  match h.log with
  | some _ => (.error .logging, h)
  | none => (.ok (), { h with log := some log })

/-- Sets the log up: opens its file, connects to the system log, and makes it the log of the
    program.  A connection that was made for a log that there is no room for is closed again. -/
def initLogging (h : Host) (s : Config.Logging) : Except DaemonError Unit × Host :=
  let log : ActiveLog := ⟨.ofLevel s.logLevel, s.logFile, s.console⟩
  match h.openLogFile? s.logFile with
  | (.error e, h) => (.error e, h)
  | (.ok (), h) =>
    if s.enableSyslog then
      match h.openSyslog with
      | (.error e, h) => (.error e, h)
      | (.ok (), h) =>
        match h.install log with
        | (.error e, h) => (.error e, h.closeSyslog)
        | (.ok (), h) => (.ok (), h)
    else h.install log

/-- Adds records to the log file.  Records that cannot be written are lost. -/
def writeLog (h : Host) (records : List Log.Record) : Host :=
  match h.log.bind fun log => log.path.map (log, ·) with
  | some (log, path) =>
    match h.files.append path (log.lines records) with
    | .ok files => { h with files }
    | .error _ => h
  | none => h

end Host

end TimeServer
