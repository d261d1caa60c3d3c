import TimeServer.CommandLine.Usage
import TimeServer.Config.Validity
import TimeServer.Daemon
import TimeServer.Daemon.Logging

/-! # The program

What the program does with its arguments: what it prints, the files it leaves behind, and the code
that it exits with.

* `Program.carryOut` — carries out a command line;
* `Program.run` — the whole program;
* `Ending.output`, `Ending.errors`, `Ending.exitCode` — what it leaves its caller with.
-/

namespace TimeServer.Program

structure World where
  host : Host := {}
  network : Network := {}
  clock : Clock
  /-- How the wait for a signal goes, if the program comes to wait for one. -/
  course : Daemon.Course := .waited [] (.ok .terminate)

def check (c : Config) : Except DaemonError Unit := c.validate.mapError .config

def initConfig (options : Options) (path : String) (h : Host) :
    Except DaemonError String × Host :=
  let c := options.override {}
  match check c with
  | .error e => (.error e, h)
  | .ok () =>
    match c.save h.files path with
    | (.error e, files) => (.error (.config e), { h with files })
    | (.ok (), files) => (.ok s!"wrote configuration to {path}\n", { h with files })

/-- The configuration that a command line leads to, checked. -/
def validConfig (line : CommandLine) (h : Host) : Except DaemonError Config := do
  let c ← (line.loadConfig h.files).mapError .config
  check c
  return c

def validate (line : CommandLine) (h : Host) : Except DaemonError String := do
  let c ← validConfig line h
  return s!"configuration is valid: {c.network.listenAddress}:{c.network.listenPort} " ++
    s!"with {c.performance.workerThreads} workers\n"

def serve (c : Config) (w : World) : Except DaemonError Daemon.Outcome × Host :=
  match w.host.initLogging c.logging with
  | (.error e, h) => (.error e, h)
  | (.ok (), h) =>
    let outcome := Daemon.run c w.network w.clock w.course
    (.ok outcome, h.writeLog outcome.state.records)

def carryOut (line : CommandLine) (w : World) : Except DaemonError String × Host :=
  match line.selected with
  | .initConfig path => initConfig line.options path w.host
  | .validate => (validate line w.host, w.host)
  | .start =>
    match validConfig line w.host with
    | .error e => (.error e, w.host)
    | .ok c =>
      match serve c w with
      | (.error e, h) => (.error e, h)
      | (.ok outcome, h) => (outcome.result.map fun _ => "", h)

inductive Ending
  | refused (error : ArgumentError)
  | succeeded (output : String)
  | failed (error : DaemonError)
  deriving DecidableEq, Repr

namespace Ending

def output : Ending → String
  | refused .helpRequested => CommandLine.usage
  | refused .versionRequested => CommandLine.version ++ "\n"
  | refused _ => ""
  | succeeded output => output
  | failed _ => ""

def errors : Ending → String
  | refused .helpRequested | refused .versionRequested => ""
  | refused e => s!"error: {e.message}\n\n" ++ CommandLine.usage
  | succeeded _ => ""
  | failed e => s!"{CommandLine.programName}: {e.message}\n"

def exitCode : Ending → UInt32
  | refused .helpRequested | refused .versionRequested => 0
  | refused _ => 2
  | succeeded _ => 0
  | failed _ => 1

end Ending

def run (args : List String) (w : World) : Ending × Host :=
  match CommandLine.parse args with
  | .error e => (.refused e, w.host)
  | .ok line =>
    match carryOut line w with
    | (.ok output, h) => (.succeeded output, h)
    | (.error e, h) => (.failed e, h)

end TimeServer.Program
