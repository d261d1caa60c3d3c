import Std.Async.Signal
import Std.Async.TCP
import Std.Async.Timer
import TimeServer.Program

/-! # The program on a real host

The outer layer.  It shows the program a picture of the files that its paths lead to and carries the
changes over to the disk.  While the daemon runs, it tells it what happens on the host: which
clients connect, which reports fall due, which signal comes.  What is printed, logged and sent is
what the program says.
-/

namespace TimeServer.Main

open Std.Async
open TimeServer.Log (Record)

/-- The error with a number.  Calls on sockets give the number with the opposite sign. -/
def errorOfCode (code : UInt32) : IoError :=
  .os (if code.toNat < 0x80000000 then code.toNat else UInt32.size - code.toNat)

def errorOf : IO.Error → IoError
  | .alreadyExists _ code _ | .inappropriateType _ code _ | .invalidArgument _ code _
  | .noSuchThing _ code _ | .permissionDenied _ code _ | .resourceExhausted _ code _
  | .interrupted _ code _ | .noFileOrDirectory _ code _ => errorOfCode code
  | .hardwareFault code _ | .illegalOperation code _ | .protocolError code _
  | .resourceBusy code _ | .resourceVanished code _ | .timeExpired code _
  | .unsatisfiedConstraints code _ | .unsupportedOperation code _ => errorOfCode code
  | e => .custom .other (toString e)

def attempt {α : Type} (call : IO α) : IO (Except IoError α) := do
  return (← call.toBaseIO).mapError errorOf

def readClock : IO Clock := do
  let nanos := (← Std.Time.Timestamp.now).toNanosecondsSinceUnixEpoch.toInt
  return ⟨nanos / 1000000000, (nanos % 1000000000).toNat⟩

/-! ## Files -/

def pathOf (place : List String) : String := "/" ++ "/".intercalate place

def follow (place : List String) (name : String) : List String :=
  if name = "." then place else if name = ".." then place.dropLast else place ++ [name]

def placesOf (current : List String) (path : String) : List (List String) :=
  let p := FilePath.ofText path
  let start := if p.isAbsolute then [] else current
  (List.range (p.names.length + 1)).map fun n => (p.names.take n).foldl follow start

/-- Adds what stands at a place on the disk to a picture of it. -/
def look (files : Files) (place : List String) : IO Files := do
  match ← attempt (IO.FS.readBinFile (pathOf place)) with
  | .ok bytes => return files.put place (.ofBytes bytes)
  | .error (.os 21) => return files.put place .directory
  | .error _ => return files

def picture (paths : List String) : IO Files := do
  let current := (FilePath.ofText (toString (← IO.currentDir))).names
  let places := (placesOf [] (pathOf current) ++ paths.flatMap (placesOf current)).eraseDups
  places.foldlM look { current }

/-- Carries changes in a picture over to the disk, the oldest first. -/
def carryOver (before after : Files) : IO Unit := do
  for (place, node) in after.entries.reverse do
    if before.at? place ≠ some node then
      match node with
      | .directory => IO.FS.createDir (pathOf place)
      | .file (some text) => IO.FS.writeFile (pathOf place) text
      | .file none => pure ()

def write (log : ActiveLog) (records : List Record) : IO Unit := do
  let lines := log.lines records
  if log.console then (← IO.getStderr).putStr lines
  if let some path := log.path then
    let _ ← attempt do (← IO.FS.Handle.mk path .append).putStr lines

/-! ## Sockets -/

def toHost (a : SocketAddress) : Std.Net.SocketAddress :=
  match a.ip with
  | .v4 ip => .v4 ⟨.ofParts ip.a ip.b ip.c ip.d, a.port⟩
  | .v6 ip => .v6 ⟨⟨ip.groups.toArray, by simp [ip.length_groups]⟩, a.port⟩

def ofHost : Std.Net.SocketAddress → SocketAddress
  | .v4 a => ⟨.v4 ⟨a.addr.octets[0], a.addr.octets[1], a.addr.octets[2], a.addr.octets[3]⟩, a.port⟩
  | .v6 a => ⟨.v6 ⟨a.addr.segments.toList, by simp⟩, a.port⟩

/-- Binds the listening socket.  The network that the daemon sees answers as the host did. -/
def bind (settings : Settings) : IO (Option TCP.Socket.Server × Network) := do
  match settings.socketAddress NetworkRules.loopback.lookup with
  | .error _ => return (none, {})
  | .ok address =>
    let bound ← attempt do
      let socket ← TCP.Socket.Server.mk
      socket.bind (toHost address)
      socket.listen settings.backlog
      return (socket, ofHost (← socket.getSockName))
    match bound with
    | .error e => return (none, { rules := { NetworkRules.loopback with refusal? _ _ := some e } })
    | .ok (socket, address) =>
      let rules := { NetworkRules.loopback with refusal? _ _ := none }
      return (some socket, { rules, nextPort := address.port.toNat })

def deliver (client : TCP.Socket.Client) : Server.Fetched → Async Unit
  | .ok bytes => background do
    if bytes ≠ [] then client.send ⟨bytes.toArray⟩
    client.shutdown
  | .error _ => return ()

def sourceOf (client : TCP.Socket.Client) : IO IpAddress :=
  return (ofHost (← client.getPeerName)).ip

/-! ## The daemon -/

inductive Event
  | client (socket : TCP.Socket.Client)
  | report
  | finish (finish : Except IoError Daemon.Signal)

def awaitEvent (c : Config) (socket : TCP.Socket.Server) (interrupt terminate : Signal.Waiter) :
    Async Event := do
  let timer? ← c.statsInterval.mapM fun seconds => Selector.sleep (.ofNat (seconds.toNat * 1000))
  let reports : List (Selectable Event) :=
    timer?.toList.map fun timer => .case timer fun () => return .report
  let others : List (Selectable Event) :=
    [.case socket.acceptSelector fun client => return .client client,
      .case interrupt.selector fun () => return .finish (.ok .interrupt),
      .case terminate.selector fun () => return .finish (.ok .terminate)]
  try Selectable.one (others ++ reports).toArray
  catch failure => return .finish (.error (errorOf failure))

/-- The clients that wait when the signal comes reach the socket in the daemon, which serves them
    while it stops. -/
def finish (s : Daemon.State) (socket : TCP.Socket.Server)
    (finish : Except IoError Daemon.Signal) : Async Daemon.State := do
  let mut server := s.server
  let mut waiting := #[]
  repeat
    let some client ← socket.tryAccept | break
    let (number, next) := server.connect (some (← sourceOf client))
    server := next
    waiting := waiting.push (client, number)
  let s := Daemon.conclude { s with server } finish
  for (client, number) in waiting do
    deliver client (number.bind s.server.delivered)
  return s

/-- Runs the daemon, and writes to the log after everything that happens. -/
def serve (c : Config) (log : ActiveLog) : Async (Except DaemonError Unit) := do
  let (socket, network) ← bind c.settings
  let (result, first) := Daemon.launch c network (← readClock)
  write log first.records
  match result, socket with
  | .error e, _ => return .error (.server e)
  | .ok (), none => return .ok ()
  | .ok (), some socket =>
    let interrupt ← Signal.Waiter.mk .sigint false
    let terminate ← Signal.Waiter.mk .sigterm false
    let mut s := first
    repeat
      let event ← awaitEvent c socket interrupt terminate
      s := { server := { s.server with clock := ← readClock, journal := [] } }
      match event with
      | .client client =>
        let (fetched, next) := Daemon.happen c s (.client (← sourceOf client))
        deliver client (fetched.getD (.ok []))
        s := next
      | .report => s := (Daemon.happen c s .report).2
      | .finish how =>
        write log (← finish s socket how).records
        return Daemon.verdict how
      write log s.records
    return .ok ()

/-! ## The program -/

def pathsOf (line : CommandLine) : List String :=
  (line.options.config.getD CommandLine.usualPath) ::
    match line.selected with
    | .initConfig path => [path]
    | _ => []

def start (line : CommandLine) : IO (Except DaemonError Unit) := do
  match Program.validConfig line { files := ← picture (pathsOf line) } with
  | .error e => return .error e
  | .ok c =>
    let files ← picture c.logging.logFile.toList
    let (result, host) := ({ files } : Host).initLogging c.logging
    carryOver files host.files
    match result, host.log with
    | .error e, _ => return .error e
    | .ok (), some log => (serve c log).block
    | .ok (), none => return .ok ()

def run (args : List String) : IO Program.Ending := do
  match CommandLine.parse args with
  | .error e => return .refused e
  | .ok line =>
    if line.selected = .start then
      match ← start line with
      | .ok () => return .succeeded ""
      | .error e => return .failed e
    else
      let files ← picture (pathsOf line)
      let (ending, host) := Program.run args { host := { files }, clock := ← readClock }
      carryOver files host.files
      return ending

end TimeServer.Main

def main (args : List String) : IO UInt32 := do
  let ending ← TimeServer.Main.run args
  (← IO.getStdout).putStr ending.output
  (← IO.getStderr).putStr ending.errors
  return ending.exitCode
