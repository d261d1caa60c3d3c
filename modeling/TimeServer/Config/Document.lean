import TimeServer.Config
import TimeServer.Toml.Document.Reader
import TimeServer.Toml.Document.Writer

/-! # Configurations as TOML documents

* `Config.ofEntries?` — the configuration that a document gives.  Keys that it does not know are
  ignored, fields that are not given have their usual values, and nothing is converted;
* `Config.sections` — the document that gives a configuration;
* `Config.parse?`, `Config.render?` — reading and writing its text.
-/

namespace TimeServer

open Toml (Entries Field Section Value)

namespace Toml.Value

def text? : Value → Option String
  | string text => some text
  | _ => none

def flag? : Value → Option Bool
  | boolean b => some b
  | _ => none

def number? (limit : Nat) : Value → Option Nat
  | integer n => if 0 ≤ n ∧ n < limit then some n.toNat else none
  | _ => none

def texts? : Value → Option (List String)
  | array values => values.mapM text?
  | _ => none

/-- The fields of a section: those of a table by name, those of a list by their order.  A date is a
    section without fields. -/
def fields? (names : List String) : Value → Option Entries
  | table _ entries => some entries
  | array values => some (names.zip values)
  | tables elements => some (names.zip (elements.map fun es => table .header es))
  | datetime _ => some []
  | _ => none

end Toml.Value

namespace Config

structure Key (σ : Type) where
  name : String
  /-- The section with the field set to a value. -/
  set? : Value → σ → Option σ
  /-- The value of the field, if it is written. -/
  get? : σ → Option Field

namespace Key

variable {σ : Type}

def text (name : String) (get : σ → String) (set : String → σ → σ) : Key σ :=
  ⟨name, fun v s => v.text?.map (set · s), fun s => some (.text (get s))⟩

def flag (name : String) (get : σ → Bool) (set : Bool → σ → σ) : Key σ :=
  ⟨name, fun v s => v.flag?.map (set · s), fun s => some (.flag (get s))⟩

def number (name : String) (limit : Nat) (get : σ → Nat) (set : Nat → σ → σ) : Key σ :=
  ⟨name, fun v s => (v.number? limit).map (set · s), fun s => some (.number (get s))⟩

def texts (name : String) (get : σ → List String) (set : List String → σ → σ) : Key σ :=
  ⟨name, fun v s => v.texts?.map (set · s), fun s => some (.texts (get s))⟩

def optionalText (name : String) (get : σ → Option String) (set : String → σ → σ) : Key σ :=
  ⟨name, fun v s => v.text?.map (set · s), fun s => (get s).map .text⟩

def readAll? (keys : List (Key σ)) (entries : Entries) (s : σ) : Option σ :=
  keys.foldlM (fun s key =>
    match entries.lookup key.name with
    | some value => key.set? value s
    | none => some s) s

/-- The section that a value gives; without a value, the usual one. -/
def read? (keys : List (Key σ)) (usual : σ) : Option Value → Option σ
  | none => some usual
  | some value => do readAll? keys (← value.fields? (keys.map Key.name)) usual

def fields (keys : List (Key σ)) (s : σ) : List (String × Field) :=
  keys.filterMap fun key => (key.get? s).map (key.name, ·)

end Key

/-! ## The fields of each section -/

def Network.keys : List (Key Network) :=
  [.text "listen_address" (·.listenAddress) fun v s => { s with listenAddress := v },
    .number "listen_port" UInt16.size (·.listenPort.toNat)
      fun v s => { s with listenPort := UInt16.ofNat v },
    .flag "enable_ipv6" (·.enableIpv6) fun v s => { s with enableIpv6 := v },
    .number "max_connections" UInt64.size (·.maxConnections.toNat)
      fun v s => { s with maxConnections := UInt64.ofNat v },
    .number "backlog" UInt32.size (·.backlog.toNat) fun v s => { s with backlog := UInt32.ofNat v },
    .number "timeout_ms" UInt64.size (·.timeoutMs.toNat)
      fun v s => { s with timeoutMs := UInt64.ofNat v }]

def Identity.keys : List (Key Identity) :=
  [.number "stratum" UInt8.size (·.stratum.toNat) fun v s => { s with stratum := UInt8.ofNat v },
    .text "reference_id" (·.referenceId) fun v s => { s with referenceId := v },
    .text "reference_clock" (·.referenceClock) fun v s => { s with referenceClock := v }]

def Logging.keys : List (Key Logging) :=
  [.optionalText "log_file" (·.logFile) fun v s => { s with logFile := some v },
    .text "log_level" (·.logLevel) fun v s => { s with logLevel := v },
    .flag "console" (·.console) fun v s => { s with console := v },
    .flag "enable_syslog" (·.enableSyslog) fun v s => { s with enableSyslog := v }]

def Security.keys : List (Key Security) :=
  [.flag "restrict_queries" (·.restrictQueries) fun v s => { s with restrictQueries := v },
    .texts "allowed_clients" (·.allowedClients) fun v s => { s with allowedClients := v },
    .texts "denied_clients" (·.deniedClients) fun v s => { s with deniedClients := v }]

def Performance.keys : List (Key Performance) :=
  [.number "worker_threads" UInt64.size (·.workerThreads.toNat)
      fun v s => { s with workerThreads := UInt64.ofNat v },
    .flag "enable_statistics" (·.enableStatistics) fun v s => { s with enableStatistics := v },
    .number "stats_interval" UInt64.size (·.statsInterval.toNat)
      fun v s => { s with statsInterval := UInt64.ofNat v }]

/-! ## Whole configurations -/

def ofEntries? (es : Entries) : Option Config := do
  return {
    network := ← Key.read? Network.keys {} (es.lookup "network")
    server := ← Key.read? Identity.keys {} (es.lookup "server")
    logging := ← Key.read? Logging.keys {} (es.lookup "logging")
    security := ← Key.read? Security.keys {} (es.lookup "security")
    performance := ← Key.read? Performance.keys {} (es.lookup "performance") }

def sections (c : Config) : List Section :=
  [⟨"network", Key.fields Network.keys c.network⟩, ⟨"server", Key.fields Identity.keys c.server⟩,
    ⟨"logging", Key.fields Logging.keys c.logging⟩,
    ⟨"security", Key.fields Security.keys c.security⟩,
    ⟨"performance", Key.fields Performance.keys c.performance⟩]

def parse? (text : String) : Option Config := do ofEntries? (← Toml.parse? text)

/-- Writes the configuration, unless it has a number that TOML cannot write. -/
def render? (c : Config) : Option String := (Toml.writeSections? c.sections).map String.ofList

end Config

end TimeServer
