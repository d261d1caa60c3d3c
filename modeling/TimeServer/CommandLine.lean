import TimeServer.Config.Storage

/-! # Command lines

What a command line asks for, and the configuration that it leads to.

* `Options.override` — values from the command line go before those of a configuration;
* `CommandLine.loadConfig` — the configuration file that is named, else the usual one if it is
  there, else the defaults.
-/

namespace TimeServer

structure Options where
  config : Option String := none
  listen : Option String := none
  port : Option UInt16 := none
  workers : Option UInt64 := none
  logLevel : Option String := none
  deriving DecidableEq, Repr

namespace Options

/-- The options of two places, where those of the first go before. -/
def orElse (o p : Options) : Options where
  config := o.config <|> p.config
  listen := o.listen <|> p.listen
  port := o.port <|> p.port
  workers := o.workers <|> p.workers
  logLevel := o.logLevel <|> p.logLevel

def override (o : Options) (c : Config) : Config where
  network :=
    { c.network with
      listenAddress := o.listen.getD c.network.listenAddress
      listenPort := o.port.getD c.network.listenPort }
  server := c.server
  logging := { c.logging with logLevel := o.logLevel.getD c.logging.logLevel }
  security := c.security
  performance := { c.performance with workerThreads := o.workers.getD c.performance.workerThreads }

end Options

inductive Subcommand
  | start
  | validate
  | initConfig (path : String)
  deriving DecidableEq, Repr

structure CommandLine where
  options : Options := {}
  subcommand : Option Subcommand := none
  deriving DecidableEq, Repr

namespace CommandLine

/-- The subcommand that is carried out: without one, the server is started. -/
def selected (c : CommandLine) : Subcommand := c.subcommand.getD .start

def usualPath : String := "config/simple-utcd.toml"

/-- The configuration that the command line leads to.  A file that is named must exist. -/
def loadConfig (c : CommandLine) (files : Files) : Except ConfigError Config :=
  let base : Except ConfigError Config :=
    match c.options.config with
    | some path => Config.load files path
    | none => if files.pathExists usualPath then Config.load files usualPath else .ok {}
  base.map c.options.override

end CommandLine

end TimeServer
