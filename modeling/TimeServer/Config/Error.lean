import TimeServer.IoError

/-! # Configuration errors -/

namespace TimeServer

inductive ConfigError
  | read (path : String) (cause : IoError)
  | parse (path : String)
  /-- The configuration has a number that TOML cannot write. -/
  | serialize
  | write (path : String) (cause : IoError)
  | invalid (field reason : String)
  deriving DecidableEq, Repr

namespace ConfigError

/-- What the error says, up to the details of the document for `parse` and `serialize`. -/
def message : ConfigError → String
  | read path cause => s!"failed to read config file {path}: {cause.message}"
  | parse path => s!"failed to parse config file {path}: "
  | serialize => "failed to serialize config: "
  | write path cause => s!"failed to write config file {path}: {cause.message}"
  | invalid field reason => s!"invalid value for {field}: {reason}"

def cause? : ConfigError → Option IoError
  | read _ cause => some cause
  | write _ cause => some cause
  | _ => none

end ConfigError

end TimeServer
