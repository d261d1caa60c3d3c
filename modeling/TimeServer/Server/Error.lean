import TimeServer.IoError
import TimeServer.Lifecycle

/-! # Server errors -/

namespace TimeServer

inductive Role
  | worker
  | accept
  deriving DecidableEq, Repr

namespace Role

def name : Role → String
  | worker => "worker"
  | accept => "accept"

end Role

inductive ServerError
  | invalidListenAddress (address detail : String)
  | bind (address : String) (cause : IoError)
  | alreadyStarted (phase : Phase)
  | spawn (role : Role) (cause : IoError)
  deriving DecidableEq, Repr

namespace ServerError

def message : ServerError → String
  | invalidListenAddress address detail => s!"invalid listen address '{address}': {detail}"
  | bind address cause => s!"failed to bind {address}: {cause.message}"
  | alreadyStarted phase => s!"server is already {phase.name}"
  | spawn role cause => s!"failed to spawn {role.name} thread: {cause.message}"

def cause? : ServerError → Option IoError
  | bind _ cause => some cause
  | spawn _ cause => some cause
  | _ => none

def ioKind : ServerError → IoKind
  | invalidListenAddress .. => .invalidInput
  | bind _ cause => cause.kind
  | alreadyStarted _ => .other
  | spawn _ cause => cause.kind

def toIoError (e : ServerError) : IoError := .custom e.ioKind e.message

end ServerError

end TimeServer
