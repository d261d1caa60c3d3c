/-! # The life cycle of a server

The four phases of a server, and the cell that holds the current one.
-/

namespace TimeServer

inductive Phase
  | stopped
  | starting
  | running
  | stopping
  deriving DecidableEq, Repr

namespace Phase

def name : Phase → String
  | stopped => "stopped"
  | starting => "starting"
  | running => "running"
  | stopping => "stopping"

def debugText : Phase → String
  | stopped => "Stopped"
  | starting => "Starting"
  | running => "Running"
  | stopping => "Stopping"

/-- The phase after a change that is only made from an expected one; else the phase that was found
    instead. -/
def transition (current expected next : Phase) : Except Phase Phase :=
  if current = expected then .ok next else .error current

end Phase

end TimeServer
