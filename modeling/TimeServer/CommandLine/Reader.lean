import TimeServer.CommandLine
import TimeServer.Log.Level

/-! # Reading command lines

Arguments are read from left to right.  An option may stand before or behind the subcommand; its
value is the next argument or is attached to it.  The value of an option is only checked when the
next option, a value for something else or the end is reached, so an argument that nobody knows is
reported before a bad value in front of it.

* `Scope` — where options are read: in front of the subcommand, or behind one;
* `readArguments` — the arguments of a scope;
* `CommandLine.parse` — a whole command line.
-/

namespace TimeServer

open TimeServer.Text

inductive ArgumentError
  | unknownArgument
  | invalidSubcommand
  | invalidValue
  | badNumber
  | missingArgument
  | conflict
  | unwantedValue
  | helpRequested
  | versionRequested
  deriving DecidableEq, Repr

namespace CommandLine

inductive Slot
  | config
  | listen
  | port
  | workers
  | logLevel
  | path
  deriving DecidableEq, Repr

inductive Scope
  | top
  | start
  | validate
  | initConfig
  deriving DecidableEq, Repr

structure Reading where
  options : Options := {}
  path : Option String := none
  /-- What is waiting to be checked, with its value if there is one yet. -/
  pending : Option (Slot × Option String) := none
  deriving DecidableEq, Repr

/-! ## Values -/

def integer? (cs : List Char) : Option Int :=
  match cs with
  | '-' :: cs =>
    (Threshold.number? cs).bind fun n => if cs.head? = some '+' then none else some (-n)
  | cs => (Threshold.number? cs).map fun n => n

def port? (text : String) : Option UInt16 := do
  let n ← integer? text.toList
  if 0 ≤ n ∧ n < UInt16.size then some (UInt16.ofNat n.toNat) else none

def workers? (text : String) : Option UInt64 := do
  let n ← Threshold.number? text.toList
  if n < UInt64.size then some (UInt64.ofNat n) else none

def path? (text : String) : Option String := if text.isEmpty then none else some text

/-- Sets what was not set before to the value that a text denotes. -/
def fill {α : Type} (old value : Option α) (error : ArgumentError) :
    Except ArgumentError (Option α) :=
  match old, value with
  | some _, _ => .error .conflict
  | none, none => .error error
  | none, some a => .ok (some a)

namespace Reading

def store (r : Reading) (slot : Slot) (text : String) : Except ArgumentError Reading := do
  let o := r.options
  match slot with
  | .config =>
    return { r with options := { o with config := ← fill o.config (path? text) .invalidValue } }
  | .listen =>
    return { r with options := { o with listen := ← fill o.listen (some text) .invalidValue } }
  | .port => return { r with options := { o with port := ← fill o.port (port? text) .badNumber } }
  | .workers =>
    return { r with options := { o with workers := ← fill o.workers (workers? text) .badNumber } }
  | .logLevel =>
    return { r with options := { o with logLevel := ← fill o.logLevel (some text) .invalidValue } }
  | .path => return { r with path := ← fill r.path (path? text) .invalidValue }

def settle (r : Reading) : Except ArgumentError Reading :=
  match r.pending with
  | none => .ok r
  | some (_, none) => .error .invalidValue
  | some (slot, some text) => { r with pending := none }.store slot text

/-- Whether the next argument that is no option is the value of the last one. -/
def isAwaiting (r : Reading) : Bool :=
  match r.pending with
  | some (_, none) => true
  | _ => false

def supply (r : Reading) (text : String) : Reading :=
  { r with pending := r.pending.map fun (slot, _) => (slot, some text) }

def takeOption (r : Reading) (slot : Slot) (attached : Option String) :
    Except ArgumentError Reading := do
  let r ← r.settle
  match attached with
  | some text => r.store slot text
  | none => return { r with pending := some (slot, none) }

def stopAt (r : Reading) (request : ArgumentError) : Except ArgumentError Reading := do
  let _ ← r.settle
  .error request

end Reading

/-! ## Options -/

def longSlot? (name : String) : Option Slot :=
  match name with
  | "config" => some .config
  | "listen" => some .listen
  | "port" => some .port
  | "workers" => some .workers
  | "log-level" => some .logLevel
  | _ => none

def shortSlot? (name : Char) : Option Slot :=
  match name with
  | 'c' => some .config
  | 'l' => some .listen
  | 'p' => some .port
  | 'w' => some .workers
  | _ => none

def readLong (scope : Scope) (r : Reading) (cs : List Char) : Except ArgumentError Reading :=
  let name := String.ofList (cs.takeWhile (· ≠ '='))
  let attached : Option String :=
    match cs.dropWhile (· ≠ '=') with
    | '=' :: value => some (String.ofList value)
    | _ => none
  match longSlot? name with
  | some slot => r.takeOption slot attached
  | none =>
    if name = "help" ∨ (name = "version" ∧ scope = .top) then
      if attached.isSome then .error .unwantedValue
      else r.stopAt (if name = "help" then .helpRequested else .versionRequested)
    else .error .unknownArgument

/-- Reads an option by its short name, behind the dash; its value may follow at once. -/
def readShort (scope : Scope) (r : Reading) (name : Char) (cs : List Char) :
    Except ArgumentError Reading :=
  match shortSlot? name with
  | some slot =>
    match cs with
    | [] => r.takeOption slot none
    | '=' :: value => r.takeOption slot (some (String.ofList value))
    | value => r.takeOption slot (some (String.ofList value))
  | none =>
    if name = 'h' then r.stopAt .helpRequested
    else if name = 'V' ∧ scope = .top then r.stopAt .versionRequested
    else .error .unknownArgument

/-! ## Arguments -/

def scopeOf? (name : String) : Option Scope :=
  match name with
  | "start" => some .start
  | "validate" => some .validate
  | "init-config" => some .initConfig
  | _ => none

/-- What a request for help with so many names gives.  Every name but the first must be known to
    the one before it, and only the program itself knows any. -/
def helpOn : List String → ArgumentError
  | [] => .helpRequested
  | [name] =>
    if name = "help" ∨ (scopeOf? name).isSome then .helpRequested else .invalidSubcommand
  | _ => .invalidSubcommand

/-- Reads an argument that is neither an option nor the value of one.  `trailing` says that options
    are over. -/
def readPositional (scope : Scope) (r : Reading) (trailing : Bool) (arg : String) :
    Except ArgumentError Reading :=
  match scope with
  | .top =>
    if trailing ∧ (arg = "help" ∨ (scopeOf? arg).isSome) then .error .unknownArgument
    else .error .invalidSubcommand
  | .initConfig =>
    let isTaken : Bool :=
      r.path.isSome || (match r.pending with
        | some (.path, _) => true
        | _ => false)
    if isTaken then .error .unknownArgument
    else do return { (← r.settle) with pending := some (.path, some arg) }
  | _ => .error .unknownArgument

def finish (scope : Scope) (r : Reading) : Except ArgumentError Reading := do
  let r ← r.settle
  if scope = .initConfig ∧ r.path = none then .error .missingArgument else .ok r

/-- Reads the arguments of a scope; gives what was read there, and behind a subcommand. -/
def readArguments (scope : Scope) (r : Reading) (trailing : Bool) :
    List String → Except ArgumentError (Reading × Option (Scope × Reading))
  | [] => do return (← finish scope r, none)
  | arg :: args =>
    let names : Bool := !trailing && !r.isAwaiting && scope == .top
    match if names then scopeOf? arg else none with
    | some inner => do
      let (read, _) ← readArguments inner {} false args
      return (← finish scope r, some (inner, read))
    | none =>
      if names ∧ arg = "help" then .error (helpOn args)
      else if trailing then do
        readArguments scope (← readPositional scope r true arg) true args
      else
        match arg.toList with
        | ['-', '-'] => readArguments scope r true args
        | '-' :: '-' :: cs => do readArguments scope (← readLong scope r cs) false args
        | '-' :: c :: cs => do readArguments scope (← readShort scope r c cs) false args
        | _ =>
          if r.isAwaiting then readArguments scope (r.supply arg) false args
          else do readArguments scope (← readPositional scope r false arg) false args

def subcommandOf : Scope × Reading → Option Subcommand
  | (.top, _) => none
  | (.start, _) => some .start
  | (.validate, _) => some .validate
  | (.initConfig, r) => r.path.map .initConfig

/-- Reads a command line, without the name of the program.  An option behind the subcommand goes
    before the same in front of it. -/
def parse (args : List String) : Except ArgumentError CommandLine := do
  let (outer, inner) ← readArguments .top {} false args
  match inner with
  | none => return { options := outer.options }
  | some inner =>
    return {
      options := inner.2.options.orElse outer.options
      subcommand := subcommandOf inner }

end CommandLine

end TimeServer
