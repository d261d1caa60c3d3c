import TimeServer.Connection

/-! # Sessions on a connection

The operations on a connection as data, so that sequences of them can be run and reasoned about.

* `Connection.perform`, `Connection.performAll` — operations on one connection;
* `Company.step`, `Company.run` — operations on several that share their counters.
-/

namespace TimeServer

inductive Operation
  | serve
  | send (packet : TimePacket)
  | receive
  | close
  deriving DecidableEq, Repr

inductive Outcome
  | served (service : Service)
  | sent (bytes : Nat)
  | received (packet : TimePacket)
  | closed
  | failed (failure : Failure)
  deriving DecidableEq, Repr

namespace Outcome

def ofResult {α : Type} (ok : α → Outcome) : Except Failure α → Outcome
  | .ok a => ok a
  | .error failure => failed failure

end Outcome

namespace Connection

def perform (c : Connection) (clock : Clock) : Operation → Turn Outcome
  | .serve =>
    let turn := c.serve clock
    ⟨.ofResult .served turn.result, turn.connection, turn.journal⟩
  | .send packet =>
    let turn := c.sendPacket packet clock
    ⟨.ofResult .sent turn.result, turn.connection, turn.journal⟩
  | .receive =>
    let turn := c.receivePacket clock
    ⟨.ofResult .received turn.result, turn.connection, turn.journal⟩
  | .close =>
    let turn := c.close
    ⟨.closed, turn.connection, turn.journal⟩

/-- Carries out operations one after another, each at its own time. -/
def performAll (c : Connection) : List (Clock × Operation) → Turn (List Outcome)
  | [] => ⟨[], c, []⟩
  | (clock, operation) :: rest =>
    let turn := c.perform clock operation
    let later := turn.connection.performAll rest
    ⟨turn.result :: later.result, later.connection, turn.journal ++ later.journal⟩

end Connection

/-! ## Several connections

They share their counters and their observer, as those of one server do. -/

structure Member where
  connection : Connection
  journal : Journal

structure Company where
  members : List Member := []
  stats : Stats := {}
  journal : Journal := []

/-- A connection is made, or something is done with one.  To drop it is to close it. -/
inductive Company.Move
  | join (client : String) (rules : AccessRules) (stream : Stream)
  | perform (place : Nat) (clock : Clock) (operation : Operation)

namespace Company

def step (co : Company) : Move → Company
  | .join client rules stream =>
    let turn := Connection.establish client rules stream
    { members := co.members ++ [⟨turn.connection, turn.journal⟩]
      stats := co.stats.record turn.journal
      journal := co.journal ++ turn.journal }
  | .perform place clock operation =>
    match co.members[place]? with
    | none => co
    | some m =>
      let turn := m.connection.perform clock operation
      { members := co.members.set place ⟨turn.connection, m.journal ++ turn.journal⟩
        stats := co.stats.record turn.journal
        journal := co.journal ++ turn.journal }

def run (moves : List Move) : Company := moves.foldl step {}

end Company

end TimeServer
