import TimeServer.Proofs.Server.Call
import TimeServer.Server.Schedule

/-! # Moves around a server

* `Reaches.induction` — what every move keeps holds in every state that is reached;
* `step?_advance`, `step?_accept`, `step?_work` — the moves of calls and of threads by the steps
  that they are.
-/

namespace TimeServer.System

variable {allowed : System → Move → Prop} {first h next : System}

/-- What holds at first and is kept by every move holds in every state that is reached. -/
theorem Reaches.induction {P : System → Prop} (reached : Reaches allowed first h) (start : P first)
    (kept : ∀ h next move, P h → allowed h move → h.step? move = some next → P next) : P h := by
  induction reached with
  | refl => exact start
  | step move _ ok moved ih => exact kept _ _ move ih ok moved

/-- A step of a call: the call was where the step begins, and the other calls stay where they
    are. -/
theorem step?_advance {call : Nat} (moved : h.step? (.advance call) = some next) :
    ∃ before task after task' server, h.calls = before ++ task :: after ∧ call = before.length ∧
      Task.Step h.server task task' server ∧
        next = { h with server, calls := before ++ task' :: after } := by
  simp only [step?, Option.bind_eq_bind, Option.bind_eq_some_iff] at moved
  obtain ⟨task, found, ⟨task', server⟩, advanced, moved⟩ := moved
  cases moved
  obtain ⟨before, after, split, rfl⟩ := split_at_place found
  exact ⟨before, task, after, task', server, split, rfl, Server.step_of_advance advanced,
    by simp [split]⟩

theorem step?_accept {i : Nat} (moved : h.step? (.accept i) = some next) :
    ∃ run network run' journal, h.server.runs[i]? = some run ∧
      Run.Step h.server run network run' journal ∧
        next =
          { h with
            server := h.server.change network i run' journal
            lost := h.lost ++ (run.loses h.server.network).map (Guest.mk run.endpoint)
            forsaken := h.forsaken ++ (run.forsakes h.server.network).map (Guest.mk run.endpoint)
            crowd := max h.crowd (h.server.change network i run' journal).unfinished } := by
  simp only [step?, Option.bind_eq_bind, Option.bind_eq_some_iff] at moved
  obtain ⟨run, at_run, server, acted, moved⟩ := moved
  cases moved
  obtain ⟨network, run', journal, step, rfl⟩ := Server.step_of_moveAcceptor? acted
  exact ⟨run, network, run', journal, at_run, step, rfl⟩

theorem step?_work {i : Nat} {action : Pool.Action}
    (moved : h.step? (.work i action) = some next) :
    ∃ run pool journal, h.server.runs[i]? = some run ∧
      Pool.Step h.server.clock run.pool action journal pool ∧
        next =
          { h with server := h.server.change h.server.network i { run with pool } journal } := by
  simp only [step?, Option.bind_eq_bind, Option.bind_eq_some_iff] at moved
  obtain ⟨run, at_run, ⟨pool, journal⟩, acted, moved⟩ := moved
  cases moved
  exact ⟨run, pool, journal, at_run, Pool.step_of_act? acted, rfl⟩

end TimeServer.System
