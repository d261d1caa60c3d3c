import TimeServer.Proofs.Server.Acceptor
import TimeServer.Server.Task

/-! # What the steps of calls do

* `Task.Step` — the steps of calls that start and stop a server as a relation, one case for each
  kind;
* `step_of_advance` — there are no others.
-/

namespace TimeServer

open Server

/-- The steps of calls: where the call stands before and after, and the server after it. -/
inductive Task.Step (s : Server) : Task → Task → Server → Prop
  | enter (idle : s.phase = .stopped) : Step s .entering .locking { s with phase := .starting }
  | reject (busy : s.phase ≠ .stopped) :
      Step s .entering (.started (.error (.alreadyStarted s.phase))) s
  | lock (free : s.locked = false) : Step s .locking .binding { s with locked := true }
  | misnamed {error : ServerError}
      (unresolved : s.settings.socketAddress s.network.rules.lookup = .error error) :
      Step s .binding (.failing error) s
  | unbound {address : SocketAddress} {error : IoError} {network : Network}
      (resolved : s.settings.socketAddress s.network.rules.lookup = .ok address)
      (failed : s.network.bind? address s.settings.dualStack = (.error error, network)) :
      Step s .binding (.failing (.bind address.text error)) { s with network }
  | bound {address : SocketAddress} {endpoint : Endpoint} {network : Network}
      (resolved : s.settings.socketAddress s.network.rules.lookup = .ok address)
      (made : s.network.bind? address s.settings.dualStack = (.ok endpoint, network)) :
      Step s .binding (.hiring s.runs.length)
        { s with
          network
          runs := s.runs ++
            [⟨endpoint.number, endpoint.address, .ofCapacity s.settings.maxConnections.toNat,
              .absent, none⟩] }
  | hired {i : Nat} {run : Run} {faults : List Fault} (at_run : s.runs[i]? = some run)
      (short : run.pool.workers.length < s.workerCount)
      (tripped : Network.takeFault .spawnThread s.network.faults = (none, faults)) :
      Step s (.hiring i) (.hiring i)
        (s.change { s.network with faults } i { run with pool := run.pool.hire } [])
  | unstaffed {i : Nat} {run : Run} {code : Nat} {faults : List Fault}
      (at_run : s.runs[i]? = some run) (short : run.pool.workers.length < s.workerCount)
      (tripped : Network.takeFault .spawnThread s.network.faults = (some code, faults)) :
      Step s (.hiring i) (.dismissing i (.spawn .worker (.os code)))
        (s.change { s.network with faults } i { run with pool := run.pool.detach } [])
  | staffed {i : Nat} {run : Run} (at_run : s.runs[i]? = some run)
      (enough : s.workerCount ≤ run.pool.workers.length) :
      Step s (.hiring i) (.opening i)
        (s.change s.network i { run with pool := run.pool.attach } [])
  | opened {i : Nat} : Step s (.opening i) (.launching i) { s with phase := .running }
  | launched {i : Nat} {run : Run} {faults : List Fault} (at_run : s.runs[i]? = some run)
      (tripped : Network.takeFault .spawnThread s.network.faults = (none, faults)) :
      Step s (.launching i) (.filling i)
        (s.change { s.network with faults } i { run with acceptor := .accepting .serving } [])
  | unlaunched {i : Nat} {run : Run} {code : Nat} {faults : List Fault}
      (at_run : s.runs[i]? = some run)
      (tripped : Network.takeFault .spawnThread s.network.faults = (some code, faults)) :
      Step s (.launching i) (.dismissing i (.spawn .accept (.os code)))
        (s.change { s.network with faults } i { run with pool := run.pool.detach.detach } [])
  | dismissed {i : Nat} {run : Run} {error : ServerError} (at_run : s.runs[i]? = some run)
      (done : run.pool.isDone) :
      Step s (.dismissing i error) (.failing error)
        (s.change (s.network.close run.endpoint) i { run with pool := run.pool.join } [])
  | filled {i : Nat} {run : Run} (at_run : s.runs[i]? = some run) :
      Step s (.filling i) (.releasing (.ok run.address))
        ({ s with slot := some i }.note
          (.listening run.address run.pool.workers.length s.settings.stratum
            s.settings.referenceId))
  | failed {error : ServerError} :
      Step s (.failing error) (.releasing (.error error))
        ({ s with phase := .stopped }.note (.startFailed error))
  | release {result : Except ServerError SocketAddress} :
      Step s (.releasing result) (.started result) { s with locked := false }
  | halt (running : s.phase = .running) :
      Step s .halting .emptying ({ s with phase := .stopping }.note .stopping)
  | ignore (idle : s.phase ≠ .running) : Step s .halting .stopped s
  | emptied {i : Nat} (free : s.locked = false) (full : s.slot = some i) :
      Step s .emptying (.waking i) { s with slot := none }
  | vacant (free : s.locked = false) (empty : s.slot = none) : Step s .emptying .settling s
  | woke {i : Nat} {run : Run} {nextPort : Nat} {faults : List Fault} (notes : List Notice)
      (at_run : s.runs[i]? = some run) (spent : Network.Spent s.network.faults faults) :
      Step s (.waking i) (.joining i)
        (s.change
          { (s.network.connect ⟨(wakeTarget run.address).ip, s.network.takePort.1⟩
              (wakeTarget run.address) {}).2 with
            nextPort
            faults }
          i { run with wakePeer := some ⟨(wakeTarget run.address).ip, s.network.takePort.1⟩ }
          (notes.map .note))
  | joined {i : Nat} {run : Run} (at_run : s.runs[i]? = some run)
      (exited : run.acceptor = .exited) :
      Step s (.joining i) (.draining i)
        (s.change s.network i { run with pool := run.pool.detach } [])
  | drained {i : Nat} {run : Run} (at_run : s.runs[i]? = some run) (done : run.pool.isDone) :
      Step s (.draining i) .settling
        (s.change s.network i { run with pool := run.pool.join } [])
  | settled :
      Step s .settling .stopped
        ({ s with phase := .stopped }.note (.stopped s.stats.total s.stats.packetsSent))

namespace Server

variable {s next : Server} {task task' : Task}

theorem step_of_hiring {i : Nat} {run : Run} (at_run : s.runs[i]? = some run) :
    Task.Step s (.hiring i) (s.hire i run).1 (s.hire i run).2 := by
  unfold hire
  split
  · rename_i short
    rcases tripped : Network.takeFault .spawnThread s.network.faults with ⟨_ | code, faults⟩
    · simpa [Network.trip, tripped, change, record] using Task.Step.hired at_run short tripped
    · simpa [Network.trip, tripped, change, record] using Task.Step.unstaffed at_run short tripped
  · rename_i enough
    simpa [change, record] using Task.Step.staffed at_run (Nat.not_lt.1 enough)

theorem step_of_launching {i : Nat} {run : Run} (at_run : s.runs[i]? = some run) :
    Task.Step s (.launching i) (s.launch i run).1 (s.launch i run).2 := by
  rcases tripped : Network.takeFault .spawnThread s.network.faults with ⟨_ | code, faults⟩
  · simpa [launch, Network.trip, tripped, change, record] using Task.Step.launched at_run tripped
  · simpa [launch, Network.trip, tripped, change, record] using Task.Step.unlaunched at_run tripped

/-- Waking the accept thread connects to its socket and reports what went wrong. -/
theorem wake_eq (s : Server) (i : Nat) (run : Run) : ∃ nextPort faults notes,
    Network.Spent s.network.faults faults ∧ s.wake i run = s.change
      { (s.network.connect ⟨(wakeTarget run.address).ip, s.network.takePort.1⟩
          (wakeTarget run.address) {}).2 with
        nextPort
        faults }
      i { run with wakePeer := some ⟨(wakeTarget run.address).ip, s.network.takePort.1⟩ }
      (List.map .note notes) := by
  refine ⟨s.network.takePort.2.nextPort, ?_⟩
  -- Choosing a source port changes no socket, so it can be done before or after the call.
  cases reached : s.network.reach? (wakeTarget run.address) with
  | none =>
    have missed : s.network.takePort.2.reach? (wakeTarget run.address) = none := reached
    refine ⟨s.network.faults, ?_⟩
    simp only [wake, Network.connect_of_unreached _ _ reached,
      Network.connect_of_unreached _ _ missed]
    split
    · exact ⟨[.alreadyClosed (wakeTarget run.address)], .refl _, rfl⟩
    · exact ⟨[.wakeFailed (wakeTarget run.address) (.os 111)], .refl _, rfl⟩
  | some endpoint =>
    have hit : s.network.takePort.2.reach? (wakeTarget run.address) = some endpoint := reached
    simp only [wake, Network.connect_of_reached reached, Network.connect_of_reached hit,
      Network.trip]
    have same : s.network.takePort.2.faults = s.network.faults := rfl
    have spent := Network.spent_takeFault .connectLate s.network.faults
    rcases tripped : Network.takeFault .connectLate s.network.faults with ⟨_ | code, faults⟩
    · refine ⟨faults, [], by rwa [tripped] at spent, ?_⟩
      simp only [Network.changeBacklog, change, record, setRun, same, tripped, Option.map_none,
        List.map_nil, List.append_nil, Stats.record_nil]
      rfl
    · refine ⟨faults, ?_⟩
      rw [tripped] at spent
      simp only [Network.changeBacklog, setRun, same, tripped, Option.map_some]
      split
      · exact ⟨[.alreadyClosed (wakeTarget run.address)], spent, rfl⟩
      · exact ⟨[.wakeFailed (wakeTarget run.address) (.os code)], spent, rfl⟩

theorem step_of_waking {i : Nat} {run : Run} (at_run : s.runs[i]? = some run) :
    Task.Step s (.waking i) (.joining i) (s.wake i run) := by
  obtain ⟨nextPort, faults, notes, spent, woke⟩ := s.wake_eq i run
  rw [woke]
  exact .woke notes at_run spent

theorem step_of_binding (advanced : s.advance .binding = some (task', next)) :
    Task.Step s .binding task' next := by
  simp only [advance, bindRun] at advanced
  cases resolved : s.settings.socketAddress s.network.rules.lookup with
  | error error =>
    simp only [resolved] at advanced
    cases advanced
    exact .misnamed resolved
  | ok address =>
    simp only [resolved] at advanced
    rcases made : s.network.bind? address s.settings.dualStack with ⟨error | endpoint, network⟩
    · simp only [made] at advanced
      cases advanced
      exact .unbound resolved made
    · simp only [made] at advanced
      cases advanced
      exact .bound resolved made

theorem step_of_advance (advanced : s.advance task = some (task', next)) :
    Task.Step s task task' next := by
  cases task with
  | entering =>
    by_cases idle : s.phase = .stopped
    · simp only [advance, Phase.transition, idle, if_true] at advanced
      cases advanced
      exact .enter idle
    · simp only [advance, Phase.transition, idle, if_false] at advanced
      cases advanced
      exact .reject idle
  | locking =>
    simp only [advance] at advanced
    split at advanced
    · cases advanced
    · rename_i free
      cases advanced
      exact .lock (by simpa using free)
  | binding => exact step_of_binding advanced
  | hiring i =>
    obtain ⟨run, at_run, made⟩ := Option.bind_eq_some_iff.1 advanced
    have step := step_of_hiring at_run
    rw [show s.hire i run = (task', next) from Option.some.inj made] at step
    exact step
  | opening i =>
    cases advanced
    exact .opened
  | launching i =>
    obtain ⟨run, at_run, made⟩ := Option.bind_eq_some_iff.1 advanced
    have step := step_of_launching at_run
    rw [show s.launch i run = (task', next) from Option.some.inj made] at step
    exact step
  | dismissing i e =>
    obtain ⟨run, at_run, made⟩ := Option.bind_eq_some_iff.1 advanced
    split at made
    · rename_i done
      cases made
      simpa [change, record] using Task.Step.dismissed at_run done
    · cases made
  | filling i =>
    obtain ⟨run, at_run, made⟩ := Option.bind_eq_some_iff.1 advanced
    cases made
    exact .filled at_run
  | failing e =>
    cases advanced
    exact .failed
  | releasing result =>
    cases advanced
    exact .release
  | started result => cases advanced
  | halting =>
    by_cases running : s.phase = .running
    · simp only [advance, Phase.transition, running, if_true] at advanced
      cases advanced
      exact .halt running
    · simp only [advance, Phase.transition, running, if_false] at advanced
      cases advanced
      exact .ignore running
  | emptying =>
    simp only [advance] at advanced
    split at advanced
    · cases advanced
    · rename_i free
      have free : s.locked = false := by simpa using free
      split at advanced
      · rename_i i full
        cases advanced
        exact .emptied free full
      · rename_i empty
        cases advanced
        exact .vacant free empty
  | waking i =>
    obtain ⟨run, at_run, made⟩ := Option.bind_eq_some_iff.1 advanced
    cases made
    exact step_of_waking at_run
  | joining i =>
    obtain ⟨run, at_run, made⟩ := Option.bind_eq_some_iff.1 advanced
    split at made
    · rename_i exited
      cases made
      simpa [change, record] using Task.Step.joined at_run exited
    · cases made
  | draining i =>
    obtain ⟨run, at_run, made⟩ := Option.bind_eq_some_iff.1 advanced
    split at made
    · rename_i done
      cases made
      simpa [change, record] using Task.Step.drained at_run done
    · cases made
  | settling =>
    cases advanced
    exact .settled
  | stopped => cases advanced

theorem stopped_of_settling (step : Task.Step s .settling task' next) :
    task' = .stopped ∧ next.phase = .stopped := by
  cases step
  exact ⟨rfl, rfl⟩

theorem clock_of_step (step : Task.Step s task task' next) : next.clock = s.clock := by
  cases step <;> rfl

theorem spent_of_step (step : Task.Step s task task' next) :
    Network.Spent s.network.faults next.network.faults := by
  have spent := Network.spent_takeFault .spawnThread s.network.faults
  cases step with
  | @unbound address _ _ _ made | @bound address _ _ _ made =>
    have spent := s.network.spent_bind? address s.settings.dualStack
    rwa [made] at spent
  | hired _ _ tripped | unstaffed _ _ tripped | launched _ tripped | unlaunched _ tripped =>
    rwa [tripped] at spent
  | woke _ _ spent => exact spent
  | _ => exact .refl _

theorem rules_of_step (step : Task.Step s task task' next) :
    next.network.rules = s.network.rules := by
  cases step with
  | @unbound address _ _ _ made | @bound address _ _ _ made =>
    have rules := s.network.rules_bind? address s.settings.dualStack
    rwa [made] at rules
  | woke => exact (s.network.faults_connect _ _ _).2
  | _ => rfl

theorem nextNumber_of_step (fresh : ∀ e ∈ s.network.sockets, e.number < s.network.nextNumber)
    (step : Task.Step s task task' next) : s.network.nextNumber ≤ next.network.nextNumber := by
  cases step with
  | unbound _ failed => exact (Network.of_bind?_error fresh failed).2
  | bound _ made =>
    obtain ⟨_, _, _, _, _, later⟩ := Network.of_bind?_ok made
    exact later ▸ Nat.le_succ _
  | woke => exact (s.network.sockets_connect _ _ _).2
  | _ => exact Nat.le_refl _

end Server

end TimeServer
