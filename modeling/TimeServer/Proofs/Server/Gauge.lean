import TimeServer.Proofs.Counters
import TimeServer.Proofs.Server.Runs

/-! # The counters of a server

* `Server.connections` — the connections taken on in all runs;
* `Server.Counted` — the total shows them, and the gauge those of them that are not over;
* `counted_of_reaches` — in every state;
* `modest_of_reaches` — the gauge never shows more than that, however many there are.
-/

namespace TimeServer

namespace Server

/-- How many connections were taken on, in all runs. -/
def connections (s : Server) : Nat := (s.runs.map (·.pool.numbers.length)).sum

/-- The total and the gauge show the connections, the gauge as long as there were never more at one
    time than a word can count. -/
structure Counted (crowd : Nat) (s : Server) : Prop where
  total : s.stats.total = UInt64.ofNat s.connections
  crowded : s.unfinished ≤ crowd
  active : crowd < 2 ^ 64 → s.stats.active.toNat = s.unfinished

variable {s server : Server} {crowd i : Nat} {run run' : Run} {network : Network}
  {journal : Journal}

theorem connections_split (at_run : s.runs[i]? = some run) :
    ∃ others, s.connections = others + run.pool.numbers.length ∧ ∀ network run' journal,
      (s.change network i run' journal).connections = others + run'.pool.numbers.length :=
  sum_split at_run (·.pool.numbers.length)

theorem unfinished_split (at_run : s.runs[i]? = some run) :
    ∃ others, s.unfinished = others + run.pool.unfinished.length ∧ ∀ network run' journal,
      (s.change network i run' journal).unfinished = others + run'.pool.unfinished.length := by
  simp only [unfinished, List.length_flatMap]
  exact sum_split at_run (·.pool.unfinished.length)

theorem unfinished_eq_zero (none_left : ∀ run ∈ s.runs, run.pool.unfinished = []) :
    s.unfinished = 0 := by
  rw [unfinished, List.flatMap_eq_nil_iff.2 none_left, List.length_nil]

theorem Counted.mono {crowd' : Nat} (counted : s.Counted crowd) (more : crowd ≤ crowd') :
    s.Counted crowd' :=
  ⟨counted.total, Nat.le_trans counted.crowded more,
    fun few => counted.active (Nat.lt_of_le_of_lt more few)⟩

theorem Counted.change (counted : s.Counted crowd) (at_run : s.runs[i]? = some run)
    (same : run'.pool.numbers.length = run.pool.numbers.length)
    (fewer : run'.pool.unfinished.length ≤ run.pool.unfinished.length)
    (total : (s.stats.record journal).total = s.stats.total)
    (active : ∀ others, s.stats.active.toNat = others + run.pool.unfinished.length →
      (s.stats.record journal).active.toNat = others + run'.pool.unfinished.length) :
    (s.change network i run' journal).Counted crowd := by
  obtain ⟨before, came, came'⟩ := connections_split at_run
  obtain ⟨others, left, left'⟩ := unfinished_split at_run
  refine ⟨?_, ?_, fun few => ?_⟩
  · rw [came', same, ← came, ← counted.total]
    exact total
  · have crowded := counted.crowded
    rw [left'] at *
    omega
  · rw [left']
    exact active others (left ▸ counted.active few)

theorem Counted.keep (counted : s.Counted crowd) (at_run : s.runs[i]? = some run)
    (numbers : run'.pool.numbers.length = run.pool.numbers.length)
    (unfinished : run'.pool.unfinished.length = run.pool.unfinished.length)
    (quiet : Journal.Quiet journal) : (s.change network i run' journal).Counted crowd := by
  obtain ⟨active, total⟩ := s.stats.record_eq_of_quiet quiet
  refine counted.change at_run numbers (Nat.le_of_eq unfinished) total fun others shown => ?_
  rw [active, unfinished, shown]

theorem Counted.offer (counted : s.Counted crowd) (at_run : s.runs[i]? = some run) {ticket : Ticket}
    {before after : List Notice} (pool_eq : run'.pool = run.pool.offer ticket) :
    (s.change network i run' (before.map .note ++ .count .opened :: after.map .note)).Counted
      (max crowd (s.change network i run'
        (before.map .note ++ .count .opened :: after.map .note)).unfinished) := by
  obtain ⟨first, came, came'⟩ := connections_split at_run
  obtain ⟨others, left, left'⟩ := unfinished_split at_run
  have more := (Pool.perm_numbers_offer run.pool ticket).length_eq
  have busier := Pool.length_unfinished_offer run.pool ticket
  obtain ⟨active, total⟩ := s.stats.record_eq_of_quiet (Journal.quiet_notes before)
  obtain ⟨total', active'⟩ := Pool.record_opened (s.stats.record (before.map .note))
    (Journal.quiet_notes after)
  rw [← Stats.record_append] at total' active'
  rw [List.length_append, List.length_singleton, ← pool_eq] at more
  rw [← pool_eq] at busier
  refine ⟨?_, Nat.le_max_right _ _, fun few => ?_⟩
  · rw [came', more, ← Nat.add_assoc, ← came, UInt64.ofNat_add, ← counted.total, ← total]
    exact total'
  · -- The crowd counts the new connection, so the gauge has room for it.
    have room := Nat.lt_of_le_of_lt (Nat.le_max_right _ _) few
    have shown := counted.active (Nat.lt_of_le_of_lt (Nat.le_max_left _ _) few)
    rw [left', busier, ← Nat.add_assoc, ← left] at room ⊢
    rw [active, shown] at active'
    exact active' room

theorem Counted.congr (counted : s.Counted crowd) (runs : server.runs = s.runs)
    (total : server.stats.total = s.stats.total) (active : server.stats.active = s.stats.active) :
    server.Counted crowd := by
  have same : server.unfinished = s.unfinished := by
    rw [unfinished, unfinished, runs]
  refine ⟨?_, same ▸ counted.crowded, fun few => ?_⟩
  · rw [total, counted.total, connections, connections, runs]
  · rw [active, counted.active few, same]

theorem counted_of_accept (counted : s.Counted crowd) (at_run : s.runs[i]? = some run)
    (step : Run.Step s run network run' journal) :
    (s.change network i run' journal).Counted
      (max crowd (s.change network i run' journal).unfinished) := by
  cases step with
  | take before after => exact counted.offer at_run rfl
  | ready | shut | call | broken | blind | drained =>
    refine Counted.mono ?_ (Nat.le_max_left _ _)
    exact counted.keep at_run rfl rfl (Journal.quiet_notes [])
  | dismiss before | retry before =>
    refine Counted.mono ?_ (Nat.le_max_left _ _)
    exact counted.keep at_run rfl rfl (Journal.quiet_notes before)
  | close =>
    refine Counted.mono ?_ (Nat.le_max_left _ _)
    exact counted.keep at_run rfl rfl (Journal.quiet_notes [.acceptLoopExiting])

theorem counted_of_work {clock : Clock} {pool : Pool} {action : Pool.Action}
    (counted : s.Counted crowd) (at_run : s.runs[i]? = some run)
    (step : Pool.Step clock run.pool action journal pool) :
    (s.change network i { run with pool } journal).Counted crowd := by
  obtain ⟨total, active⟩ := step.record_gauge s.stats
  exact counted.change at_run step.perm_numbers.length_eq step.length_unfinished_le total active

theorem counted_of_step {task task' : Task} (counted : s.Counted crowd)
    (step : Task.Step s task task' server) : server.Counted crowd := by
  have quiet := Journal.quiet_notes []
  cases step with
  | enter | reject | lock | misnamed | unbound | opened | filled | failed | release | halt | ignore
  | emptied | vacant | settled => exact counted.congr rfl rfl rfl
  | bound resolved made =>
    have none_came : (Pool.ofCapacity s.settings.maxConnections.toNat).numbers = [] := rfl
    have none_left : (Pool.ofCapacity s.settings.maxConnections.toNat).unfinished = [] := rfl
    refine ⟨?_, ?_, fun few => ?_⟩
    · simpa [connections, none_came] using counted.total
    · simpa [unfinished, none_left] using counted.crowded
    · simpa [unfinished, none_left] using counted.active few
  | @hired i run faults at_run short tripped =>
    have held : run.pool.hire.held = run.pool.held := by
      simp [Pool.held, Pool.hire, Worker.ticket?]
    refine counted.keep at_run ?_ ?_ quiet
    · simp [Pool.numbers, Pool.unfinished, held]
      rfl
    · simp [Pool.unfinished, held]
      rfl
  | unstaffed at_run | staffed at_run | launched at_run | unlaunched at_run | joined at_run =>
    exact counted.keep at_run rfl rfl quiet
  | woke notes at_run => exact counted.keep at_run rfl rfl (Journal.quiet_notes notes)
  | dismissed at_run done | drained at_run done =>
    refine counted.keep at_run ?_ (congrArg List.length (Pool.unfinished_join done)) quiet
    rw [Pool.numbers, Pool.unfinished_join done]
    rfl

end Server

namespace System

theorem counted_step {h next : System} {move : Move} (counted : h.server.Counted h.crowd)
    (moved : h.step? move = some next) : next.server.Counted next.crowd := by
  cases move with
  | advance call =>
    obtain ⟨_, _, _, _, server, _, _, step, rfl⟩ := step?_advance moved
    exact Server.counted_of_step counted step
  | accept i =>
    obtain ⟨run, network, run', journal, at_run, step, rfl⟩ := step?_accept moved
    exact Server.counted_of_accept counted at_run step
  | work i action =>
    obtain ⟨run, pool, journal, at_run, step, rfl⟩ := step?_work moved
    exact Server.counted_of_work counted at_run step
  | start | stop | arrive | nextPort | fault | setClock =>
    cases moved
    exact counted.congr rfl rfl rfl

theorem counted_of_reaches {allowed : System → Move → Prop} {settings : Settings}
    {network : Network} {clock : Clock} {h : System}
    (reached : Reaches allowed (ofServer (.ofSettings settings network clock)) h) :
    h.server.Counted h.crowd :=
  reached.induction (P := fun h => h.server.Counted h.crowd) ⟨rfl, Nat.le_refl 0, fun _ => rfl⟩
    fun _ _ _ counted _ moved => counted_step counted moved

end System

/-! ## The gauge of a large crowd -/

namespace Server

variable {s server : Server} {i : Nat} {run run' : Run} {network : Network} {journal : Journal}

/-- The gauge shows no more connections than are not over. -/
def Modest (s : Server) : Prop := s.stats.active.toNat ≤ s.unfinished

theorem Modest.change (modest : s.Modest) (at_run : s.runs[i]? = some run)
    (shows : (s.stats.record journal).active.toNat + run.pool.unfinished.length ≤
      s.stats.active.toNat + run'.pool.unfinished.length ∨
        (s.stats.record journal).active.toNat = 0) :
    (s.change network i run' journal).Modest := by
  obtain ⟨others, left, left'⟩ := unfinished_split at_run
  show (s.stats.record journal).active.toNat ≤ _
  rw [left']
  rw [Modest, left] at modest
  omega

theorem Modest.congr (modest : s.Modest) (unfinished : server.unfinished = s.unfinished)
    (active : server.stats.active = s.stats.active) : server.Modest := by
  rw [Modest, active, unfinished]
  exact modest

theorem modest_of_accept (modest : s.Modest) (at_run : s.runs[i]? = some run)
    (step : Run.Step s run network run' journal) : (s.change network i run' journal).Modest := by
  have quiet : ∀ notes : List Notice,
      (s.stats.record (notes.map .note)).active = s.stats.active :=
    fun notes => (s.stats.record_eq_of_quiet (Journal.quiet_notes notes)).1
  cases step with
  | @take mode arrival network faults before after =>
    have busier := Pool.length_unfinished_offer run.pool (arrival.visitor s.rules).ticket
    have opened := (s.stats.record (before.map .note)).active_count_opened_le
    rw [quiet before] at opened
    refine modest.change at_run (.inl ?_)
    rw [Stats.record_append, Stats.record_count,
      (Stats.record_eq_of_quiet _ (Journal.quiet_notes after)).1]
    show _ ≤ s.stats.active.toNat + (run.pool.offer _).unfinished.length
    omega
  | ready | shut | call | broken | blind | drained =>
    exact modest.change at_run (.inl (by rw [Stats.record_nil]))
  | dismiss before | retry before => exact modest.change at_run (.inl (by rw [quiet before]))
  | close =>
    exact modest.change at_run (.inl (by rw [← List.map_singleton, quiet]; exact Nat.le_refl _))

theorem modest_of_work {clock : Clock} {pool : Pool} {action : Pool.Action} (modest : s.Modest)
    (at_run : s.runs[i]? = some run) (step : Pool.Step clock run.pool action journal pool) :
    (s.change network i { run with pool } journal).Modest := by
  apply modest.change at_run
  obtain ⟨quiet, same⟩ | ⟨calm, quiet, rfl, fewer⟩ := step.gauge
  · rw [(s.stats.record_eq_of_quiet quiet).1]
    exact .inl (Nat.le_of_eq (congrArg _ same.symm))
  · -- The gauge may be at zero already, and then it stays there.
    have finished := (s.stats.record calm).active_count_finished_le
    rw [Stats.record_append, Stats.record_count, Stats.record_nil]
    rw [(s.stats.record_eq_of_quiet quiet).1] at finished
    show _ + _ ≤ _ + pool.unfinished.length ∨ _
    omega

theorem gauge_of_step {task task' : Task} (step : Task.Step s task task' server) :
    server.unfinished = s.unfinished ∧ server.stats.active = s.stats.active := by
  have same : ∀ {network : Network} {i : Nat} {run run' : Run} (notes : List Notice),
      s.runs[i]? = some run → run'.pool.unfinished.length = run.pool.unfinished.length →
        (s.change network i run' (notes.map .note)).unfinished = s.unfinished ∧
          (s.change network i run' (notes.map .note)).stats.active = s.stats.active := by
    intro network i run run' notes at_run unfinished
    obtain ⟨others, left, left'⟩ := unfinished_split at_run
    exact ⟨by rw [left', left, unfinished],
      (s.stats.record_eq_of_quiet (Journal.quiet_notes notes)).1⟩
  cases step with
  | enter | reject | lock | misnamed | unbound | opened | filled | failed | release | halt | ignore
  | emptied | vacant | settled => exact ⟨rfl, rfl⟩
  | bound =>
    have none_left : (Pool.ofCapacity s.settings.maxConnections.toNat).unfinished = [] := rfl
    exact ⟨by simp [unfinished, none_left], rfl⟩
  | @hired i run faults at_run =>
    have held : run.pool.hire.held = run.pool.held := by
      simp [Pool.held, Pool.hire, Worker.ticket?]
    refine same [] at_run ?_
    simp [Pool.unfinished, held]
    rfl
  | unstaffed at_run | staffed at_run | launched at_run | unlaunched at_run | joined at_run =>
    exact same [] at_run rfl
  | woke notes at_run => exact same notes at_run rfl
  | dismissed at_run done | drained at_run done =>
    exact same [] at_run (congrArg List.length (Pool.unfinished_join done))

end Server

namespace System

theorem modest_step {h next : System} {move : Move} (modest : h.server.Modest)
    (moved : h.step? move = some next) : next.server.Modest := by
  cases move with
  | advance call =>
    obtain ⟨_, _, _, _, server, _, _, step, rfl⟩ := step?_advance moved
    obtain ⟨unfinished, active⟩ := Server.gauge_of_step step
    exact modest.congr unfinished active
  | accept i =>
    obtain ⟨run, network, run', journal, at_run, step, rfl⟩ := step?_accept moved
    exact Server.modest_of_accept modest at_run step
  | work i action =>
    obtain ⟨run, pool, journal, at_run, step, rfl⟩ := step?_work moved
    exact Server.modest_of_work modest at_run step
  | start | stop | arrive | nextPort | fault | setClock =>
    cases moved
    exact modest

/-- However large the crowd was, the gauge shows no more connections than are not over. -/
theorem modest_of_reaches {allowed : System → Move → Prop} {settings : Settings}
    {network : Network} {clock : Clock} {h : System}
    (reached : Reaches allowed (ofServer (.ofSettings settings network clock)) h) :
    h.server.Modest :=
  reached.induction (Nat.le_refl 0) fun _ _ _ modest _ moved => modest_step modest moved

end System

end TimeServer
