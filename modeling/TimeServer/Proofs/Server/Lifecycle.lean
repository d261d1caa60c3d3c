import TimeServer.Proofs.Server.Schedule

/-! # The life cycle under concurrent calls

Calls that start and stop one server, in any number and any order.

* `System.Ordered` — the invariant: for each phase, lock and slot, which call acts on the slot and
  which call waits to do so, and that there is one of either at most;
* `System.Unovertaken` — what it takes: no start that fails sets the phase back under a stop;
* `ordered_of_acting`, `ordered_of_waiting`, `ordered_of_entry` — the steps of the call that acts,
  of the one that waits, and of the others;
* `System.lifecycle_safe` — without a call in progress the server is stopped and its slot empty or
  running and its slot filled; a filled slot is not filled again; and from the step in which a stop
  empties the slot nobody but that stop changes the phase;
* `System.overtaken_breaks_order` — a start that fails late can set the phase back under a stop, and
  then all this is lost.
-/

namespace TimeServer

namespace Task

/-- Whether the call has emptied the slot and is still to store the phase. -/
def hasEmptied : Task → Bool
  | .waking _ | .joining _ | .draining _ | .settling => true
  | _ => false

/-- Whether the call holds the lock of the slot, or has emptied it. -/
def isActing : Task → Bool
  | .binding | .hiring _ | .opening _ | .launching _ | .dismissing .. | .filling _ | .failing _
  | .releasing _ => true
  | task => task.hasEmptied

/-- Whether the call has entered its phase and is to take the lock. -/
def isWaiting : Task → Bool
  | .locking | .emptying => true
  | _ => false

/-- The phases in which a start can stand where it is while it holds the lock and has not reported
    yet.  From the step in which it opens the phase, a stop may come in between. -/
def insidePhases : Task → List Phase
  | .binding | .hiring _ | .opening _ => [.starting]
  | .launching _ | .filling _ => [.running, .stopping]
  | .dismissing .. | .failing _ => [.starting, .running, .stopping]
  | _ => []

end Task

/-- The stop that has entered this phase, before it has emptied the slot. -/
def Phase.halting : Phase → List Task
  | .stopping => [.emptying]
  | _ => []

namespace System

def acting (h : System) : List Task := h.calls.filter Task.isActing

def waiting (h : System) : List Task := h.calls.filter Task.isWaiting

/-- The calls that act and that wait, for each phase, lock and slot. -/
inductive Ordered : Phase → Bool → Option Nat → (acting waiting : List Task) → Prop
  | stopped : Ordered .stopped false none [] []
  | starting : Ordered .starting false none [] [.locking]
  | inside {phase : Phase} {task : Task} (fits : phase ∈ task.insidePhases) :
      Ordered phase true none [task] phase.halting
  -- A start has failed and set the phase back, and another may enter it before the lock is free.
  | failed {error : ServerError} : Ordered .stopped true none [.releasing (.error error)] []
  | followed {error : ServerError} :
      Ordered .starting true none [.releasing (.error error)] [.locking]
  | filled {phase : Phase} {i : Nat} {address : SocketAddress}
      (fits : phase ∈ [.running, .stopping]) :
      Ordered phase true (some i) [.releasing (.ok address)] phase.halting
  | running {phase : Phase} {i : Nat} (fits : phase ∈ [.running, .stopping]) :
      Ordered phase false (some i) [] phase.halting
  | emptied {task : Task} (emptied : task.hasEmptied) : Ordered .stopping false none [task] []

/-- The calls are in order. -/
def InOrder (h : System) : Prop :=
  Ordered h.server.phase h.server.locked h.server.slot h.acting h.waiting

/-- Whether the move is that of a start which has failed and sets the phase back, although a stop
    has changed it in between. -/
def overtakes (h : System) : Move → Bool
  | .advance call =>
    match h.calls[call]? with
    | some (.failing _) => h.server.phase = .stopping
    | _ => false
  | _ => false

/-- No start that has failed sets the phase back under a stop. -/
def Unovertaken (h : System) (move : Move) : Prop := h.overtakes move = false

instance (h : System) (move : Move) : Decidable (h.Unovertaken move) :=
  inferInstanceAs (Decidable (_ = _))

section Ordered

variable {phase : Phase} {locked : Bool} {slot : Option Nat} {acting waiting : List Task}
  {task : Task}

theorem Ordered.length_acting_le (ordered : Ordered phase locked slot acting waiting) :
    acting.length ≤ 1 := by
  cases ordered <;> simp

theorem Ordered.length_waiting_le (ordered : Ordered phase locked slot acting waiting) :
    waiting.length ≤ 1 := by
  cases ordered with
  | inside | filled | running => cases phase <;> simp [Phase.halting]
  | _ => simp

theorem Ordered.of_head (ordered : Ordered phase locked slot acting waiting)
    (first : acting.head? = some task) : acting = [task] := by
  cases ordered <;> simp_all

theorem Ordered.of_nil (ordered : Ordered phase locked slot [] waiting) (idle : waiting = []) :
    (phase = .stopped ∧ slot = none) ∨ (phase = .running ∧ slot.isSome) := by
  cases ordered with
  | stopped => exact .inl ⟨rfl, rfl⟩
  | starting => cases idle
  | running fits => cases phase <;> simp [Phase.halting] at fits idle ⊢

theorem Ordered.free_of_nil (ordered : Ordered phase locked slot [] waiting) : locked = false := by
  cases ordered <;> rfl

/-- Who waits while nobody holds the lock is not held up by a call that acts. -/
theorem Ordered.of_waiting (ordered : Ordered phase false slot acting [task]) :
    acting = [] ∧ (task = .locking ∧ phase = .starting ∧ slot = none ∨
      task = .emptying ∧ phase = .stopping ∧ slot.isSome) := by
  generalize waits : [task] = waiting at ordered
  cases ordered with
  | starting =>
    cases waits
    exact ⟨rfl, .inl ⟨rfl, rfl, rfl⟩⟩
  | running fits =>
    cases phase <;> simp [Phase.halting] at fits waits
    exact ⟨rfl, .inr ⟨waits, rfl, rfl⟩⟩
  | stopped | emptied => cases waits

/-- A call inside the section that has not reported yet has found the slot empty. -/
theorem Ordered.of_inside (ordered : Ordered phase locked slot [task] waiting)
    (inside : task.insidePhases ≠ []) :
    phase ∈ task.insidePhases ∧ locked = true ∧ slot = none ∧ waiting = phase.halting := by
  cases ordered with
  | inside fits => exact ⟨fits, rfl, rfl, rfl⟩
  | failed | followed | filled => simp [Task.insidePhases] at inside
  | emptied emptied => cases task <;> simp [Task.insidePhases, Task.hasEmptied] at inside emptied

theorem Ordered.of_hasEmptied (ordered : Ordered phase locked slot [task] waiting)
    (emptied : task.hasEmptied) :
    phase = .stopping ∧ locked = false ∧ slot = none ∧ waiting = [] := by
  cases ordered with
  | emptied _ => exact ⟨rfl, rfl, rfl, rfl⟩
  | inside fits => cases task <;> simp [Task.insidePhases, Task.hasEmptied] at fits emptied
  | failed | followed | filled => simp [Task.hasEmptied] at emptied

end Ordered

/-! ## What each step preserves -/

theorem running_of_insidePhases {task : Task} (running : Phase.running ∈ task.insidePhases) :
    Phase.stopping ∈ task.insidePhases := by
  cases task <;> simp [Task.insidePhases] at running ⊢

theorem Ordered.enters {phase : Phase} {locked : Bool} {slot : Option Nat}
    {acting waiting : List Task} (ordered : Ordered phase locked slot acting waiting)
    (stopped : phase = .stopped) :
    waiting = [] ∧ Ordered .starting locked slot acting [.locking] := by
  cases ordered with
  | stopped => exact ⟨rfl, .starting⟩
  | failed => exact ⟨rfl, .followed⟩
  | starting | followed | emptied => cases stopped
  | @inside _ task fits =>
    subst stopped
    cases task <;> simp [Task.insidePhases] at fits
  | filled fits | running fits => simp [stopped] at fits

theorem Ordered.halts {phase : Phase} {locked : Bool} {slot : Option Nat}
    {acting waiting : List Task} (ordered : Ordered phase locked slot acting waiting)
    (running : phase = .running) :
    waiting = [] ∧ Ordered .stopping locked slot acting [.emptying] := by
  cases ordered with
  | inside fits =>
    subst running
    exact ⟨rfl, .inside (running_of_insidePhases fits)⟩
  | filled _ =>
    subst running
    exact ⟨rfl, .filled (by simp)⟩
  | running _ =>
    subst running
    exact ⟨rfl, .running (by simp)⟩
  | stopped | starting | failed | followed | emptied => cases running

theorem ordered_inside {phase phase' : Phase} {locked : Bool} {slot : Option Nat}
    {task task' : Task} {waiting : List Task} (ordered : Ordered phase locked slot [task] waiting)
    (inside : task.insidePhases ≠ []) (active : task'.isActing)
    (fits : phase ∈ task.insidePhases → phase' ∈ task'.insidePhases ∧
      phase'.halting = phase.halting) :
    Ordered phase' locked slot ([task'].filter Task.isActing) waiting := by
  obtain ⟨old, rfl, rfl, rfl⟩ := ordered.of_inside inside
  obtain ⟨new, same⟩ := fits old
  rw [List.filter_singleton, active, ← same]
  exact .inside new

theorem ordered_emptied {phase : Phase} {locked : Bool} {slot : Option Nat} {task task' : Task}
    {waiting : List Task} (ordered : Ordered phase locked slot [task] waiting)
    (emptied : task.hasEmptied) (goes_on : task'.hasEmptied) :
    Ordered phase locked slot ([task'].filter Task.isActing) waiting := by
  obtain ⟨rfl, rfl, rfl, rfl⟩ := ordered.of_hasEmptied emptied
  have active : task'.isActing := by
    cases task' <;> simp [Task.hasEmptied, Task.isActing] at goes_on ⊢
  rw [List.filter_singleton, active]
  exact .emptied goes_on

theorem ordered_of_acting {s server : Server} {task task' : Task} {waiting : List Task}
    (active : task.isActing) (ordered : Ordered s.phase s.locked s.slot [task] waiting)
    (step : Task.Step s task task' server)
    (unovertaken : ∀ error, task = .failing error → s.phase ≠ .stopping) :
    Ordered server.phase server.locked server.slot ([task'].filter Task.isActing) waiting := by
  -- The invariant is about single fields, which have to be variables for `cases`.
  obtain ⟨settings, rules, phase, locked, slot, runs, stats, journal, network, clock⟩ := s
  cases step with
  | enter | reject | halt | ignore | lock | emptied | vacant =>
    simp [Task.isActing, Task.hasEmptied] at active
  | misnamed | unbound | bound | hired | unstaffed | staffed | opened | launched | unlaunched
  | dismissed =>
    apply ordered_inside ordered (by simp [Task.insidePhases]) rfl
    simp +contextual [Task.insidePhases, Phase.halting, Server.change, Server.record,
      Server.setRun]
  | filled =>
    obtain ⟨fits, rfl, rfl, rfl⟩ := ordered.of_inside (by simp [Task.insidePhases])
    exact .filled fits
  | failed =>
    obtain ⟨fits, rfl, rfl, rfl⟩ := ordered.of_inside (by simp [Task.insidePhases])
    have halting : phase.halting = [] := by
      have apart := unovertaken _ rfl
      cases phase <;> simp [Phase.halting] at apart ⊢
    rw [halting]
    exact .failed
  | release =>
    cases ordered with
    | inside fits => simp [Task.insidePhases] at fits
    | failed => exact .stopped
    | followed => exact .starting
    | filled fits => exact .running fits
    | emptied emptied => simp [Task.hasEmptied] at emptied
  | woke | joined | drained => exact ordered_emptied ordered rfl rfl
  | settled =>
    obtain ⟨rfl, rfl, rfl, rfl⟩ := ordered.of_hasEmptied rfl
    exact .stopped

theorem ordered_of_waiting {s server : Server} {task task' : Task} {acting : List Task}
    (waits : task.isWaiting) (ordered : Ordered s.phase s.locked s.slot acting [task])
    (step : Task.Step s task task' server) :
    acting = [] ∧ Ordered server.phase server.locked server.slot ([task'].filter Task.isActing)
      ([task'].filter Task.isWaiting) := by
  obtain ⟨settings, rules, phase, locked, slot, runs, stats, journal, network, clock⟩ := s
  cases step with
  | lock free =>
    simp only at free
    subst free
    obtain ⟨rfl, ⟨_, rfl, rfl⟩ | ⟨other, _⟩⟩ := ordered.of_waiting
    · exact ⟨rfl, .inside (by simp [Task.insidePhases])⟩
    · cases other
  | emptied free full =>
    simp only at free full
    subst free full
    obtain ⟨rfl, ⟨other, _⟩ | ⟨_, rfl, _⟩⟩ := ordered.of_waiting
    · cases other
    · exact ⟨rfl, .emptied rfl⟩
  | vacant free empty =>
    simp only at free empty
    subst free empty
    obtain ⟨rfl, ⟨other, _⟩ | ⟨_, _, full⟩⟩ := ordered.of_waiting
    · cases other
    · cases full
  | _ => simp [Task.isWaiting] at waits

/-- A step of a call that neither acts nor waits: it enters a phase that no other call is in, or it
    is turned away. -/
theorem ordered_of_entry {s server : Server} {task task' : Task} {acting : List Task}
    (before after : List Task) (idle : task.isActing = false ∧ task.isWaiting = false)
    (ordered : Ordered s.phase s.locked s.slot acting (before ++ after))
    (step : Task.Step s task task' server) :
    [task'].filter Task.isActing = [] ∧ Ordered server.phase server.locked server.slot acting
      (before ++ [task'].filter Task.isWaiting ++ after) := by
  cases step with
  | enter stopped =>
    obtain ⟨alone, entered⟩ := ordered.enters stopped
    obtain ⟨rfl, rfl⟩ := List.append_eq_nil_iff.1 alone
    exact ⟨rfl, entered⟩
  | halt running =>
    obtain ⟨alone, halted⟩ := ordered.halts running
    obtain ⟨rfl, rfl⟩ := List.append_eq_nil_iff.1 alone
    exact ⟨rfl, halted⟩
  | reject | ignore => exact ⟨rfl, by simpa [Task.isWaiting] using ordered⟩
  | _ => simp [Task.isActing, Task.isWaiting, Task.hasEmptied] at idle

/-! ## Runs -/

theorem unwaiting_of_acting {s server : Server} {task task' : Task} (active : task.isActing)
    (step : Task.Step s task task' server) : [task'].filter Task.isWaiting = [] := by
  cases step with
  | enter | reject | halt | ignore | lock | emptied | vacant =>
    simp [Task.isActing, Task.hasEmptied] at active
  | _ => rfl

/-- A step of a call is that of the only call that acts, or of the only one that waits, or that of a
    call which does neither. -/
theorem InOrder.advance_cases {h next : System} {call : Nat} (ordered : h.InOrder)
    (moved : h.step? (.advance call) = some next) :
    ∃ task task', h.calls[call]? = some task ∧ Task.Step h.server task task' next.server ∧
      (next.guests = h.guests ∧ next.late = h.late ∧ next.lost = h.lost ∧
        next.forsaken = h.forsaken) ∧
      ((task.isActing ∧ h.acting = [task] ∧ next.acting = [task'].filter Task.isActing ∧
          next.waiting = h.waiting) ∨
        (task.isWaiting ∧ h.acting = [] ∧ h.waiting = [task] ∧
          next.acting = [task'].filter Task.isActing ∧
            next.waiting = [task'].filter Task.isWaiting) ∨
        ((task.isActing = false ∧ task.isWaiting = false) ∧ next.acting = h.acting ∧
          ∃ before after, h.waiting = before ++ after ∧
            next.waiting = before ++ [task'].filter Task.isWaiting ++ after)) := by
  obtain ⟨before, task, after, task', server, split, rfl, step, rfl⟩ := step?_advance moved
  have around : ∀ (p : Task → Bool) other, (before ++ other :: after).filter p =
      before.filter p ++ [other].filter p ++ after.filter p := by
    intro p other
    rw [← List.singleton_append, ← List.append_assoc, List.filter_append, List.filter_append]
  -- A call that is counted is the only one, so the others are not.
  have alone : ∀ p : Task → Bool, p task → (h.calls.filter p).length ≤ 1 →
      before.filter p = [] ∧ after.filter p = [] ∧ h.calls.filter p = [task] := by
    intro p counted few
    rw [split, around, List.filter_singleton, counted] at few ⊢
    simp only [cond_true, List.length_append, List.length_singleton] at few
    have none_before : before.filter p = [] := List.length_eq_zero_iff.1 (by omega)
    have none_after : after.filter p = [] := List.length_eq_zero_iff.1 (by omega)
    exact ⟨none_before, none_after, by rw [none_before, none_after]; rfl⟩
  refine ⟨task, task', by simp [split], step, ⟨rfl, rfl, rfl, rfl⟩, ?_⟩
  cases active : task.isActing with
  | true =>
    obtain ⟨none_before, none_after, acts⟩ :=
      alone Task.isActing active ordered.length_acting_le
    have waits : task.isWaiting = false := by
      cases task <;> simp [Task.isActing, Task.isWaiting, Task.hasEmptied] at active ⊢
    refine .inl ⟨rfl, acts, ?_, ?_⟩
    · simp only [acting, around, none_before, none_after, List.nil_append, List.append_nil]
    · simp only [waiting, split, around, unwaiting_of_acting active step, List.filter_singleton,
        waits, cond_false]
  | false =>
    have acts_eq : h.acting = before.filter Task.isActing ++ after.filter Task.isActing := by
      rw [acting, split, around, List.filter_singleton, active, cond_false, List.append_nil]
    cases waits : task.isWaiting with
    | true =>
      obtain ⟨none_before, none_after, awaits⟩ :=
        alone Task.isWaiting waits ordered.length_waiting_le
      rw [InOrder, waiting, awaits] at ordered
      have nobody := (ordered_of_waiting waits ordered step).1
      obtain ⟨idle_before, idle_after⟩ := List.append_eq_nil_iff.1 (acts_eq.symm.trans nobody)
      refine .inr (.inl ⟨rfl, nobody, awaits, ?_, ?_⟩)
      · simp only [acting, around, idle_before, idle_after, List.nil_append, List.append_nil]
      · simp only [waiting, around, none_before, none_after, List.nil_append, List.append_nil]
    | false =>
      have awaits_eq : h.waiting = before.filter Task.isWaiting ++ after.filter Task.isWaiting := by
        rw [waiting, split, around, List.filter_singleton, waits, cond_false, List.append_nil]
      rw [InOrder, awaits_eq] at ordered
      obtain ⟨idle, _⟩ := ordered_of_entry _ _ ⟨active, waits⟩ ordered step
      refine .inr (.inr ⟨⟨rfl, rfl⟩, ?_, _, _, awaits_eq, around _ _⟩)
      rw [acts_eq, acting]
      simp only [around, idle, List.append_nil]

theorem inOrder_advance {h next : System} {call : Nat} (ordered : h.InOrder)
    (unovertaken : h.Unovertaken (.advance call)) (moved : h.step? (.advance call) = some next) :
    next.InOrder := by
  obtain ⟨task, task', found, step, _, ⟨active, acts, after, same⟩ |
    ⟨waits, acts, awaits, after, after'⟩ | ⟨idle, same, _, _, awaits, after⟩⟩ :=
    ordered.advance_cases moved
  · rw [InOrder, acts] at ordered
    rw [InOrder, after, same]
    refine ordered_of_acting active ordered step fun error failing stopping => ?_
    simp [Unovertaken, overtakes, found, failing, stopping] at unovertaken
  · rw [InOrder, awaits] at ordered
    rw [InOrder, after, after']
    exact (ordered_of_waiting waits ordered step).2
  · rw [InOrder, awaits] at ordered
    rw [InOrder, same, after]
    exact (ordered_of_entry _ _ idle ordered step).2

theorem standing_of_other {h next : System} {move : Move} (other : ∀ call, move ≠ .advance call)
    (moved : h.step? move = some next) :
    next.server.phase = h.server.phase ∧ next.server.locked = h.server.locked ∧
      next.server.slot = h.server.slot := by
  cases move with
  | advance call => exact absurd rfl (other call)
  | accept i =>
    obtain ⟨run, network, run', journal, _, _, rfl⟩ := step?_accept moved
    exact ⟨rfl, rfl, rfl⟩
  | work i action =>
    obtain ⟨run, pool, journal, _, _, rfl⟩ := step?_work moved
    exact ⟨rfl, rfl, rfl⟩
  | start | stop | arrive | nextPort | fault | setClock =>
    cases moved
    exact ⟨rfl, rfl, rfl⟩

theorem calls_of_other {h next : System} {move : Move} (other : ∀ call, move ≠ .advance call)
    (moved : h.step? move = some next) : next.acting = h.acting ∧ next.waiting = h.waiting := by
  cases move with
  | advance call => exact absurd rfl (other call)
  | accept i =>
    obtain ⟨run, network, run', journal, _, _, rfl⟩ := step?_accept moved
    exact ⟨rfl, rfl⟩
  | work i action =>
    obtain ⟨run, pool, journal, _, _, rfl⟩ := step?_work moved
    exact ⟨rfl, rfl⟩
  | start | stop =>
    cases moved
    simp [acting, waiting, Task.isActing, Task.isWaiting, Task.hasEmptied]
  | arrive | nextPort | fault | setClock =>
    cases moved
    exact ⟨rfl, rfl⟩

theorem inOrder_step {h next : System} {move : Move} (ordered : h.InOrder)
    (unovertaken : h.Unovertaken move) (moved : h.step? move = some next) : next.InOrder := by
  by_cases advances : ∃ call, move = .advance call
  · obtain ⟨call, rfl⟩ := advances
    exact inOrder_advance ordered unovertaken moved
  · have other : ∀ call, move ≠ .advance call := fun call same => advances ⟨call, same⟩
    obtain ⟨phase, locked, slot⟩ := standing_of_other other moved
    obtain ⟨acting, waiting⟩ := calls_of_other other moved
    rw [InOrder, phase, locked, slot, acting, waiting]
    exact ordered

theorem inOrder_of_reaches {settings : Settings} {network : Network} {clock : Clock} {h : System}
    (reached : Reaches Unovertaken (ofServer (.ofSettings settings network clock)) h) :
    h.InOrder :=
  reached.induction .stopped fun _ _ _ ordered ok moved => inOrder_step ordered ok moved

/-! ## Safety -/

theorem InOrder.acting_eq {h : System} (ordered : h.InOrder) {task : Task}
    (member : task ∈ h.calls) (active : task.isActing) : h.acting = [task] := by
  have here : task ∈ h.acting := List.mem_filter.2 ⟨member, active⟩
  obtain ⟨only, same⟩ := List.length_eq_one_iff.1
    (Nat.le_antisymm ordered.length_acting_le (List.length_pos_of_mem here))
  rw [same, List.mem_singleton] at here
  rw [same, here]

theorem InOrder.of_filling {h : System} (ordered : h.InOrder) {i : Nat}
    (filling : .filling i ∈ h.calls) : h.server.slot = none := by
  have alone := ordered.acting_eq filling rfl
  rw [InOrder, alone] at ordered
  exact (ordered.of_inside (by simp [Task.insidePhases])).2.2.1

theorem Task.isActing_of_hasEmptied {task : Task} (emptied : task.hasEmptied) : task.isActing := by
  cases task <;> simp [Task.hasEmptied, Task.isActing] at emptied ⊢

theorem InOrder.of_hasEmptied {h : System} (ordered : h.InOrder) {task : Task}
    (member : task ∈ h.calls) (emptied : task.hasEmptied) :
    h.acting = [task] ∧ h.waiting = [] ∧ h.server.phase = .stopping := by
  have alone := ordered.acting_eq member (Task.isActing_of_hasEmptied emptied)
  rw [InOrder, alone] at ordered
  obtain ⟨phase, _, _, waiting⟩ := ordered.of_hasEmptied emptied
  exact ⟨alone, waiting, phase⟩

theorem mem_of_other_place {before after : List Task} {task other : Task} {place : Nat}
    (found : (before ++ task :: after)[place]? = some other) (elsewhere : place ≠ before.length) :
    other ∈ before ++ after := by
  cases Nat.lt_or_gt_of_ne elsewhere with
  | inl earlier =>
    rw [List.getElem?_append_left earlier] at found
    exact List.mem_append_left _ (List.mem_of_getElem? found)
  | inr later =>
    obtain ⟨rest, rfl⟩ := Nat.exists_eq_add_of_lt later
    rw [List.getElem?_append_right (by omega), Nat.add_assoc, Nat.add_sub_cancel_left,
      List.getElem?_cons_succ] at found
    exact List.mem_append_right _ (List.mem_of_getElem? found)

theorem InOrder.idle_of_other {h : System} (ordered : h.InOrder) {before after : List Task}
    {task other : Task} {place : Nat} (split : h.calls = before ++ task :: after)
    (found : h.calls[place]? = some other) (elsewhere : place ≠ before.length)
    (active : other.isActing) : task.isActing = false := by
  rw [split] at found
  have here : other ∈ (before ++ after).filter Task.isActing :=
    List.mem_filter.2 ⟨mem_of_other_place found elsewhere, active⟩
  have few := ordered.length_acting_le
  cases acts : task.isActing with
  | false => rfl
  | true =>
    have two := List.length_pos_of_mem here
    rw [acting, split, List.filter_append, List.filter_cons_of_pos acts] at few
    rw [List.filter_append] at two
    simp only [List.length_append, List.length_cons] at few two
    omega

/-- A step of a call that does not act and does not wait leaves the phase of a server that is being
    stopped. -/
theorem phase_of_idle_step {s server : Server} {task task' : Task}
    (step : Task.Step s task task' server) (idle : task.isActing = false)
    (unawaited : task.isWaiting = false) (stopping : s.phase = .stopping) :
    server.phase = .stopping := by
  cases step with
  | enter stopped => simp [stopping] at stopped
  | halt running => simp [stopping] at running
  | reject | ignore => exact stopping
  | lock | emptied | vacant => simp [Task.isWaiting] at unawaited
  | _ => simp [Task.isActing, Task.hasEmptied] at idle

theorem InOrder.slot_kept {h next : System} (ordered : h.InOrder) {move : Move}
    (moved : h.step? move = some next) {i : Nat} (full : h.server.slot = some i) :
    next.server.slot = some i ∨ next.server.slot = none := by
  by_cases advances : ∃ call, move = .advance call
  · obtain ⟨call, rfl⟩ := advances
    obtain ⟨before, task, after, task', server, split, _, step, rfl⟩ := step?_advance moved
    cases step with
    | @filled j _ _ =>
      -- A start that is about to fill the slot has found it empty.
      rw [ordered.of_filling (i := j) (by simp [split])] at full
      cases full
    | emptied => exact .inr rfl
    | _ => exact .inl full
  · have other : ∀ call, move ≠ .advance call := fun call same => advances ⟨call, same⟩
    rw [(standing_of_other other moved).2.2]
    exact .inl full

/-- Whatever the order of the steps, unless a start that failed sets the phase back under a stop:
    when no call is in progress, the server is stopped and its slot empty or it is running and its
    slot filled; a start never fills a slot that is filled; and between the step in which a stop
    empties the slot and the one in which it stores the phase, the phase is `stopping` and no move
    but its own changes that. -/
theorem lifecycle_safe {settings : Settings} {network : Network} {clock : Clock} {h : System}
    (reached : Reaches Unovertaken (ofServer (.ofSettings settings network clock)) h) :
    ((∀ task ∈ h.calls, task.isOver) →
      (h.server.phase = .stopped ∧ h.server.slot = none) ∨
        (h.server.phase = .running ∧ h.server.slot.isSome)) ∧
    (∀ i, .filling i ∈ h.calls → h.server.slot = none) ∧
    (∀ move next i, h.step? move = some next → h.server.slot = some i →
      next.server.slot = some i ∨ next.server.slot = none) ∧
    (∀ call task, h.calls[call]? = some task → task.hasEmptied →
      h.server.phase = .stopping ∧ ∀ move next, move ≠ .advance call →
        h.step? move = some next → next.server.phase = .stopping) := by
  have ordered := inOrder_of_reaches reached
  refine ⟨fun done => ?_, fun i => ordered.of_filling,
    fun move next i moved => ordered.slot_kept moved, fun call task found emptied => ?_⟩
  · have idle : ∀ p : Task → Bool, (∀ task, task.isOver → p task = false) →
        h.calls.filter p = [] := by
      intro p none_over
      rw [List.filter_eq_nil_iff]
      intro task member counted
      rw [none_over task (done task member)] at counted
      cases counted
    rw [InOrder, acting, idle] at ordered
    · refine ordered.of_nil (idle _ fun task ended => ?_)
      cases task <;> simp [Task.isOver, Task.isWaiting] at ended ⊢
    · intro task ended
      cases task <;> simp [Task.isOver, Task.isActing, Task.hasEmptied] at ended ⊢
  · -- The stop is the call that acts, nobody waits, and only its steps lead out of the phase.
    obtain ⟨_, unawaited, stopping⟩ := ordered.of_hasEmptied (List.mem_of_getElem? found) emptied
    refine ⟨stopping, fun move next other moved => ?_⟩
    by_cases advances : ∃ call', move = .advance call'
    · obtain ⟨call', rfl⟩ := advances
      obtain ⟨before, stepping, after, task', server, split, rfl, step, rfl⟩ :=
        step?_advance moved
      have elsewhere : call ≠ before.length := fun same => other (same ▸ rfl)
      refine phase_of_idle_step step (ordered.idle_of_other split found elsewhere
        (Task.isActing_of_hasEmptied emptied)) ?_ stopping
      have none_waits := List.filter_eq_nil_iff.1 unawaited stepping (by simp [split])
      simpa using none_waits
    · rw [(standing_of_other (fun call' same => advances ⟨call', same⟩) moved).1]
      exact stopping

/-- Several moves of one sort, one after another. -/
def run (move? : System → Move → Option System) (h : System) (moves : List Move) : Option System :=
  moves.foldlM move? h

theorem Reaches.run {allowed : System → Move → Prop} {move? : System → Move → Option System}
    {first h next : System} {moves : List Move} (reached : Reaches allowed first h)
    (ran : h.run move? moves = some next)
    (steps : ∀ h move next, move? h move = some next → allowed h move ∧ h.step? move = some next) :
    Reaches allowed first next := by
  induction moves generalizing h with
  | nil =>
    cases ran
    exact reached
  | cons move moves ih =>
    simp only [System.run, List.foldlM_cons, Option.bind_eq_bind, Option.bind_eq_some_iff] at ran
    obtain ⟨middle, moved, ran⟩ := ran
    obtain ⟨ok, moved⟩ := steps h move middle moved
    exact ih (reached.step move ok moved) ran

/-- A move that does not set the phase back under a stop. -/
def keepStep? (h : System) (move : Move) : Option System :=
  if h.Unovertaken move then h.step? move else none

theorem of_keepStep? {h next : System} {move : Move} (moved : h.keepStep? move = some next) :
    h.Unovertaken move ∧ h.step? move = some next := by
  simp only [keepStep?] at moved
  split at moved
  · exact ⟨‹_›, moved⟩
  · cases moved

/-- Two starts and a stop: one start makes the server run, the other is turned away, and the stop
    has just emptied the slot. -/
def halfway : List Move :=
  [.start, .start, .stop] ++ List.replicate 9 (.advance 0) ++ [.advance 1, .advance 2, .advance 2]

theorem lifecycle_safe_halfway : ∃ h,
    (ofServer (.ofSettings { listenAddress := "127.0.0.1", workerThreads := 1 } {}
      ⟨0, 0⟩)).run keepStep? halfway = some h ∧
      ∃ task, h.calls[2]? = some task ∧ task.hasEmptied ∧ h.server.phase = .stopping := by
  have ends : ((ofServer (.ofSettings { listenAddress := "127.0.0.1", workerThreads := 1 } {}
      ⟨0, 0⟩)).run keepStep? halfway).map (fun h => (h.calls[2]?).any Task.hasEmptied) =
        some true := by
    decide +kernel
  obtain ⟨h, ran, seen⟩ := Option.map_eq_some_iff.1 ends
  obtain ⟨task, found, emptied⟩ := (Option.any_eq_true _ _).1 seen
  obtain ⟨_, _, _, kept⟩ := lifecycle_safe (Reaches.refl.run ran fun _ _ _ => of_keepStep?)
  exact ⟨h, ran, task, found, emptied, (kept 2 task found emptied).1⟩

/-- A server with one worker whose second thread cannot be created. -/
def shortOfThreads : System :=
  ofServer (.ofSettings { listenAddress := "127.0.0.1", workerThreads := 1 }
    { faults := [⟨.spawnThread, 11, 1⟩] } ⟨0, 0⟩)

/-- Two starts and a stop.  The first start has opened the phase when the stop enters its own, fails
    to create the accept thread and takes the phase back; the second start enters it before the stop
    looks into the slot, and is done before the stop stores the phase. -/
def overtaken : List Move :=
  [.start, .stop, .start] ++ List.replicate 6 (.advance 0) ++ [.advance 1, .advance 0] ++
    [.work 0 (.work 0)] ++ List.replicate 3 (.advance 0) ++ [.advance 2, .advance 1] ++
      List.replicate 8 (.advance 2) ++ [.advance 1]

/-- Where a start that failed sets the phase back under a stop, all calls can be over and the server
    stopped with its slot filled: it serves on and nothing stops it. -/
theorem overtaken_breaks_order : ∃ h, Reaches anyMove shortOfThreads h ∧
    (∀ task ∈ h.calls, task.isOver) ∧ h.server.phase = .stopped ∧ h.server.slot = some 1 := by
  have ends : (shortOfThreads.run step? overtaken).map
      (fun h => (h.calls.all Task.isOver, h.server.phase, h.server.slot)) =
        some (true, .stopped, some 1) := by
    decide +kernel
  obtain ⟨h, ran, seen⟩ := Option.map_eq_some_iff.1 ends
  simp only [Prod.mk.injEq] at seen
  exact ⟨h, Reaches.refl.run ran fun _ _ _ moved => ⟨trivial, moved⟩,
    List.all_eq_true.1 seen.1, seen.2⟩

end System

end TimeServer
