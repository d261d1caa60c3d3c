import TimeServer.Proofs.Pool.Step

/-! # What the pool does to each connection

A submitter comes with a `Visitor`.  Wherever the connection of a visitor is in the pool, it has
been through exactly the part of a whole visit that its place tells:

* `Visitor.Released`, `Visitor.Refused` — a connection after the whole visit, and one handed back;
* `Pool.Faithful` — every connection is that of a visitor, as far as its place tells;
* `Faithful.offer`, `Step.faithful` — new visitors and the moves in the pool keep it so.
-/

namespace TimeServer

namespace Visitor

@[simp] theorem number_ticket (v : Visitor) : v.ticket.number = v.number := rfl

/-- The connection of the visitor after it was served, at one of these times, and closed. -/
def Released (times : Clock → Prop) (v : Visitor) (connection : Connection) : Prop :=
  ∃ clock, times clock ∧ connection = (Connection.visit v.client v.rules v.stream clock).connection

/-- The connection of the visitor after it was closed without being served. -/
def Refused (v : Visitor) (connection : Connection) : Prop :=
  connection = v.ticket.connection.close.connection

variable {times : Clock → Prop} {v : Visitor} {connection : Connection}

theorem Released.shutdowns (released : v.Released times connection) :
    connection.stream.shutdowns = v.stream.shutdowns + 1 := by
  obtain ⟨clock, _, rfl⟩ := released
  exact Connection.shutdowns_visit

/-- A connection that is handed back makes no call on its stream but the one that shuts it down. -/
theorem Refused.stream (refused : v.Refused connection) :
    connection.stream.calls = v.stream.calls ++ [.shutdown] ∧
      connection.stream.accepted = v.stream.accepted := by
  rw [Refused] at refused
  rw [refused]
  exact ⟨Connection.calls_close rfl, Connection.accepted_close _⟩

end Visitor

namespace Pool

/-- The worker has brought the visit of its connection as far as it says. -/
def WorkerFaithful (times : Clock → Prop) (v : Visitor) : Worker → Prop
  | .idle | .exited => True
  | .took ticket => ticket = v.ticket
  | .served ticket _ => ∃ clock, times clock ∧
      ticket = { v.ticket with connection := (v.ticket.connection.serve clock).connection }
  | .closed ticket => ticket.number = v.number ∧ v.Released times ticket.connection

/-- Every connection in the pool is that of a visitor.  Those that were admitted are served and
    closed, and those that were refused only closed, by the time they are over. -/
structure Faithful (times : Clock → Prop) (visitors : List Visitor) (admitted refused : Nat → Prop)
    (pool : Pool) : Prop where
  waiting : ∀ ticket ∈ pool.waiting, ∃ v ∈ visitors, ticket = v.ticket
  queue : ∀ ticket ∈ pool.queue, ∃ v ∈ visitors, admitted v.number ∧ ticket = v.ticket
  workers : ∀ worker ∈ pool.workers, worker.ticket? ≠ none →
    ∃ v ∈ visitors, admitted v.number ∧ WorkerFaithful times v worker
  finished : ∀ ticket ∈ pool.finished, ∃ v ∈ visitors, ticket.number = v.number ∧
    (admitted v.number ∧ v.Released times ticket.connection ∨
      refused v.number ∧ v.Refused ticket.connection)

/-! ## New visitors -/

@[simp] theorem isOpen_offer (pool : Pool) (ticket : Ticket) :
    (pool.offer ticket).isOpen = pool.isOpen := rfl

theorem perm_numbers_offer (pool : Pool) (ticket : Ticket) :
    (pool.offer ticket).numbers.Perm (pool.numbers ++ [ticket.number]) := by
  rw [List.perm_iff_count]
  intro number
  simp only [numbers, unfinished, held, offer, List.map_append, List.map_cons, List.map_nil,
    List.count_append]
  omega

theorem length_unfinished_offer (pool : Pool) (ticket : Ticket) :
    (pool.offer ticket).unfinished.length = pool.unfinished.length + 1 := by
  simp only [unfinished, held, offer, List.length_append, List.length_singleton]
  omega

theorem record_opened (stats : Stats) {journal : Journal} (quiet : Journal.Quiet journal) :
    (stats.record (.count .opened :: journal)).total = stats.total + 1 ∧
      (stats.active.toNat + 1 < 2 ^ 64 →
        (stats.record (.count .opened :: journal)).active.toNat = stats.active.toNat + 1) := by
  obtain ⟨active, total⟩ := (stats.count .opened).record_eq_of_quiet quiet
  rw [Stats.record_count, active, total]
  exact ⟨rfl, stats.active_count_opened⟩

theorem filter_number {finished : List Ticket} (nodup : (finished.map Ticket.number).Nodup)
    {ticket : Ticket} (member : ticket ∈ finished) :
    finished.filter (·.number = ticket.number) = [ticket] := by
  induction finished with
  | nil => cases member
  | cons first finished ih =>
    rw [List.map_cons, List.nodup_cons] at nodup
    obtain ⟨fresh, nodup⟩ := nodup
    obtain rfl | member := List.mem_cons.1 member
    · have others : finished.filter (·.number = ticket.number) = [] := by
        simp only [List.filter_eq_nil_iff, decide_eq_true_eq]
        intro other other_mem same
        exact fresh (same ▸ List.mem_map_of_mem other_mem)
      simp [others]
    · have distinct : first.number ≠ ticket.number := by
        intro same
        exact fresh (same ▸ List.mem_map_of_mem member)
      rw [List.filter_cons_of_neg (by simpa using distinct)]
      exact ih nodup member

/-! ## What the moves do to the visitors -/

section Moves

variable {times : Clock → Prop} {visitors more : List Visitor}
  {admitted refused admitted' refused' : Nat → Prop}

theorem Faithful.mono {pool : Pool} (faithful : pool.Faithful times visitors admitted refused)
    (visitors_sub : visitors ⊆ more) (admitted_sub : ∀ n, admitted n → admitted' n)
    (refused_sub : ∀ n, refused n → refused' n) :
    pool.Faithful times more admitted' refused' where
  waiting ticket member := by
    obtain ⟨v, v_mem, same⟩ := faithful.waiting ticket member
    exact ⟨v, visitors_sub v_mem, same⟩
  queue ticket member := by
    obtain ⟨v, v_mem, answer, same⟩ := faithful.queue ticket member
    exact ⟨v, visitors_sub v_mem, admitted_sub _ answer, same⟩
  workers worker member busy := by
    obtain ⟨v, v_mem, answer, same⟩ := faithful.workers worker member busy
    exact ⟨v, visitors_sub v_mem, admitted_sub _ answer, same⟩
  finished ticket member := by
    obtain ⟨v, v_mem, same, ⟨answer, released⟩ | ⟨answer, closed⟩⟩ :=
      faithful.finished ticket member
    · exact ⟨v, visitors_sub v_mem, same, .inl ⟨admitted_sub _ answer, released⟩⟩
    · exact ⟨v, visitors_sub v_mem, same, .inr ⟨refused_sub _ answer, closed⟩⟩

theorem Faithful.setWorker {pool : Pool} {before after : List Worker} {old worker : Worker}
    (faithful : pool.Faithful times visitors admitted refused)
    (at_work : pool.workers = before ++ old :: after)
    (changed : worker.ticket? ≠ none →
      ∃ v ∈ visitors, admitted v.number ∧ WorkerFaithful times v worker) :
    { pool with workers := before ++ worker :: after }.Faithful times visitors admitted
      refused where
  waiting := faithful.waiting
  queue := faithful.queue
  workers other member := by
    cases List.mem_append.1 member with
    | inl first => exact faithful.workers other (by simp [at_work, first])
    | inr rest =>
      obtain rfl | last := List.mem_cons.1 rest
      · exact changed
      · exact faithful.workers other (by simp [at_work, last])
  finished := faithful.finished

variable {clock : Clock} {pool next : Pool} {action : Action} {journal : Journal}

theorem Faithful.offer {visitor : Visitor} (known : visitor ∈ visitors)
    (faithful : pool.Faithful times visitors admitted refused) :
    (pool.offer visitor.ticket).Faithful times visitors admitted refused := by
  refine ⟨fun ticket member => ?_, faithful.queue, faithful.workers, faithful.finished⟩
  cases List.mem_append.1 member with
  | inl old => exact faithful.waiting ticket old
  | inr new => exact ⟨visitor, known, List.mem_singleton.1 new⟩

theorem Step.faithful (step : Step clock pool action journal next) (shown : times clock)
    (faithful : pool.Faithful times visitors admitted refused)
    (admits : ∀ n ∈ pool.admits? action, admitted n)
    (refuses : ∀ n ∈ pool.refuses? action, refused n) :
    next.Faithful times visitors admitted refused := by
  cases step with
  | @enqueue before after ticket at_place _ _ =>
    obtain ⟨v, v_mem, same⟩ := faithful.waiting ticket (by simp [at_place])
    have answer : admitted v.number := admits v.number (by simp [admits?, at_place, same])
    refine ⟨fun other member => ?_, fun other member => ?_, faithful.workers, faithful.finished⟩
    · exact faithful.waiting other (by simp at member; simp [at_place]; tauto)
    · cases List.mem_append.1 member with
      | inl old => exact faithful.queue other old
      | inr new =>
        obtain rfl := List.mem_singleton.1 new
        exact ⟨v, v_mem, answer, same⟩
  | @refuse before after ticket at_place _ =>
    obtain ⟨v, v_mem, same⟩ := faithful.waiting ticket (by simp [at_place])
    have answer : refused v.number := refuses v.number (by simp [refuses?, at_place, same])
    refine ⟨fun other member => ?_, faithful.queue, faithful.workers, fun other member => ?_⟩
    · exact faithful.waiting other (by simp at member; simp [at_place]; tauto)
    · cases List.mem_append.1 member with
      | inl old => exact faithful.finished other old
      | inr new =>
        obtain rfl := List.mem_singleton.1 new
        subst same
        exact ⟨v, v_mem, rfl, .inr ⟨answer, rfl⟩⟩
  | @take before after ticket queue at_work first =>
    -- What leaves the queue was admitted to it.
    obtain ⟨v, v_mem, answer, same⟩ := faithful.queue ticket (by simp [first])
    have rest : { pool with queue }.Faithful times visitors admitted refused :=
      ⟨faithful.waiting, fun other member => faithful.queue other (by simp [first, member]),
        faithful.workers, faithful.finished⟩
    exact rest.setWorker at_work fun _ => ⟨v, v_mem, answer, same⟩
  | exit at_work _ _ => exact faithful.setWorker at_work fun busy => absurd rfl busy
  | @serve before after ticket at_work =>
    obtain ⟨v, v_mem, answer, same⟩ :=
      faithful.workers (.took ticket) (by simp [at_work]) (by simp [Worker.ticket?])
    refine faithful.setWorker at_work fun _ => ⟨v, v_mem, answer, clock, shown, ?_⟩
    rw [show ticket = v.ticket from same]
  | @close before after ticket broken alarm at_work =>
    obtain ⟨v, v_mem, answer, served, shown, same⟩ :=
      faithful.workers (.served ticket broken) (by simp [at_work]) (by simp [Worker.ticket?])
    -- The visit is the service at an earlier time and this closing.
    refine faithful.setWorker at_work fun _ => ⟨v, v_mem, answer, ?_, served, shown, ?_⟩
    · rw [same]
      rfl
    · rw [same]
      rfl
  | @finish before after ticket at_work =>
    obtain ⟨v, v_mem, answer, same, released⟩ :=
      faithful.workers (.closed ticket) (by simp [at_work]) (by simp [Worker.ticket?])
    have past : { pool with finished := pool.finished ++ [ticket] }.Faithful times visitors
        admitted refused := by
      refine ⟨faithful.waiting, faithful.queue, faithful.workers, fun other member => ?_⟩
      cases List.mem_append.1 member with
      | inl old => exact faithful.finished other old
      | inr new =>
        obtain rfl := List.mem_singleton.1 new
        exact ⟨v, v_mem, same, .inl ⟨answer, released⟩⟩
    exact past.setWorker at_work fun busy => absurd rfl busy

end Moves

end Pool

end TimeServer
