import TimeServer.Proofs.Pool.Placement

/-! # Serial service

Whatever the number of workers and the order of their moves, the pool does to every connection what
one worker would do that served them one after another.

* `Session.serially` — what is written when visitors are served one after another;
* `Session.Serial` — to refine that;
* `serial_of_run` — every run does in which everyone was admitted and nobody is left.
-/

namespace TimeServer

namespace Pool

namespace Session

/-- What is written when the visitors are served one after another. -/
def serially (clock : Clock) (visitors : List Visitor) : Journal :=
  visitors.flatMap fun v => v.announcement ++ v.service clock 0

/-- What the workers have written that have ended, whether they have been waited for or not. -/
def farewells (workers : Nat) (s : Session) : Journal :=
  List.replicate (if s.pool.workers = [] then max 1 workers else s.pool.workers.count .exited)
    (.note (.workerExiting 0))

/-- The service has the effects of the serial one: on every connection, on the counters, and in the
    journal but for the numbers of the workers and for the notices that workers end. -/
structure Serial (clock : Clock) (workers : Nat) (s : Session) (trace : List (Move × Journal)) :
    Prop where
  finished : s.pool.finished.Perm (s.visitors.map (Visitor.releasedTicket clock))
  shutdowns : ∀ ticket ∈ s.pool.finished, ∃ v ∈ s.visitors, ticket.number = v.number ∧
    ticket.connection.stream.shutdowns = v.stream.shutdowns + 1
  stats : s.stats = Stats.record {} (serially clock s.visitors)
  journal : ((journalOf trace).map Entry.anonymous).Perm
    ((serially clock s.visitors ++ farewells workers s).map Entry.anonymous)
  /-- One worker keeps to the order in which the connections entered the queue. -/
  alone : workers ≤ 1 → ∃ order : List Visitor, order.Perm s.visitors ∧
    order.map Visitor.number = s.admitted ∧
    serviceOf trace = order.flatMap (Visitor.service clock 0) ++ farewells workers s
  /-- If they entered it as they came, this is the order in which they came. -/
  inOrder : workers ≤ 1 → (∀ entry ∈ trace, entry.1.inTurn) →
    serviceOf trace = s.visitors.flatMap (Visitor.service clock 0) ++ farewells workers s

section Service

variable {clock : Clock} {workers capacity : Nat} {s t : Session} {p : Placement}
  {written : Journal} {moves : List Move}

theorem active_serially_le (clock : Clock) (visitors : List Visitor) (stats : Stats) :
    (stats.record (serially clock visitors)).active.toNat ≤ stats.active.toNat := by
  induction visitors generalizing stats with
  | nil => exact Nat.le_refl _
  | cons v visitors ih =>
    refine Nat.le_trans
      (?_ : _ ≤ (stats.record (v.announcement ++ v.service clock 0)).active.toNat) ?_
    · simpa [serially, Stats.record_append] using ih _
    have quiet : Journal.Quiet (.note (.accepted v.client) :: v.release clock 0) := by
      have alarm : Journal.Quiet (v.alarm clock 0) := by
        rw [Visitor.alarm]
        split <;> simp [Journal.Quiet]
      exact (Connection.quiet_serve v.ticket.connection clock).append
        (alarm.append (Connection.quiet_close (v.servedTicket clock).connection))
    have split : v.announcement ++ v.service clock 0 = .count .opened ::
        (.note (.accepted v.client) :: v.release clock 0 ++ [.count .finished]) := rfl
    rw [split, Stats.record_count, Stats.record_append, Stats.record_count, Stats.record_nil]
    have opened := stats.active_count_opened_le
    have finished := ((stats.count .opened).record
      (.note (.accepted v.client) :: v.release clock 0)).active_count_finished_le
    rw [(Stats.record_eq_of_quiet _ quiet).1] at finished
    omega

theorem counts_anonymous (journal : Journal) :
    Journal.counts (journal.map Entry.anonymous) = journal.counts := by
  induction journal with
  | nil => rfl
  | cons entry journal ih =>
    cases entry with
    | note notice => exact ih
    | count count => exact congrArg (count :: ·) ih

theorem adds_farewells (counter : Counter) : (farewells workers s).adds counter = 0 := by
  rw [farewells, ← List.map_replicate, Journal.adds_notes]

/-- Journals that differ in the order of their entries and in the workers add the same. -/
theorem adds_of_anonymous {first second : Journal} (counter : Counter)
    (same : (first.map Entry.anonymous).Perm (second.map Entry.anonymous)) :
    first.adds counter = second.adds counter := by
  refine Journal.adds_of_perm ?_
  rw [← counts_anonymous first, ← counts_anonymous second]
  exact Journal.counts_perm same

/-- When everyone has gone, the workers have written the service of each and that they end. -/
theorem Shows.at_end (shows : Shows clock workers s p written) (emptied : s.pool.unfinished = []) :
    p.waiting = [] ∧ p.admitted = p.done ∧
      p.service clock = p.done.flatMap (Visitor.service clock 0) ++ farewells workers s := by
  simp only [unfinished, List.append_eq_nil_iff, shows.waiting, shows.queue,
    List.map_eq_nil_iff] at emptied
  obtain ⟨⟨waiting, queue⟩, unheld⟩ := emptied
  have unattended : p.posts.filterMap Post.visitor? = [] := by
    rw [held, shows.posts, List.filterMap_map, List.filterMap_eq_nil_iff] at unheld
    rw [List.filterMap_eq_nil_iff]
    intro post member
    have free := unheld post member
    cases post <;> simp [Post.worker, Worker.ticket?, Post.visitor?] at free ⊢
  refine ⟨waiting, by simp [Placement.admitted, unattended, queue], ?_⟩
  rw [Placement.service, Post.flatMap_entries unattended, List.append_assoc,
    List.replicate_append_replicate, farewells, shows.posts]
  obtain ⟨staff, joined⟩ | ⟨none_left, joined⟩ := shows.staffed
  · have staffed : p.posts ≠ [] := by
      rintro none_left
      simp [none_left] at staff
      omega
    rw [if_neg (by simpa using staffed), joined, Nat.add_zero]
  · simp [none_left, joined]

theorem serially_perm (visitors : List Visitor) :
    (serially clock visitors).Perm
      (visitors.flatMap Visitor.announcement ++ visitors.flatMap (Visitor.service clock 0)) :=
  (List.flatMap_append_perm visitors Visitor.announcement (Visitor.service clock 0)).symm

theorem eq_of_numbers {order visitors : List Visitor} (same : order.Perm visitors)
    (nodup : (visitors.map Visitor.number).Nodup)
    (numbers : order.map Visitor.number = visitors.map Visitor.number) : order = visitors := by
  induction visitors generalizing order with
  | nil => exact same.eq_nil
  | cons v visitors ih =>
    cases order with
    | nil => cases numbers
    | cons w order =>
      obtain ⟨head, tail⟩ := List.cons.inj numbers
      obtain rfl : w = v :=
        List.inj_on_of_nodup_map nodup (same.subset List.mem_cons_self) List.mem_cons_self head
      rw [ih same.cons_inv (List.nodup_cons.1 nodup).2 tail]

end Service

/-- The pool refines serial service: whoever is served by which worker and when, at the end every
    connection is as it would be if they had been served and closed one after another, and so are
    the counters and what was written. -/
theorem serial_of_run {clock : Clock} {workers capacity : Nat} {s : Session} {moves : List Move}
    (ran : (start workers capacity).run moves = some s) (plain : ∀ move ∈ moves, move.isAt clock)
    (emptied : s.pool.unfinished = []) (unrefused : s.refused = []) :
    Serial clock workers s ((start workers capacity).trace moves) := by
  obtain ⟨p, shows⟩ := shows_of_run (shows_start clock workers capacity) ran plain unrefused
  obtain ⟨waiting, admitted, service⟩ := shows.at_end emptied
  have everyone : s.visitors.Perm p.done := by
    simpa [admitted, waiting] using shows.everyone
  obtain ⟨came, visitors, journal⟩ := journal_of_run ran plain
  obtain rfl : s.visitors = came := visitors
  have finished : s.pool.finished.Perm (s.visitors.map (Visitor.releasedTicket clock)) := by
    rw [shows.finished]
    exact (everyone.map _).symm
  -- The journal is that of the serial service, entry for entry.
  have entries : ((journalOf ((start workers capacity).trace moves)).map Entry.anonymous).Perm
      ((serially clock s.visitors ++ farewells workers s).map Entry.anonymous) := by
    have told := shows.told
    rw [List.nil_append, service] at told
    refine (journal.map _).trans ?_
    rw [List.map_append]
    refine (told.append_left _).trans ?_
    rw [← List.map_append, ← List.append_assoc]
    refine List.Perm.map _ (.append_right _ (.trans ?_ (serially_perm s.visitors).symm))
    exact .append_left _ (everyone.symm.flatMap_right _)
  have order : workers ≤ 1 → p.done.map Visitor.number = s.admitted ∧
      serviceOf ((start workers capacity).trace moves) =
        p.done.flatMap (Visitor.service clock 0) ++ farewells workers s := by
    intro few
    obtain ⟨written, numbers⟩ := shows.alone few
    rw [admitted] at numbers
    rw [List.nil_append, service] at written
    exact ⟨numbers.symm, written⟩
  refine ⟨finished, fun ticket member => ?_, ?_, entries, fun few => ?_, fun few turn => ?_⟩
  · obtain ⟨v, v_mem, rfl⟩ := List.mem_map.1 (finished.subset member)
    have released : v.Released (· = clock) (v.releasedTicket clock).connection := ⟨clock, rfl, rfl⟩
    exact ⟨v, v_mem, rfl, released.shutdowns⟩
  · have active := active_le_of_run ran (by simp [start, unfinished_ofWorkers])
    have serial := active_serially_le clock s.visitors {}
    rw [emptied, List.length_nil] at active
    refine Stats.eq_of_read (UInt64.toNat_inj.1 (by simp at serial; omega)) fun counter => ?_
    have same := adds_of_anonymous counter entries
    rw [stats_of_run ran, Stats.read_record, Stats.read_record, same, Journal.adds_append,
      adds_farewells]
    simp [start]
  · exact ⟨p.done, everyone.symm, order few⟩
  · -- Those that entered in turn have the numbers in the order of the visitors.
    obtain ⟨numbers, written⟩ := order few
    have turns : s.InTurn := by
      refine InTurn.run (by rfl) ran (fun move member => ?_) unrefused
      rw [← moves_trace ran] at member
      obtain ⟨entry, entry_mem, rfl⟩ := List.mem_map.1 member
      exact turn entry entry_mem
    have names := (Reachable.start.run ran).ledger.names
    rw [InTurn, shows.waiting, waiting, List.map_nil, List.map_nil, List.append_nil, ← numbers,
      ← names] at turns
    rw [written, eq_of_numbers everyone.symm (names ▸ List.nodup_range) turns]

/-- Two workers over a queue for one connection.  The first to enter is not the first who came, and
    a client breaks its worker while the other is at work. -/
def crossing : List Move :=
  [.attach, .submit "a" {} { writes := [.panic] } [], .submit "b" {} {} [],
    .act ⟨0, 0⟩ (.enqueue 1), .act ⟨0, 0⟩ (.work 1), .act ⟨0, 0⟩ (.enqueue 0),
    .act ⟨0, 0⟩ (.work 0), .act ⟨0, 0⟩ (.work 1), .act ⟨0, 0⟩ (.work 0), .act ⟨0, 0⟩ (.work 1),
    .act ⟨0, 0⟩ (.work 0), .act ⟨0, 0⟩ (.work 0), .act ⟨0, 0⟩ (.work 1), .detach, .shutdown,
    .act ⟨0, 0⟩ (.work 1), .act ⟨0, 0⟩ (.work 0), .join]

theorem serial_crossing : ∃ s, (start 2 1).run crossing = some s ∧ s.visitors.length = 2 ∧
    s.pool.unfinished = [] ∧ s.refused = [] ∧ Serial ⟨0, 0⟩ 2 s ((start 2 1).trace crossing) := by
  obtain ⟨s, ran⟩ : ∃ s, (start 2 1).run crossing = some s :=
    Option.isSome_iff_exists.1 (by decide +kernel)
  obtain ⟨came, emptied, unrefused⟩ :
      s.visitors.length = 2 ∧ s.pool.unfinished = [] ∧ s.refused = [] := by
    have ends : ((start 2 1).run crossing).map
        (fun s => (s.visitors.length, s.pool.unfinished, s.refused)) = some (2, [], []) := by
      decide +kernel
    rw [ran] at ends
    simpa using ends
  have plain : ∀ move ∈ crossing, move.isAt ⟨0, 0⟩ := by
    simp [crossing, Move.isAt]
  exact ⟨s, ran, came, emptied, unrefused, serial_of_run ran plain emptied unrefused⟩

end Session

end Pool

end TimeServer
