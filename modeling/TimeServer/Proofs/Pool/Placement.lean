import TimeServer.Proofs.Pool.Trace

/-! # Where everyone in a pool is

Which worker serves a visitor, and when, shows in no connection.

* `Visitor.service` — what a worker does with the connection of a visitor, from taking it to
  counting it as finished;
* `Placement`, `Shows` — where every visitor is, and what was written about it so far;
* `Shows.change_post` — one worker gets on, whoever stands beside it;
* `Shows.step`, `shows_of_run` — every move, and so every run, keeps the journals in step with the
  places.
-/

namespace TimeServer

open Pool

namespace Visitor

/-- The connection of the visitor after it was served. -/
def servedTicket (clock : Clock) (v : Visitor) : Ticket :=
  { v.ticket with connection := (v.ticket.connection.serve clock).connection }

/-- The connection of the visitor after it was served and closed. -/
def releasedTicket (clock : Clock) (v : Visitor) : Ticket :=
  { v.ticket with connection := (v.servedTicket clock).connection.close.connection }

/-- What a worker writes when its connection broke it. -/
def alarm (clock : Clock) (worker : Nat) (v : Visitor) : Journal :=
  if isPanic (v.ticket.connection.serve clock).result then
    [.note (.recovered worker (v.servedTicket clock).connection.client)]
  else []

/-- What a worker writes when it serves the connection of the visitor. -/
def attendance (clock : Clock) (v : Visitor) : Journal := (v.ticket.connection.serve clock).journal

/-- What a worker writes until it has closed the connection of the visitor. -/
def release (clock : Clock) (worker : Nat) (v : Visitor) : Journal :=
  v.attendance clock ++ (v.alarm clock worker ++ (v.servedTicket clock).connection.close.journal)

/-- All that a worker writes about the connection of the visitor. -/
def service (clock : Clock) (worker : Nat) (v : Visitor) : Journal :=
  v.release clock worker ++ [.count .finished]

end Visitor

/-- The notice of whichever worker. -/
def Notice.anonymous : Notice → Notice
  | .recovered _ client => .recovered 0 client
  | .workerExiting _ => .workerExiting 0
  | notice => notice

def Entry.anonymous : Entry → Entry
  | .note notice => .note notice.anonymous
  | .count one => .count one

namespace Pool

/-- Where a worker stands, told by the visitor that it attends to. -/
inductive Post
  | idle
  | took (visitor : Visitor)
  | served (visitor : Visitor)
  | closed (visitor : Visitor)
  | exited

namespace Post

def worker (clock : Clock) : Post → Worker
  | idle => .idle
  | took v => .took v.ticket
  | served v => .served (v.servedTicket clock) (isPanic (v.ticket.connection.serve clock).result)
  | closed v => .closed (v.releasedTicket clock)
  | exited => .exited

def visitor? : Post → Option Visitor
  | idle | exited => none
  | took v | served v | closed v => some v

/-- What the worker has written since it was idle. -/
def entries (clock : Clock) (id : Nat) : Post → Journal
  | idle | took _ => []
  | served v => v.attendance clock
  | closed v => v.release clock id
  | exited => [.note (.workerExiting id)]

variable {clock : Clock} {posts : List Post}

theorem flatMap_entries (unattended : posts.filterMap visitor? = []) :
    posts.flatMap (entries clock 0) =
      List.replicate ((posts.map (worker clock)).count .exited) (.note (.workerExiting 0)) := by
  induction posts with
  | nil => rfl
  | cons post posts ih =>
    cases post with
    | idle => simpa [entries, worker] using ih unattended
    | exited => simpa [entries, worker, List.replicate_succ] using ih unattended
    | took v | served v | closed v => simp [visitor?] at unattended

end Post

namespace Session

/-! ## Where everyone is -/

/-- Where every visitor is, in the order in which they entered the queue, and who still waits. -/
structure Placement where
  waiting : List Visitor := []
  queue : List Visitor := []
  posts : List Post := []
  done : List Visitor := []
  /-- How many workers have been waited for. -/
  joined : Nat := 0

namespace Placement

def admitted (p : Placement) : List Visitor :=
  p.done ++ p.posts.filterMap Post.visitor? ++ p.queue

/-- What the workers have written to come to this. -/
def service (clock : Clock) (p : Placement) : Journal :=
  p.done.flatMap (Visitor.service clock 0) ++ p.posts.flatMap (Post.entries clock 0) ++
    List.replicate p.joined (.note (.workerExiting 0))

end Placement

/-- The pool is where the placement says, and so is what its actors have written. -/
structure Shows (clock : Clock) (workers : Nat) (s : Session) (p : Placement) (written : Journal) :
    Prop where
  waiting : s.pool.waiting = p.waiting.map Visitor.ticket
  queue : s.pool.queue = p.queue.map Visitor.ticket
  posts : s.pool.workers = p.posts.map (Post.worker clock)
  finished : s.pool.finished = p.done.map (Visitor.releasedTicket clock)
  everyone : s.visitors.Perm (p.admitted ++ p.waiting)
  staffed : p.posts.length = max 1 workers ∧ p.joined = 0 ∨ p.posts = [] ∧ p.joined = max 1 workers
  told : (written.map Entry.anonymous).Perm ((p.service clock).map Entry.anonymous)
  alone : workers ≤ 1 → written = p.service clock ∧ s.admitted = p.admitted.map Visitor.number

theorem shows_start (clock : Clock) (workers capacity : Nat) :
    Shows clock workers (start workers capacity)
      { posts := List.replicate (max 1 workers) .idle } [] := by
  have unwritten :
      Placement.service clock { posts := List.replicate (max 1 workers) .idle } = [] := by
    simp [Placement.service, Post.entries]
  refine ⟨rfl, rfl, ?_, rfl, ?_, .inl (by simp), ?_, fun _ => ⟨unwritten.symm, ?_⟩⟩
  · simp [start, ofWorkers, Post.worker]
  · simp [start, Placement.admitted, Post.visitor?]
  · rw [unwritten]
  · simp [start, Placement.admitted, Post.visitor?]

section Moves

variable {clock : Clock} {workers : Nat} {s next : Session} {p : Placement} {written : Journal}

theorem Shows.change_post (shows : Shows clock workers s p written) {before after : List Post}
    {old : Post} (new : Post) (queue done : List Visitor) {pool : Pool} {journal : Journal}
    (same : Journal) {stats : Stats} (split : p.posts = before ++ old :: after)
    (pool_eq : pool = { s.pool with
      queue := queue.map Visitor.ticket
      finished := done.map (Visitor.releasedTicket clock) }.setWorker before.length
        (new.worker clock))
    (chain : done ++ (new.visitor?.toList ++ queue) = p.done ++ (old.visitor?.toList ++ p.queue))
    (wrote : done.flatMap (Visitor.service clock 0) ++ new.entries clock 0 =
      p.done.flatMap (Visitor.service clock 0) ++ (old.entries clock 0 ++ same))
    (anonymous : journal.map Entry.anonymous = same.map Entry.anonymous)
    (first : before = [] → journal = same) :
    Shows clock workers { s with pool, stats }
      { p with queue, posts := before ++ new :: after, done } (written ++ journal) := by
  have attended : ∀ post : Post, ∀ others : List Post,
      (post :: others).filterMap Post.visitor? =
        post.visitor?.toList ++ others.filterMap Post.visitor? := by
    intro post others
    cases post <;> rfl
  -- With one worker there is nobody beside it, and nobody was waited for.
  have lonely : workers ≤ 1 → before = [] ∧ after = [] ∧ p.joined = 0 := by
    intro few
    obtain ⟨staff, joined⟩ | ⟨none_left, _⟩ := shows.staffed
    · rw [split, List.length_append, List.length_cons] at staff
      refine ⟨List.eq_nil_of_length_eq_zero ?_, List.eq_nil_of_length_eq_zero ?_, joined⟩ <;> omega
    · simp [split] at none_left
  subst pool_eq
  refine ⟨shows.waiting, rfl, ?_, rfl, ?_, ?_, ?_, fun few => ?_⟩
  · simp [setWorker, shows.posts, split]
  · refine shows.everyone.trans (.append_right _ ?_)
    have chained := List.Perm.of_eq chain.symm
    simp only [Placement.admitted, split, List.filterMap_append, attended]
    rw [List.perm_iff_count] at chained ⊢
    intro v
    have count := chained v
    simp only [List.count_append] at count ⊢
    omega
  · have staffed := shows.staffed
    simpa [split] using staffed
  · rw [List.map_append, anonymous]
    refine (shows.told.append_right _).trans ?_
    rw [← List.map_append]
    refine List.Perm.map _ ?_
    have turned := List.Perm.of_eq wrote.symm
    simp only [Placement.service, split, List.flatMap_append, List.flatMap_cons]
    rw [List.perm_iff_count] at turned ⊢
    intro entry
    have count := turned entry
    simp only [List.count_append] at count ⊢
    omega
  · obtain ⟨rfl, rfl, joined⟩ := lonely few
    obtain ⟨written_eq, admitted_eq⟩ := shows.alone few
    refine ⟨?_, admitted_eq.trans (congrArg _ ?_)⟩
    · rw [written_eq, first rfl]
      simpa [Placement.service, split, joined] using wrote.symm
    · simpa [Placement.admitted, split, attended] using chain.symm

theorem Shows.of_feeds (shows : Shows clock workers s p written) (feeds : Nat) (stage : Stage) :
    Shows clock workers { s with pool := { s.pool with feeds }, stage } p written :=
  ⟨shows.waiting, shows.queue, shows.posts, shows.finished, shows.everyone, shows.staffed,
    shows.told, shows.alone⟩

theorem Shows.offer (shows : Shows clock workers s p written) (v : Visitor) (stats : Stats)
    (crowd : Nat) :
    Shows clock workers
      { s with pool := s.pool.offer v.ticket, stats, visitors := s.visitors ++ [v], crowd }
      { p with waiting := p.waiting ++ [v] } written := by
  refine ⟨?_, shows.queue, shows.posts, shows.finished, ?_, shows.staffed, shows.told, shows.alone⟩
  · simp [Pool.offer, shows.waiting]
  · rw [← List.append_assoc]
    exact shows.everyone.append_right _

theorem Shows.join (shows : Shows clock workers s p written) (done : s.pool.isDone)
    (stage : Stage) : ∃ q, Shows clock workers { s with pool := s.pool.join, stage } q written := by
  have gone : ∀ worker ∈ p.posts.map (Post.worker clock), worker = .exited := by
    simpa [isDone, shows.posts] using done
  -- What the posts wrote is kept, as that many workers that have been waited for.
  have unattended : p.posts.filterMap Post.visitor? = [] := by
    rw [List.filterMap_eq_nil_iff]
    intro post member
    have ended := gone _ (List.mem_map_of_mem member)
    cases post <;> simp [Post.worker, Post.visitor?] at ended ⊢
  have all : (p.posts.map (Post.worker clock)).count .exited = p.posts.length := by
    rw [List.count_eq_length.2 fun worker member => (gone worker member).symm, List.length_map]
  have admitted :
      { p with posts := [], joined := p.posts.length + p.joined }.admitted = p.admitted := by
    simp [Placement.admitted, unattended]
  have service : { p with posts := [], joined := p.posts.length + p.joined }.service clock =
      p.service clock := by
    simp [Placement.service, Post.flatMap_entries unattended, all, List.replicate_append_replicate]
  refine ⟨{ p with posts := [], joined := p.posts.length + p.joined }, shows.waiting, shows.queue,
    rfl, shows.finished, admitted ▸ shows.everyone, .inr ⟨rfl, ?_⟩, service ▸ shows.told,
    fun few => ?_⟩
  · obtain ⟨staff, joined⟩ | ⟨none_left, joined⟩ := shows.staffed
    · simp [staff, joined]
    · simp [none_left, joined]
  · rw [service, admitted]
    exact shows.alone few

theorem Shows.work (shows : Shows clock workers s p written) {id : Nat} {pool : Pool}
    {journal : Journal} (acted : s.pool.act? clock (.work id) = some (pool, journal))
    (stats : Stats) : ∃ q, Shows clock workers { s with pool, stats } q (written ++ journal) := by
  simp only [act?, shows.posts, List.getElem?_map, Option.bind_eq_bind, Option.bind_eq_some_iff,
    Option.map_eq_some_iff] at acted
  obtain ⟨_, ⟨post, found, rfl⟩, moved⟩ := acted
  obtain ⟨before, after, split, rfl⟩ := split_at_place found
  cases post with
  | idle =>
    cases queue : p.queue with
    | nil =>
      simp only [Post.worker, work?, shows.queue, queue, List.map_nil] at moved
      split at moved
      · cases moved
      · cases moved
        refine ⟨_, shows.change_post .exited p.queue p.done [.note (.workerExiting 0)] split
          ?_ ?_ ?_ rfl ?_⟩
        · rw [← shows.queue, ← shows.finished]
          rfl
        · simp [Post.visitor?]
        · simp [Post.entries]
        · rintro rfl
          rfl
    | cons v queue_after =>
      simp only [Post.worker, work?, shows.queue, queue, List.map_cons] at moved
      cases moved
      refine ⟨_, shows.change_post (.took v) queue_after p.done [] split ?_ ?_ ?_ rfl fun _ => rfl⟩
      · rw [← shows.finished]
        rfl
      · simp [Post.visitor?, queue]
      · simp [Post.entries]
  | took v =>
    cases moved
    refine ⟨_, shows.change_post (.served v) p.queue p.done (v.attendance clock) split
      ?_ rfl ?_ rfl fun _ => rfl⟩
    · rw [← shows.queue, ← shows.finished]
      rfl
    · simp [Post.entries]
  | served v =>
    cases moved
    refine ⟨_, shows.change_post (.closed v) p.queue p.done
      (v.alarm clock 0 ++ (v.servedTicket clock).connection.close.journal) split ?_ rfl
      ?_ ?_ ?_⟩
    · rw [← shows.queue, ← shows.finished]
      rfl
    · simp [Post.entries, Visitor.release]
    · -- Only the number of the worker is another one.
      simp only [Visitor.alarm]
      split <;> rfl
    · rintro rfl
      rfl
  | closed v =>
    cases moved
    refine ⟨_, shows.change_post .idle p.queue (p.done ++ [v]) [.count .finished] split
      ?_ ?_ ?_ rfl fun _ => rfl⟩
    · rw [← shows.queue, List.map_append, ← shows.finished]
      rfl
    · simp [Post.visitor?]
    · simp [Post.entries, Visitor.service]
  | exited => cases moved

theorem Shows.enqueue (shows : Shows clock workers s p written) {place : Nat} {pool : Pool}
    {journal : Journal} (acted : s.pool.act? clock (.enqueue place) = some (pool, journal))
    (stats : Stats) :
    ∃ q, Shows clock workers
      { s with pool, stats, admitted := s.admitted ++ (s.pool.admits? (.enqueue place)).toList } q
      (written ++ journal) := by
  simp only [act?, shows.waiting, List.getElem?_map, Option.bind_eq_bind, Option.bind_eq_some_iff,
    Option.map_eq_some_iff] at acted
  obtain ⟨_, ⟨v, found, rfl⟩, moved⟩ := acted
  obtain ⟨before, after, split, rfl⟩ := split_at_place found
  split at moved
  · cases moved
    refine ⟨{ p with waiting := before ++ after, queue := p.queue ++ [v] }, ?_, ?_, shows.posts,
      shows.finished, ?_, shows.staffed, ?_, fun few => ?_⟩
    · simp [split, List.eraseIdx_append_of_length_le]
    · simp [shows.queue]
    · refine shows.everyone.trans ?_
      rw [split, List.perm_iff_count]
      intro w
      simp only [Placement.admitted, List.count_append, List.count_cons, List.count_nil]
      omega
    · rw [List.append_nil]
      exact shows.told
    · -- To enter the queue is to be the last of those admitted, and writes nothing.
      obtain ⟨written_eq, admitted_eq⟩ := shows.alone few
      rw [List.append_nil, written_eq, admitted_eq]
      simp [Placement.admitted, Placement.service, admits?, shows.waiting, split]
  · cases moved

theorem Shows.step (shows : Shows clock workers s p written) {move : Move}
    (moved : s.step? move = some next) (plain : move.isAt clock) (unrefused : next.refused = []) :
    ∃ q, Shows clock workers next q (written ++ if move.isAct then s.writes move else []) := by
  cases move with
  | act time action =>
    obtain ⟨pool, journal, acted, writes, rfl⟩ := act_of_step? moved
    obtain rfl : time = clock := plain
    rw [if_pos (by rfl), writes]
    cases action with
    | enqueue place => simpa [refuses?] using shows.enqueue acted (s.stats.record journal)
    | work id => simpa [admits?, refuses?] using shows.work acted (s.stats.record journal)
    | refuse place =>
      simp only [act?, Option.bind_eq_bind, Option.bind_eq_some_iff] at acted
      obtain ⟨ticket, found, _⟩ := acted
      simp [refuses?, found] at unrefused
  | submit client rules stream troubles =>
    obtain ⟨v, _, _, rfl⟩ := submit_of_step? moved
    rw [if_neg (by simp [Move.isAct]), List.append_nil]
    exact ⟨_, shows.offer v _ _⟩
  | attach | detach | shutdown =>
    rw [if_neg (by simp [Move.isAct]), List.append_nil]
    simp only [step?] at moved
    split at moved
    · cases moved
      exact ⟨p, shows.of_feeds _ _⟩
    · cases moved
  | join =>
    rw [if_neg (by simp [Move.isAct]), List.append_nil]
    simp only [step?] at moved
    split at moved
    · rename_i possible
      cases moved
      exact shows.join possible.2 _
    · cases moved

theorem shows_of_run (shows : Shows clock workers s p written) (ran : s.run moves = some t)
    (plain : ∀ move ∈ moves, move.isAt clock) (unrefused : t.refused = []) :
    ∃ q, Shows clock workers t q (written ++ serviceOf (s.trace moves)) := by
  induction moves generalizing s p written with
  | nil =>
    cases ran
    exact ⟨p, by simpa [trace, serviceOf, journalOf] using shows⟩
  | cons move moves ih =>
    obtain ⟨next, moved, ran⟩ := run_cons.1 ran
    obtain ⟨q, shows⟩ := shows.step moved (plain move (by simp)) (unrefused_of_run ran unrefused)
    obtain ⟨r, shows⟩ := ih shows ran fun other member => plain other (by simp [member])
    refine ⟨r, ?_⟩
    rw [trace_cons moved, serviceOf_cons, ← List.append_assoc]
    exact shows

end Moves

end Session

end Pool

end TimeServer
