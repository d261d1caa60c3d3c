import TimeServer.Proofs.Server.Graceful

/-! # Clients that a stop leaves behind

While a server is stopped its accept thread looks for the clients that still wait.  An interrupted
call is made again, but any other failure of an accept call ends the search, and who still waits
then is turned away when the socket is closed.

* `Accounted.served_iff` — a run has served all that it should just if nobody was turned away;
* `served_but_forsaken` — so it is when a stop returns, whatever accept calls fail;
* `unserved_aborted` — one failure is enough.
-/

namespace TimeServer

namespace Run

variable {times : Clock → Prop} {rules : AccessRules} {run : Run} {guests lost : List Arrival}

/-- In a run that is over everyone was served who was not lost, if and only if nobody was turned
    away. -/
theorem Accounted.served_iff {forsaken : List Arrival}
    (accounted : run.Accounted times rules [] guests (lost ++ forsaken))
    (unfinished : run.pool.unfinished = []) (distinct : (guests.map Arrival.number).Nodup) :
    run.Served times rules (guests.filter (· ∉ lost)) ↔ forsaken = [] := by
  have others := accounted.served unfinished distinct
  constructor
  · intro served
    rw [List.eq_nil_iff_forall_not_mem]
    intro arrival member
    have gone : arrival ∈ lost ++ forsaken := List.mem_append_right _ member
    have came : arrival ∈ guests := accounted.known gone
    -- Nobody is gone twice, so it is not among those that were lost.
    have once : (lost ++ forsaken).Nodup :=
      (List.nodup_append.1 (accounted.numbers.nodup_iff.2 distinct)).2.1.of_map _
    have kept : arrival ∉ lost := fun lost_mem =>
      (List.nodup_append.1 once).2.2 arrival lost_mem arrival member rfl
    have number_mem : arrival.number ∈ (guests.filter (· ∉ lost)).map Arrival.number :=
      List.mem_map_of_mem (List.mem_filter.2 ⟨came, by simpa using kept⟩)
    obtain ⟨other, other_mem, same⟩ := List.mem_map.1
      ((served.numbers.symm.trans others.numbers).mem_iff.1 number_mem)
    obtain ⟨other_came, left⟩ := List.mem_filter.1 other_mem
    obtain rfl := List.inj_on_of_nodup_map distinct other_came came same
    exact absurd gone (by simpa using left)
  · rintro rfl
    simpa using others

end Run

namespace System

/-- Whatever accept calls fail: when a stop returns, every client that came to the socket of a run
    was served and closed exactly once, unless it was lost by an accept call or turned away when the
    socket was closed; so the stop has served all that it should just if nobody was turned away. -/
theorem served_but_forsaken {times : Clock → Prop} {settings : Settings} {network : Network}
    {clock : Clock} {h next : System} {call : Nat} (sound : network.Sound) (shown : times clock)
    (reached : Reaches (Orderly times) (ofServer (.ofSettings settings network clock)) h)
    (settling : h.calls[call]? = some .settling) (returned : h.step? (.advance call) = some next) :
    next.server.phase = .stopped ∧ ∀ run ∈ next.server.runs,
      run.acceptor = .absent ∧ run.pool.numbers = [] ∨
        run.acceptor = .exited ∧
          run.Served times next.server.rules (next.remainingAt run.endpoint) ∧
          (run.Served times next.server.rules (next.guestsAt run.endpoint) ↔
            Guest.atSocket next.forsaken run.endpoint = []) := by
  obtain ⟨orderly, stopped⟩ := stopped_of_returned times settling returned
  obtain ⟨⟨ordered, kept⟩, booked⟩ := booked_of_reaches sound shown (fun _ _ orderly => orderly)
    (reached.step _ orderly returned)
  refine ⟨stopped, fun run member => ?_⟩
  obtain ⟨i, at_run⟩ := List.getElem?_of_mem member
  have past := past_of_stopped ordered kept stopped at_run
  refine past.fits.1.imp_right fun exited =>
    ⟨exited, booked.served at_run past exited, ?_⟩
  have accounted := booked.accounted_of_past at_run past exited
  rw [gone, Guest.atSocket_append] at accounted
  exact accounted.served_iff past.fits.2.2.1 (booked.distinctAt _)

/-! ## A client that is left behind -/

def orderlyStep? (h : System) (move : Move) : Option System :=
  if h.isOrderly move then h.step? move else none

theorem orderly_of_step {times : Clock → Prop} {h next : System} {move : Move}
    (moved : h.orderlyStep? move = some next) :
    h.Orderly times move ∧ h.step? move = some next := by
  simp only [orderlyStep?] at moved
  split at moved
  · exact ⟨orderly_of_isOrderly ‹_›, moved⟩
  · cases moved

/-- Two clients wait when the server is stopped, and the second accept call is aborted. -/
def aborted : List Move :=
  let arrive : UInt16 → Move := fun port => .arrive ⟨.v4 .localhost, port⟩ ⟨.v4 .localhost, 37⟩ {}
  let work : Move := .work 0 (.work 0)
  [.start] ++ List.replicate 9 (.advance 0) ++ [arrive 5000, arrive 5001, .stop] ++
    List.replicate 3 (.advance 1) ++ [.fault ⟨.accept, 103, 1⟩, .accept 0, .accept 0,
      .work 0 (.enqueue 0), .accept 0, .accept 0, .accept 0, .advance 1] ++
      List.replicate 5 work ++ [.advance 1]

/-- Where those moves end: two clients came in time, none was lost, one was turned away and one
    served. -/
theorem aborted_ends : ∃ h next, Reaches (Orderly fun _ => True) small h ∧
    h.calls[1]? = some .settling ∧ h.step? (.advance 1) = some next ∧
      (∀ run ∈ next.server.runs, run.acceptor = .exited) ∧ next.lost = [] ∧ next.late = [] ∧
        next.tally next.guestsAt = [(1, 2)] := by
  have seen : ends small orderlyStep? aborted (fun next =>
      next.lost = [] ∧ next.late = [] ∧ next.tally next.guestsAt = [(1, 2)]) := by
    decide +kernel
  obtain ⟨h, next, reached, found, moved, exited, summed⟩ :=
    of_ends _ (fun _ _ _ => orderly_of_step) seen
  exact ⟨h, next, reached, found, moved, exited, of_decide_eq_true summed⟩

theorem served_but_forsaken_aborted : ∃ h next, Reaches (Orderly fun _ => True) small h ∧
    h.step? (.advance 1) = some next ∧ next.lost = [] ∧ next.server.phase = .stopped ∧
      ∀ run ∈ next.server.runs,
        run.acceptor = .absent ∧ run.pool.numbers = [] ∨
          run.acceptor = .exited ∧
            run.Served (fun _ => True) next.server.rules (next.remainingAt run.endpoint) ∧
            (run.Served (fun _ => True) next.server.rules (next.guestsAt run.endpoint) ↔
              Guest.atSocket next.forsaken run.endpoint = []) := by
  obtain ⟨h, next, reached, settling, moved, _, lost, _⟩ := aborted_ends
  exact ⟨h, next, reached, moved, lost,
    served_but_forsaken Network.sound_empty trivial reached settling moved⟩

/-- The stop returns, nobody was lost by the host or came too late, and yet not every client has
    been served. -/
theorem unserved_aborted : ∃ h next, Reaches (Orderly fun _ => True) small h ∧
    h.calls[1]? = some .settling ∧ h.step? (.advance 1) = some next ∧ next.lost = [] ∧
      next.late = [] ∧ ∃ run ∈ next.server.runs, run.acceptor = .exited ∧
        ¬ run.Served (fun _ => True) next.server.rules (next.guestsAt run.endpoint) := by
  obtain ⟨h, next, reached, settling, moved, exited, lost, late, tallied⟩ := aborted_ends
  obtain ⟨run, member, unserved⟩ := unserved_of_tally tallied (by decide)
  exact ⟨h, next, reached, settling, moved, lost, late, run, member, exited run member, unserved⟩

end System

end TimeServer
