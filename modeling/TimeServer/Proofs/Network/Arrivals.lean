import TimeServer.Proofs.Network

/-! # Who waits from one state of the network to the next

* `Network.Wanes` — nobody waits who did not wait before: accepting and closing;
* `Network.Follows` — or who came in between, with a number that nobody had before: every call;
* `Network.Known` — a connection keeps its number for itself.
-/

namespace TimeServer.Network

/-- Nobody waits at any socket who did not wait there before. -/
def Wanes (n next : Network) : Prop := ∀ number, next.backlog number ⊆ n.backlog number

/-- Whoever waits did so before or has come since, with a new number. -/
structure Follows (n next : Network) : Prop where
  later : n.nextNumber ≤ next.nextNumber
  waits : ∀ number, ∀ arrival ∈ next.backlog number, arrival ∈ n.backlog number ∨
    n.nextNumber ≤ arrival.number ∧ arrival.number < next.nextNumber

/-- The connection was made, and nobody else waits at the socket under its number. -/
def Known (n : Network) (number : Nat) (arrival : Arrival) : Prop :=
  arrival.number < n.nextNumber ∧
    ∀ other ∈ n.backlog number, other.number = arrival.number → other = arrival

variable {n next last : Network} {number : Nat}

theorem Wanes.of_endpoints (same : next.endpoints = n.endpoints) : n.Wanes next := by
  intro number arrival waits
  rw [backlog, same] at waits
  exact waits

theorem Wanes.of_empty (wanes : n.Wanes next) (empty : n.backlog number = []) :
    next.backlog number = [] :=
  List.subset_nil.1 (empty ▸ wanes number)

theorem wanes_close (n : Network) (number : Nat) : n.Wanes (n.close number) := by
  intro other arrival waits
  rw [backlog_close] at waits
  split at waits
  · cases waits
  · exact waits

theorem wanes_take? (n : Network) (number : Nat) : n.Wanes (n.take? number).2 := by
  obtain ⟨ended, _⟩ | ⟨arrival, rest, _, faults, waits, ended, _⟩ := n.take?_cases number
  · rw [ended]
    exact fun _ _ => id
  · rw [ended]
    intro other
    have bound := mem_sockets_of_backlog (waits ▸ List.cons_ne_nil arrival rest)
    have left : (n.changeBacklog number fun _ => rest).backlog other ⊆ n.backlog other := by
      rw [backlog_changeBacklog (fun _ => rest) bound]
      split
      · rename_i here
        rw [here, waits]
        exact List.subset_cons_self _ _
      · exact List.Subset.refl _
    exact left

theorem Wanes.follows (wanes : n.Wanes next) (later : n.nextNumber ≤ next.nextNumber) :
    n.Follows next :=
  ⟨later, fun number _ waits => .inl (wanes number waits)⟩

theorem Follows.of_endpoints (same : next.endpoints = n.endpoints)
    (later : n.nextNumber ≤ next.nextNumber) : n.Follows next :=
  (Wanes.of_endpoints same).follows later

theorem Follows.trans (first : n.Follows next) (second : next.Follows last) : n.Follows last where
  later := Nat.le_trans first.later second.later
  waits number arrival waits := by
    obtain before | ⟨new, old⟩ := second.waits number arrival waits
    · obtain before | ⟨new, old⟩ := first.waits number arrival before
      · exact .inl before
      · exact .inr ⟨new, Nat.lt_of_lt_of_le old second.later⟩
    · exact .inr ⟨Nat.le_trans first.later new, old⟩

theorem Follows.numbered (follows : n.Follows next)
    (numbered : ∀ arrival ∈ n.backlog number, arrival.number < n.nextNumber) :
    ∀ arrival ∈ next.backlog number, arrival.number < next.nextNumber := by
  intro arrival waits
  obtain before | ⟨_, old⟩ := follows.waits number arrival waits
  · exact Nat.lt_of_lt_of_le (numbered arrival before) follows.later
  · exact old

theorem Follows.known (follows : n.Follows next) {arrival : Arrival}
    (known : n.Known number arrival) : next.Known number arrival := by
  obtain ⟨given, unique⟩ := known
  refine ⟨Nat.lt_of_lt_of_le given follows.later, fun other waits same => ?_⟩
  obtain before | ⟨new, _⟩ := follows.waits number other waits
  · exact unique other before same
  · omega

end TimeServer.Network
