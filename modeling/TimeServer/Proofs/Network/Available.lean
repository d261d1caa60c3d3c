import TimeServer.Proofs.Network
import Mathlib.Data.List.Perm.Subperm

/-! # Which addresses can be bound

* `Network.Available` — the host lets a socket have the address and no other socket is in the way;
* `freePort?_isSome_iff` — the search for a free port finds one if there is one;
* `bind?_isOk_iff` — where no fault is in store, a socket can be set up exactly on available
  addresses.
-/

namespace TimeServer

namespace Network

/-- The host lets a socket have the address, and no other is in the way: there is a port that none
    is bound to, if any will do, or none answers for this one. -/
def Available (rules : NetworkRules) (endpoints : List Endpoint) (address : SocketAddress)
    (dualStack : Bool) : Prop :=
  rules.refusal? address.ip dualStack = none ∧
    if address.port = 0 then ∃ port : UInt16, port ≠ 0 ∧ ∀ e ∈ endpoints, e.address.port ≠ port
    else ∀ e ∈ endpoints, (Endpoint.mk 0 address dualStack []).overlaps e = false

variable {n : Network}

theorem isFree_iff {port : UInt16} :
    (port != 0 && n.endpoints.all (·.address.port != port)) ↔
      port ≠ 0 ∧ ∀ e ∈ n.endpoints, e.address.port ≠ port := by
  simp

theorem freePort?_isSome_iff :
    n.freePort?.isSome ↔ ∃ port : UInt16, port ≠ 0 ∧ ∀ e ∈ n.endpoints, e.address.port ≠ port := by
  constructor
  · intro found
    obtain ⟨port, found⟩ := Option.isSome_iff_exists.1 found
    have free := List.find?_some found
    exact ⟨UInt16.ofNat port, isFree_iff.1 free⟩
  · rintro ⟨free, nonzero, unused⟩
    rw [freePort?, List.find?_isSome]
    by_contra none_free
    -- Every candidate is zero or taken.
    have taken : ∀ k < n.endpoints.length + 2,
        UInt16.ofNat (n.nextPort + k) ∈ 0 :: n.endpoints.map (·.address.port) := by
      intro k few
      by_contra untaken
      rw [List.mem_cons, not_or] at untaken
      refine none_free ⟨n.nextPort + k, List.mem_map.2 ⟨k, List.mem_range.2 few, rfl⟩, ?_⟩
      exact isFree_iff.2
        ⟨untaken.1, fun e member same => untaken.2 (List.mem_map.2 ⟨e, member, same⟩)⟩
    cases Nat.lt_or_ge (n.endpoints.length + 2) 65536 with
    | inl few =>
      -- The candidates are different ports, and more than those that are taken.
      have distinct : ((List.range (n.endpoints.length + 2)).map
          fun k => UInt16.ofNat (n.nextPort + k)).Nodup := by
        refine List.Nodup.map_on (fun k k_mem l l_mem same => ?_) List.nodup_range
        rw [List.mem_range] at k_mem l_mem
        have residues := congrArg UInt16.toNat same
        rw [UInt16.toNat_ofNat', UInt16.toNat_ofNat'] at residues
        omega
      have inside : ((List.range (n.endpoints.length + 2)).map
          fun k => UInt16.ofNat (n.nextPort + k)) ⊆ 0 :: n.endpoints.map (·.address.port) := by
        intro port member
        obtain ⟨k, k_mem, rfl⟩ := List.mem_map.1 member
        exact taken k (List.mem_range.1 k_mem)
      have within := distinct.subperm inside
      have fewer := within.length_le
      simp at fewer
    | inr all =>
      -- The candidates go round all the ports.
      have bound := free.toNat_lt
      have hit := taken ((free.toNat + 65536 - n.nextPort % 65536) % 65536) (by omega)
      have same : UInt16.ofNat (n.nextPort + (free.toNat + 65536 - n.nextPort % 65536) % 65536) =
          free := by
        rw [← UInt16.toNat_inj, UInt16.toNat_ofNat']
        omega
      rw [same] at hit
      cases List.mem_cons.1 hit with
      | inl zero => exact nonzero zero
      | inr used =>
        obtain ⟨e, member, port⟩ := List.mem_map.1 used
        exact unused e member port

/-- Only the port of a socket and its address count for what it answers for. -/
theorem overlaps_of_ports {e f : Endpoint} (ports : e.address.port ≠ f.address.port) :
    e.overlaps f = false := by
  simp [Endpoint.overlaps, ports]

theorem bindLocal_isOk_iff {address : SocketAddress} {dualStack : Bool} :
    (∃ e next, n.bindLocal address dualStack = (.ok e, next)) ↔
      Available n.rules n.endpoints address dualStack := by
  cases refused : n.rules.refusal? address.ip dualStack with
  | some e => simp [bindLocal, Available, refused]
  | none =>
    by_cases any_port : address.port = 0
    · have chosen := n.freePort?_isSome_iff
      rw [Available, if_pos any_port, ← chosen]
      cases found : n.freePort? with
      | none => simp [bindLocal, refused, any_port, found]
      | some port =>
        have free := List.find?_some found
        obtain ⟨_, unused⟩ := isFree_iff.1 free
        have apart : n.endpoints.any (Endpoint.mk n.nextNumber ⟨address.ip, UInt16.ofNat port⟩
            dualStack []).overlaps = false := by
          rw [List.any_eq_false]
          intro e member
          rw [overlaps_of_ports (unused e member).symm]
          exact Bool.false_ne_true
        simp [bindLocal, refused, any_port, found, takePort, apart]
    · have apart_iff : n.endpoints.any
          (Endpoint.mk n.nextNumber ⟨address.ip, address.port⟩ dualStack []).overlaps = false ↔
            ∀ e ∈ n.endpoints, (Endpoint.mk 0 address dualStack []).overlaps e = false := by
        simp only [List.any_eq_false, Bool.not_eq_true]
        rfl
      rw [Available, if_neg any_port, ← apart_iff]
      cases taken : n.endpoints.any
          (Endpoint.mk n.nextNumber ⟨address.ip, address.port⟩ dualStack []).overlaps with
      | true => simp [bindLocal, refused, any_port, taken]
      | false => simp [bindLocal, refused, any_port, taken]

/-- Where no fault is in store, a socket can be set up on an address exactly if it is available. -/
theorem bind?_isOk_iff {address : SocketAddress} {dualStack : Bool} (faultless : n.faults = []) :
    (∃ e next, n.bind? address dualStack = (.ok e, next)) ↔
      Available n.rules n.endpoints address dualStack := by
  -- None of the three calls that a fault can hit changes anything.
  have passed : { n with faults := [] } = n := by rw [← faultless]
  rw [← bindLocal_isOk_iff]
  obtain ⟨nextPort, ⟨error, failed⟩ | ⟨port, _, _, made⟩⟩ := bindLocal_cases n address dualStack
  · simp [bind?, trip, faultless, takeFault, passed, failed]
  · simp [bind?, trip, faultless, takeFault, passed, made]

end Network

end TimeServer
