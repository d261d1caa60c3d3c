import TimeServer.Access
import TimeServer.Config.Validity
import TimeServer.Network
import TimeServer.Proofs.Address.Text

/-! # The identity of a client

The text by which the access rules know a client names its canonical address and nothing else.

* `canonical_seenAs` — a client has one canonical address, whichever socket it comes to;
* `clientAddress_eq_iff`, `parse?_clientAddress` — the text of a client tells that address;
* `clientAddress_identifies` — what follows for client lists and for the rules.
-/

namespace TimeServer

/-! ## Canonical addresses -/

namespace IpAddress

theorem canonical_of_unmapped {ip : Ipv6} (unmapped : ip.toMapped? = none) :
    (v6 ip).canonical = v6 ip := by
  simp only [canonical, unmapped]

@[simp] theorem canonical_mapped (ip : Ipv4) : (v6 (.mapped ip)).canonical = v4 ip := by
  simp only [canonical, Ipv6.toMapped?_mapped]

@[simp] theorem canonical_canonical (ip : IpAddress) : ip.canonical.canonical = ip.canonical := by
  cases ip with
  | v4 ip => rfl
  | v6 ip =>
    cases mapped : ip.toMapped? with
    | none => simp only [canonical_of_unmapped mapped]
    | some v4 =>
      rw [Ipv6.eq_mapped_of_toMapped? mapped, canonical_mapped]
      rfl

end IpAddress

/-- A socket shows a client with an address of its own family, but the client stays the same. -/
theorem Endpoint.canonical_seenAs (e : Endpoint) (ip : IpAddress) :
    (e.seenAs ip).canonical = ip.canonical := by
  unfold seenAs
  split
  · exact IpAddress.canonical_mapped _
  · exact IpAddress.canonical_canonical _
  · rfl

@[simp] theorem Endpoint.seenAs_canonical (e : Endpoint) (ip : IpAddress) :
    e.seenAs ip.canonical = e.seenAs ip := by
  cases socket : e.address.ip with
  | v4 => cases ip <;> simp [seenAs, socket]
  | v6 =>
    cases ip with
    | v4 => rfl
    | v6 ip =>
      cases mapped : ip.toMapped? with
      | none => rw [IpAddress.canonical_of_unmapped mapped]
      | some v4 =>
        rw [Ipv6.eq_mapped_of_toMapped? mapped, IpAddress.canonical_mapped]
        simp only [seenAs, socket]

/-- A socket shows two addresses as one exactly if they are the same address. -/
theorem Endpoint.seenAs_eq_iff (e : Endpoint) (ip other : IpAddress) :
    e.seenAs ip = e.seenAs other ↔ ip.canonical = other.canonical := by
  constructor
  · intro same
    rw [← e.canonical_seenAs ip, same, e.canonical_seenAs]
  · intro same
    rw [← e.seenAs_canonical ip, same, e.seenAs_canonical]

/-! ## The text of a client -/

variable {p q : SocketAddress}

theorem parse?_clientAddress (p : SocketAddress) :
    IpAddress.parse? (clientAddress p) = some p.ip.canonical :=
  IpAddress.parse?_text p.ip.canonical

theorem clientAddress_eq_iff :
    clientAddress p = clientAddress q ↔ p.ip.canonical = q.ip.canonical := by
  constructor
  · intro same
    have read := parse?_clientAddress p
    rw [same, parse?_clientAddress q] at read
    exact (Option.some.inj read).symm
  · exact congrArg IpAddress.text

/-! ## Client lists -/

namespace Config

/-- The configuration with one more client on its allow list. -/
def allow (c : Config) (client : String) : Config :=
  { c with security.allowedClients := c.security.allowedClients ++ [client] }

/-- The configuration with one more client on its deny list. -/
def deny (c : Config) (client : String) : Config :=
  { c with security.deniedClients := c.security.deniedClients ++ [client] }

theorem clientsDefect?_append (field : String) (clients : List String) (p : SocketAddress) :
    clientsDefect? field (clients ++ [clientAddress p]) = clientsDefect? field clients := by
  simp [clientsDefect?, badClient?, List.find?_append, parse?_clientAddress]

end Config

theorem AccessRules.check_deny (rules : AccessRules) (client other : String) :
    { rules with denied := rules.denied ++ [client] }.check other =
      if other = client then .deny else rules.check other := by
  by_cases same : other = client <;> simp [check, same]

/-- The text of a client stands for its canonical address and for nothing else: two peers share it
    just if they share that address, and it is read as that address, so that it can be added to the
    lists of any configuration.  Hence the rules say the same about a client at whichever sockets it
    arrives, and to deny a client denies all peers with its address and no other. -/
theorem clientAddress_identifies (p q : SocketAddress) :
    (clientAddress p = clientAddress q ↔ p.ip.canonical = q.ip.canonical) ∧
      IpAddress.parse? (clientAddress p) = some p.ip.canonical ∧
      (∀ c : Config, (c.allow (clientAddress p)).validate = c.validate ∧
        (c.deny (clientAddress p)).validate = c.validate) ∧
      (∀ (rules : AccessRules) (e f : Endpoint) (ip : IpAddress) (port port' : UInt16),
        rules.check (clientAddress ⟨e.seenAs ip, port⟩) =
          rules.check (clientAddress ⟨f.seenAs ip, port'⟩)) ∧
      ∀ rules : AccessRules,
        { rules with denied := rules.denied ++ [clientAddress p] }.check (clientAddress q) =
          if q.ip.canonical = p.ip.canonical then .deny else rules.check (clientAddress q) := by
  refine ⟨clientAddress_eq_iff, parse?_clientAddress p, fun c => ?_, ?_, fun rules => ?_⟩
  · constructor <;>
      simp only [Config.validate, Config.defect?, Config.Security.defect?, Config.allow,
        Config.deny, Config.clientsDefect?_append]
  · intro rules e f ip port port'
    have same : clientAddress ⟨e.seenAs ip, port⟩ = clientAddress ⟨f.seenAs ip, port'⟩ := by
      rw [clientAddress_eq_iff, e.canonical_seenAs, f.canonical_seenAs]
    rw [same]
  · rw [AccessRules.check_deny]
    simp only [clientAddress_eq_iff]

end TimeServer
