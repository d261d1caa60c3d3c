import TimeServer.Proofs.Address.Client
import TimeServer.Proofs.Config.Validity
import TimeServer.Proofs.Connection.Operation

/-! # Client lists that take effect

The entries of a valid configuration are addresses in any spelling, and the rules compare texts.
An entry works against the peers that it denotes just if it is the text of a canonical address.

* `Config.Denotes`, `Config.IsCanonical` — whom an entry means, and how it has to be spelled;
* `eq_clientAddress_iff` — the entries that the rules take for a peer;
* `parse?_of_validate` — all entries of a valid configuration are addresses;
* `effective_of_validate` — whom a server with such a configuration turns away and whom it serves;
* `ineffective_of_spelling` — entries in other spellings, which do not.
-/

namespace TimeServer

namespace Config

/-- The entry is an address of the peer, in whatever spelling. -/
def Denotes (entry : String) (peer : SocketAddress) : Prop :=
  ∃ ip, IpAddress.parse? entry = some ip ∧ ip.canonical = peer.ip.canonical

/-- The entry is spelled as the text of a canonical address. -/
def IsCanonical (entry : String) : Prop := ∃ ip : IpAddress, entry = ip.canonical.text

variable {entry : String} {peer : SocketAddress}

instance : Decidable (Denotes entry peer) :=
  inferInstanceAs (Decidable (∃ ip ∈ IpAddress.parse? entry, ip.canonical = peer.ip.canonical))

theorem eq_clientAddress_iff :
    entry = clientAddress peer ↔ Denotes entry peer ∧ IsCanonical entry := by
  constructor
  · rintro rfl
    refine ⟨⟨peer.ip.canonical, parse?_clientAddress peer, ?_⟩, peer.ip, rfl⟩
    exact IpAddress.canonical_canonical peer.ip
  · rintro ⟨⟨ip, parsed, same⟩, spelled, rfl⟩
    rw [IpAddress.parse?_text] at parsed
    obtain rfl := Option.some.inj parsed
    rw [IpAddress.canonical_canonical] at same
    rw [clientAddress, same]

/-! ## The rules of a configuration -/

/-- The list has an entry that takes effect for the peer. -/
def Names (clients : List String) (peer : SocketAddress) : Prop :=
  ∃ entry ∈ clients, Denotes entry peer ∧ IsCanonical entry

theorem clientAddress_mem_iff {clients : List String} :
    clientAddress peer ∈ clients ↔ Names clients peer := by
  constructor
  · intro member
    exact ⟨clientAddress peer, member, eq_clientAddress_iff.1 rfl⟩
  · rintro ⟨entry, member, denotes⟩
    rwa [← eq_clientAddress_iff.2 denotes]

variable {c : Config}

theorem check_ne_allow_iff :
    c.settings.accessRules.check (clientAddress peer) ≠ .allow ↔
      Names c.security.deniedClients peer ∨
        c.security.restrictQueries ∧ c.security.allowedClients ≠ [] ∧
          ¬ Names c.security.allowedClients peer := by
  rw [← clientAddress_mem_iff, ← clientAddress_mem_iff]
  exact AccessRules.check_ne_allow_iff

theorem parse?_of_clientsDefect? {field : String} {clients : List String}
    (sound : clientsDefect? field clients = none) :
    ∀ entry ∈ clients, ∃ ip, IpAddress.parse? entry = some ip := by
  intro entry member
  rw [clientsDefect?, Option.map_eq_none_iff, badClient?, List.find?_eq_none] at sound
  have parsed := sound entry member
  rwa [Option.isNone_iff_eq_none, ← Ne, Option.ne_none_iff_exists'] at parsed

theorem parse?_of_validate (valid : c.validate = .ok ()) :
    ∀ entry ∈ c.security.allowedClients ++ c.security.deniedClients,
      ∃ ip, IpAddress.parse? entry = some ip := by
  have lists : clientsDefect? "security.allowed_clients" c.security.allowedClients = none ∧
      clientsDefect? "security.denied_clients" c.security.deniedClients = none := by
    simpa [Security.defect?] using (sections_of_validate valid).2.2.2.1
  intro entry member
  obtain allowed | denied := List.mem_append.1 member
  · exact parse?_of_clientsDefect? lists.1 entry allowed
  · exact parse?_of_clientsDefect? lists.2 entry denied

/-- Under a valid configuration every entry of the client lists is an address.  A peer is turned
    away, without a byte, just if an entry of the deny list that is spelled as a canonical text
    denotes it, or the allow list is enforced and holds entries but none such; and if the deny list
    does not denote it and such an entry of the enforced allow list does, it is sent the time. -/
theorem effective_of_validate (valid : c.validate = .ok ()) (peer : SocketAddress)
    (stream : Stream) (clock : Clock) :
    let turn := (Connection.establish (clientAddress peer) c.settings.accessRules
      stream).connection.perform clock .serve
    (∀ entry ∈ c.security.allowedClients ++ c.security.deniedClients,
        ∃ ip, IpAddress.parse? entry = some ip) ∧
      (turn.result = .served .denied ↔ Names c.security.deniedClients peer ∨
        c.security.restrictQueries ∧ c.security.allowedClients ≠ [] ∧
          ¬ Names c.security.allowedClients peer) ∧
      (turn.result = .served .denied →
        turn.connection.stream.accepted = stream.accepted) ∧
      (c.security.restrictQueries → (∀ entry ∈ c.security.deniedClients, ¬ Denotes entry peer) →
        Names c.security.allowedClients peer → stream.acceptsAll →
          turn.result = .served .served ∧
            turn.connection.stream.accepted = stream.accepted ++ encode clock.now) := by
  intro turn
  have sound := Connection.sound_establish (clientAddress peer) c.settings.accessRules stream
  have step := Connection.step_perform sound clock .serve
  obtain ⟨denied_iff, silent⟩ := step.denied_iff
  refine ⟨parse?_of_validate valid, denied_iff.trans check_ne_allow_iff, silent, ?_⟩
  intro _ not_denied allowed all
  refine step.delivered rfl (fun _ => ?_) rfl all
  refine Decidable.byContradiction fun refused => ?_
  obtain ⟨entry, member, denotes, _⟩ | ⟨_, _, not_allowed⟩ := check_ne_allow_iff.1 refused
  · exact not_denied entry member denotes
  · exact not_allowed allowed

/-- One client that is served and one that is not, as it comes to an IPv6 socket. -/
def guarded : Config :=
  { security.restrictQueries := true
    security.allowedClients := ["2001:db8::7"]
    security.deniedClients := ["192.0.2.7"] }

theorem effective_of_validate_guarded :
    let guest : SocketAddress := ⟨.v6 ⟨[0x2001, 0xdb8, 0, 0, 0, 0, 0, 7], rfl⟩, 4000⟩
    let stranger : SocketAddress := ⟨.v6 (.mapped ⟨192, 0, 2, 7⟩), 4000⟩
    let turn (peer : SocketAddress) := (Connection.establish (clientAddress peer)
      guarded.settings.accessRules {}).connection.perform ⟨5, 0⟩ .serve
    (turn guest).result = .served .served ∧
      (turn guest).connection.stream.accepted = [0, 0, 0, 5] ∧
      (turn stranger).result = .served .denied ∧
      (turn stranger).connection.stream.accepted = [] := by
  intro guest stranger turn
  have valid : guarded.validate = .ok () := validate_eq_ok_iff.2 (by decide +kernel)
  obtain ⟨_, _, _, served⟩ := effective_of_validate valid guest {} ⟨5, 0⟩
  obtain ⟨_, denied_iff, silent, _⟩ := effective_of_validate valid stranger {} ⟨5, 0⟩
  have named : Names guarded.security.allowedClients guest :=
    clientAddress_mem_iff.1 (by decide +kernel)
  have shunned : Names guarded.security.deniedClients stranger :=
    clientAddress_mem_iff.1 (by decide +kernel)
  obtain ⟨result, accepted⟩ := served rfl (by decide +kernel) named rfl
  have denied := denied_iff.2 (.inl shunned)
  exact ⟨result, accepted, denied, silent denied⟩

/-- Valid lists in other spellings: one that denies a client by its mapped address lets it in, and
    one that allows a client in capitals keeps it out. -/
theorem ineffective_of_spelling :
    let mapped : Config := { security.deniedClients := ["::ffff:127.0.0.1"] }
    let capital : Config :=
      { security.restrictQueries := true, security.allowedClients := ["2001:DB8::7"] }
    let home : SocketAddress := ⟨.v4 .localhost, 4000⟩
    let guest : SocketAddress := ⟨.v6 ⟨[0x2001, 0xdb8, 0, 0, 0, 0, 0, 7], rfl⟩, 4000⟩
    let turn (c : Config) (peer : SocketAddress) := (Connection.establish (clientAddress peer)
      c.settings.accessRules {}).connection.perform ⟨5, 0⟩ .serve
    (mapped.validate = .ok () ∧ (∃ entry ∈ mapped.security.deniedClients, Denotes entry home) ∧
        (turn mapped home).result = .served .served ∧
        (turn mapped home).connection.stream.accepted = [0, 0, 0, 5]) ∧
      capital.validate = .ok () ∧ (∃ entry ∈ capital.security.allowedClients, Denotes entry guest) ∧
        capital.security.deniedClients = [] ∧ (turn capital guest).result = .served .denied := by
  intro mapped capital home guest turn
  rw [validate_eq_ok_iff, validate_eq_ok_iff]
  decide +kernel

end Config

end TimeServer
