import TimeServer.Network
import Mathlib.Algebra.GroupWithZero.Nat
import Mathlib.Data.List.Basic
import Mathlib.Data.List.Nodup
import Mathlib.Data.List.Pairwise

/-! # What calls do to the network

* `Network.sockets` — which sockets there are, whoever waits at them;
* `Network.Spent` — that calls were made, by the faults that are left;
* `take?_cases`, `connect_of_reached`, `bindLocal_cases` — the calls, by what they do to the
  sockets, to those that wait, and to the faults;
* `Network.Sound` — no two sockets have one number or answer for one address.
-/

namespace TimeServer

/-- The socket without the clients that wait at it. -/
def Endpoint.socket (e : Endpoint) : Endpoint := { e with backlog := [] }

@[simp] theorem Endpoint.number_socket (e : Endpoint) : e.socket.number = e.number := rfl

namespace Network

/-- The sockets of the host, without the clients that wait at them. -/
def sockets (n : Network) : List Endpoint := n.endpoints.map Endpoint.socket

/-- No two sockets have one number or answer for one address, and later numbers are new. -/
structure Sound (n : Network) : Prop where
  distinct : (n.sockets.map Endpoint.number).Nodup
  fresh : ∀ e ∈ n.sockets, e.number < n.nextNumber
  apart : n.sockets.Pairwise fun e f => e.overlaps f = false

theorem sound_empty : Sound {} := ⟨List.nodup_nil, by simp [sockets], .nil⟩

variable {n : Network} {number other : Nat}

/-! ## Backlogs -/

@[simp] theorem sockets_changeBacklog (n : Network) (number : Nat)
    (change : List Arrival → List Arrival) :
    (n.changeBacklog number change).sockets = n.sockets := by
  simp only [sockets, changeBacklog, List.map_map]
  apply List.map_congr_left
  intro e _
  simp only [Function.comp_apply]
  split <;> rfl

theorem mem_sockets_iff : number ∈ n.sockets.map Endpoint.number ↔
    (n.endpoints.find? (·.number == number)).isSome := by
  simp [sockets, Endpoint.socket]

theorem backlog_changeBacklog (change : List Arrival → List Arrival)
    (bound : number ∈ n.sockets.map Endpoint.number) (other : Nat) :
    (n.changeBacklog number change).backlog other =
      if other = number then change (n.backlog number) else n.backlog other := by
  have same_number : ∀ e : Endpoint,
      (if e.number = number then { e with backlog := change e.backlog } else e).number =
        e.number := by
    intro e
    split <;> rfl
  simp only [backlog, changeBacklog, List.find?_map, Function.comp_def, same_number]
  cases found : n.endpoints.find? (·.number == other) with
  | none =>
    -- The socket that is changed is there, so this is another one.
    have unbound : other ≠ number := by
      rintro rfl
      rw [mem_sockets_iff, found] at bound
      cases bound
    simp [unbound]
  | some e =>
    have is_other : e.number = other := by simpa using List.find?_some found
    subst is_other
    by_cases same : e.number = number
    · subst same
      simp [found]
    · simp [same]

theorem mem_sockets_of_backlog (waits : n.backlog number ≠ []) :
    number ∈ n.sockets.map Endpoint.number := by
  rw [mem_sockets_iff, Option.isSome_iff_ne_none]
  intro unbound
  simp [backlog, unbound] at waits

/-! ## Faults -/

theorem length_takeFault (call : Syscall) (faults : List Fault) :
    (takeFault call faults).2.length + (if (takeFault call faults).1.isSome then 1 else 0) =
      faults.length := by
  fun_induction takeFault call faults with
  | case1 => rfl
  | case2 => rfl
  | case3 => rfl
  | case4 f faults _ code rest e ih =>
    simp only [e] at ih
    simp only [List.length_cons]
    omega

/-- Calls were made: some of the faults that were in store for them have been met. -/
def Spent (faults rest : List Fault) : Prop :=
  (rest.map Fault.call).Sublist (faults.map Fault.call)

theorem Spent.refl (faults : List Fault) : Spent faults faults := List.Sublist.refl _

theorem Spent.trans {faults rest last : List Fault} (first : Spent faults rest)
    (second : Spent rest last) : Spent faults last :=
  List.Sublist.trans second first

theorem Spent.length_le {faults rest : List Fault} (spent : Spent faults rest) :
    rest.length ≤ faults.length := by
  simpa using List.Sublist.length_le spent

theorem Spent.of_nil {rest : List Fault} (spent : Spent [] rest) : rest = [] :=
  List.map_eq_nil_iff.1 (List.sublist_nil.1 spent)

theorem Spent.all {faults rest : List Fault} (spent : Spent faults rest) (calls : Syscall → Prop)
    (all : ∀ f ∈ faults, calls f.call) : ∀ f ∈ rest, calls f.call := by
  intro f member
  obtain ⟨g, g_mem, same⟩ :=
    List.mem_map.1 (List.Sublist.subset spent (List.mem_map_of_mem (f := Fault.call) member))
  exact same ▸ all g g_mem

theorem spent_takeFault (call : Syscall) (faults : List Fault) :
    Spent faults (takeFault call faults).2 := by
  fun_induction takeFault call faults with
  | case1 => exact .slnil
  | case2 => exact List.sublist_cons_self _ _
  | case3 => exact List.Sublist.refl _
  | case4 f faults _ code rest e ih =>
    simp only [e] at ih
    exact List.Sublist.cons_cons _ ih

theorem takeFault_of_absent {call : Syscall} {faults : List Fault}
    (absent : ∀ f ∈ faults, f.call ≠ call) : takeFault call faults = (none, faults) := by
  induction faults with
  | nil => rfl
  | cons f faults ih =>
    have rest := ih fun g member => absent g (List.mem_cons_of_mem _ member)
    simp [takeFault, absent f List.mem_cons_self, rest]

theorem mem_of_takeFault {call : Syscall} {faults : List Fault} {code : Nat}
    (met : (takeFault call faults).1 = some code) :
    ∃ f ∈ faults, f.call = call ∧ f.code = code := by
  fun_induction takeFault call faults with
  | case1 => cases met
  | case2 f faults here =>
    cases met
    exact ⟨f, List.mem_cons_self, here, rfl⟩
  | case3 => cases met
  | case4 f faults _ code' rest e ih =>
    simp only [e] at ih
    obtain ⟨g, member, found⟩ := ih met
    exact ⟨g, List.mem_cons_of_mem _ member, found⟩

theorem fst_takeFault_takeFault {call other : Syscall} (distinct : other ≠ call)
    (faults : List Fault) :
    (takeFault call (takeFault other faults).2).1 = (takeFault call faults).1 := by
  fun_induction takeFault other faults with
  | case1 => rfl
  | case2 f faults here | case3 f faults here =>
    have elsewhere : f.call ≠ call := here ▸ distinct
    simp [takeFault, elsewhere]
  | case4 f faults _ code rest e ih =>
    simp only [e] at ih
    by_cases here : f.call = call <;> simp only [takeFault, here, if_true, if_false, ih]
    split <;> rfl

theorem fst_trip_trip {call other : Syscall} (distinct : other ≠ call) (n : Network) :
    ((n.trip other).2.trip call).1 = (n.trip call).1 :=
  congrArg (Option.map IoError.os) (fst_takeFault_takeFault distinct n.faults)

/-! ## Accepting -/

/-- The ways an accept call goes on once it was made: nobody waits, or it takes the first that waits
    and then succeeds or fails. -/
theorem take?_cases (n : Network) (number : Nat) :
    (n.take? number = (none, n) ∧ n.backlog number = []) ∨
    ∃ arrival rest result faults, n.backlog number = arrival :: rest ∧
      n.take? number = (some result, { n.changeBacklog number (fun _ => rest) with faults }) ∧
        Spent n.faults faults ∧ (result = .ok arrival ∨ ∃ e, result = .error e) := by
  cases waits : n.backlog number with
  | nil => exact .inl ⟨by simp [take?, waits], rfl⟩
  | cons arrival rest =>
    have spent := spent_takeFault .acceptLate n.faults
    refine .inr ⟨arrival, rest, ?_⟩
    rcases late : takeFault .acceptLate n.faults with ⟨_ | code, faults⟩
    · rw [late] at spent
      exact ⟨.ok arrival, faults, rfl, by simp [take?, waits, trip, late, changeBacklog], spent,
        .inl rfl⟩
    · rw [late] at spent
      exact ⟨.error (.os code), faults, rfl, by simp [take?, waits, trip, late, changeBacklog],
        spent, .inr ⟨_, rfl⟩⟩

/-- The client that an accept call takes was the first that waited; the others still wait. -/
theorem backlog_of_take? {result : Except IoError Arrival} {next : Network}
    (ended : n.take? number = (some result, next)) :
    ∃ arrival, n.backlog number = arrival :: next.backlog number ∧
      (result = .ok arrival ∨ ∃ e, result = .error e) := by
  obtain ⟨none_waits, _⟩ | ⟨arrival, rest, result, faults, waits, took, _, outcome⟩ :=
    n.take?_cases number
  · rw [none_waits] at ended
    cases ended
  · rw [took] at ended
    obtain ⟨same, rfl⟩ := Prod.mk.inj ended
    cases same
    have bound : number ∈ n.sockets.map Endpoint.number :=
      mem_sockets_of_backlog (waits ▸ List.cons_ne_nil _ _)
    have left : (n.changeBacklog number fun _ => rest).backlog number = rest :=
      (backlog_changeBacklog (fun _ => rest) bound number).trans (if_pos rfl)
    refine ⟨arrival, ?_, outcome⟩
    rw [waits]
    exact congrArg (arrival :: ·) left.symm

theorem backlog_of_take?_none {next : Network} (ended : n.take? number = (none, next)) :
    n.backlog number = [] ∧ next = n := by
  obtain ⟨none_waits, empty⟩ | ⟨_, _, _, _, _, took, _⟩ := n.take?_cases number
  · rw [none_waits] at ended
    cases ended
    exact ⟨empty, rfl⟩
  · rw [took] at ended
    cases ended

theorem sockets_take? (n : Network) (number : Nat) :
    (n.take? number).2.sockets = n.sockets ∧ (n.take? number).2.nextNumber = n.nextNumber := by
  obtain ⟨ended, _⟩ | ⟨_, rest, _, _, _, ended, _⟩ := n.take?_cases number
  · rw [ended]
    exact ⟨rfl, rfl⟩
  · rw [ended]
    exact ⟨n.sockets_changeBacklog number fun _ => rest, rfl⟩

theorem spent_take? (n : Network) (number : Nat) :
    Spent n.faults (n.take? number).2.faults := by
  obtain ⟨ended, _⟩ | ⟨_, _, _, _, _, ended, spent, _⟩ := n.take?_cases number
  · rw [ended]
    exact .refl _
  · rw [ended]
    exact spent

theorem rules_take? (n : Network) (number : Nat) : (n.take? number).2.rules = n.rules := by
  obtain ⟨ended, _⟩ | ⟨_, _, _, _, _, ended, _⟩ := n.take?_cases number
  all_goals exact congrArg (·.2.rules) ended

theorem trip_cases (n : Network) (call : Syscall) : ∃ faults, Spent n.faults faults ∧
    (n.trip call = (none, { n with faults }) ∨
      ∃ code, n.trip call = (some (.os code), { n with faults }) ∧
        faults.length < n.faults.length) := by
  have fewer := length_takeFault call n.faults
  have spent := spent_takeFault call n.faults
  rcases tripped : takeFault call n.faults with ⟨_ | code, faults⟩
  · rw [tripped] at spent
    exact ⟨faults, spent, .inl (by simp [trip, tripped])⟩
  · rw [tripped] at spent fewer
    refine ⟨faults, spent, .inr ⟨code, by simp [trip, tripped], ?_⟩⟩
    simp only [Option.isSome_some, if_true] at fewer
    omega

theorem length_of_trip {call : Syscall} {e : IoError} {next : Network}
    (failed : n.trip call = (some e, next)) : next.faults.length < n.faults.length := by
  obtain ⟨faults, _, passed | ⟨code, tripped, fewer⟩⟩ := n.trip_cases call
  · rw [passed] at failed
    cases failed
  · rw [tripped] at failed
    cases failed
    exact fewer

theorem trip_of_absent {call : Syscall} (absent : ∀ f ∈ n.faults, f.call ≠ call) :
    n.trip call = (none, n) := by
  simp [trip, takeFault_of_absent absent]

/-- Where no fault is in store for it, an accept call takes the first client that waits. -/
theorem take?_of_faultless (number : Nat) (faultless : ∀ f ∈ n.faults, f.call ≠ .acceptLate) :
    (n.take? number = (none, n) ∧ n.backlog number = []) ∨
      ∃ arrival rest, n.backlog number = arrival :: rest ∧
        n.take? number = (some (.ok arrival), n.changeBacklog number fun _ => rest) := by
  cases waits : n.backlog number with
  | nil => exact .inl ⟨by simp [take?, waits], rfl⟩
  | cons arrival rest =>
    have passes : (n.changeBacklog number fun _ => rest).trip .acceptLate =
        (none, n.changeBacklog number fun _ => rest) := trip_of_absent faultless
    exact .inr ⟨arrival, rest, rfl, by simp [take?, waits, passes]⟩

theorem fst_trip_take? {call : Syscall} (distinct : .acceptLate ≠ call) (n : Network)
    (number : Nat) : ((n.take? number).2.trip call).1 = (n.trip call).1 := by
  cases waits : n.backlog number with
  | nil => simp [take?, waits]
  | cons arrival rest =>
    have late := (n.changeBacklog number fun _ => rest).fst_trip_trip distinct
    simp only [take?, waits]
    rcases tripped : (n.changeBacklog number fun _ => rest).trip .acceptLate with ⟨_ | e, network⟩
    all_goals
      rw [tripped] at late
      exact late

theorem pending_eq_sum (n : Network) : n.pending = (n.endpoints.map (·.backlog.length)).sum := rfl

theorem pending_changeBacklog {arrival : Arrival} {rest : List Arrival}
    (distinct : (n.sockets.map Endpoint.number).Nodup)
    (waits : n.backlog number = arrival :: rest) :
    (n.changeBacklog number fun _ => rest).pending + 1 = n.pending := by
  have bound := mem_sockets_of_backlog (waits ▸ List.cons_ne_nil arrival rest)
  rw [mem_sockets_iff, Option.isSome_iff_exists] at bound
  obtain ⟨e, found⟩ := bound
  have backlog_eq : e.backlog = arrival :: rest := by simpa [backlog, found] using waits
  obtain ⟨is_number, before, after, split, others⟩ := List.find?_eq_some_iff_append.1 found
  rw [beq_iff_eq] at is_number
  subst is_number
  -- The sockets on both sides of this one have other numbers, so their backlogs stay.
  have kept_before : ∀ f ∈ before, f.number ≠ e.number := fun f member => by
    simpa using others f member
  have kept_after : ∀ f ∈ after, f.number ≠ e.number := by
    intro f member same
    simp only [sockets, split, List.map_append, List.map_cons, List.map_map, List.nodup_append,
      List.nodup_cons] at distinct
    exact distinct.2.1.1 (List.mem_map.2 ⟨f, member, same⟩)
  have kept : ∀ fs : List Endpoint, (∀ f ∈ fs, f.number ≠ e.number) →
      (fs.map fun f =>
        (if f.number = e.number then { f with backlog := rest } else f).backlog.length) =
          fs.map (·.backlog.length) := by
    intro fs distinct
    exact List.map_congr_left fun f member => by rw [if_neg (distinct f member)]
  simp only [pending_eq_sum, changeBacklog, split, List.map_append, List.map_cons, List.map_map,
    Function.comp_def, kept before kept_before, kept after kept_after, if_true, List.sum_append,
    List.sum_cons, backlog_eq, List.length_cons]
  omega

theorem pending_of_take? {result : Except IoError Arrival} {next : Network}
    (distinct : (n.sockets.map Endpoint.number).Nodup)
    (ended : n.take? number = (some result, next)) :
    next.pending + 1 = n.pending ∧ next.faults.length ≤ n.faults.length := by
  obtain ⟨none_waits, _⟩ | ⟨_, _, _, _, waits, took, spent, _⟩ := n.take?_cases number
  · rw [none_waits] at ended
    cases ended
  · rw [took] at ended
    cases ended
    exact ⟨pending_changeBacklog distinct waits, spent.length_le⟩

/-! ## Connecting -/

theorem connect_of_unreached {target : SocketAddress} (source : SocketAddress)
    (stream : Stream) (unreached : n.reach? target = none) :
    n.connect source target stream = (.error (.os 111), n) := by
  simp [connect, unreached]

/-- A client that comes is the last in the backlog of the socket that it reaches. -/
theorem connect_of_reached {source target : SocketAddress} {stream : Stream} {e : Endpoint}
    (reached : n.reach? target = some e) :
    n.connect source target stream =
      (.ok n.nextNumber,
        { n.changeBacklog e.number
            (· ++ [⟨n.nextNumber, ⟨e.seenAs (n.rules.shown source.ip), source.port⟩, stream⟩]) with
          nextNumber := n.nextNumber + 1 }) := by
  simp [connect, reached, changeBacklog]

theorem mem_sockets_of_reached {target : SocketAddress} {e : Endpoint}
    (reached : n.reach? target = some e) : e.number ∈ n.sockets.map Endpoint.number := by
  simp only [sockets, List.map_map, List.mem_map]
  exact ⟨e, List.mem_of_find?_eq_some reached, rfl⟩

theorem backlog_connect {source target : SocketAddress} {stream : Stream} {e : Endpoint}
    (reached : n.reach? target = some e) (other : Nat) :
    (n.connect source target stream).2.backlog other =
      if other = e.number then
        n.backlog e.number ++
          [⟨n.nextNumber, ⟨e.seenAs (n.rules.shown source.ip), source.port⟩, stream⟩]
      else n.backlog other := by
  rw [connect_of_reached reached]
  exact backlog_changeBacklog
    (· ++ [⟨n.nextNumber, ⟨e.seenAs (n.rules.shown source.ip), source.port⟩, stream⟩])
    (mem_sockets_of_reached reached) other

theorem sockets_connect (n : Network) (source target : SocketAddress) (stream : Stream) :
    (n.connect source target stream).2.sockets = n.sockets ∧
      n.nextNumber ≤ (n.connect source target stream).2.nextNumber := by
  cases reached : n.reach? target with
  | none =>
    rw [connect_of_unreached _ _ reached]
    exact ⟨rfl, Nat.le_refl _⟩
  | some e =>
    rw [connect_of_reached reached]
    have same := n.sockets_changeBacklog e.number
      (· ++ [⟨n.nextNumber, ⟨e.seenAs (n.rules.shown source.ip), source.port⟩, stream⟩])
    exact ⟨same, Nat.le_succ _⟩

theorem faults_connect (n : Network) (source target : SocketAddress) (stream : Stream) :
    (n.connect source target stream).2.faults = n.faults ∧
      (n.connect source target stream).2.rules = n.rules := by
  cases reached : n.reach? target with
  | none =>
    rw [connect_of_unreached _ _ reached]
    exact ⟨rfl, rfl⟩
  | some e =>
    rw [connect_of_reached reached]
    exact ⟨rfl, rfl⟩

/-! ## Closing -/

@[simp] theorem sockets_close (n : Network) (number : Nat) :
    (n.close number).sockets = n.sockets.filter (·.number != number) := by
  simp only [sockets, close, List.filter_map]
  rfl

theorem notMem_sockets_close (n : Network) (number : Nat) :
    number ∉ (n.close number).sockets.map Endpoint.number := by
  simp

theorem backlog_close (n : Network) (number other : Nat) :
    (n.close number).backlog other = if other = number then [] else n.backlog other := by
  simp only [backlog, close, List.find?_filter]
  split
  · rename_i same
    subst same
    have gone : n.endpoints.find? (fun e => e.number != other ∧ e.number == other) = none := by
      simp
    simp only [gone, Option.map_none, Option.getD_none]
  · rename_i different
    have same_test : ∀ e : Endpoint, (decide (e.number != number ∧ e.number == other)) =
        (e.number == other) := by
      intro e
      by_cases is_other : e.number = other <;> simp [is_other, different]
    simp only [same_test]

theorem pending_close (n : Network) (number : Nat) : (n.close number).pending ≤ n.pending := by
  simp only [pending_eq_sum, close]
  induction n.endpoints with
  | nil => exact Nat.le_refl _
  | cons e endpoints ih =>
    rw [List.filter_cons]
    split <;> simp only [List.map_cons, List.sum_cons] <;> omega

/-! ## Binding -/

/-- The ways binding a socket ends: it fails, or the socket is a new one on the address asked for,
    which answers for none that another answers for. -/
theorem bindLocal_cases (n : Network) (address : SocketAddress) (dualStack : Bool) :
    ∃ nextPort,
      (∃ error, n.bindLocal address dualStack = (.error error, { n with nextPort })) ∨
      ∃ port, (address.port ≠ 0 → port = address.port) ∧
        (∀ f ∈ n.endpoints,
          (Endpoint.mk n.nextNumber ⟨address.ip, port⟩ dualStack []).overlaps f = false) ∧
        n.bindLocal address dualStack =
          (.ok ⟨n.nextNumber, ⟨address.ip, port⟩, dualStack, []⟩,
            { n with
              nextPort
              endpoints := n.endpoints ++ [⟨n.nextNumber, ⟨address.ip, port⟩, dualStack, []⟩]
              nextNumber := n.nextNumber + 1 }) := by
  cases refused : n.rules.refusal? address.ip dualStack with
  | some e => exact ⟨n.nextPort, .inl ⟨e, by simp [bindLocal, refused]⟩⟩
  | none =>
    by_cases crowded : address.port = 0 ∧ n.freePort? = none
    · exact ⟨n.nextPort, .inl ⟨.os 98, by simp [bindLocal, refused, crowded]⟩⟩
    · rcases chosen : (if address.port = 0 then n.takePort else (address.port, n)) with ⟨port, n'⟩
      have named : address.port ≠ 0 → port = address.port := by
        intro nonzero
        rw [if_neg nonzero] at chosen
        exact (congrArg Prod.fst chosen).symm
      -- Choosing a port moves on the search for the next one and does nothing else.
      have same : ∃ nextPort, n' = { n with nextPort } := by
        split at chosen
        · exact ⟨_, (congrArg Prod.snd chosen).symm⟩
        · exact ⟨n.nextPort, (congrArg Prod.snd chosen).symm⟩
      obtain ⟨nextPort, rfl⟩ := same
      refine ⟨nextPort, ?_⟩
      by_cases taken :
          n.endpoints.any (Endpoint.mk n.nextNumber ⟨address.ip, port⟩ dualStack []).overlaps
      · exact .inl ⟨.os 98, by simp [bindLocal, refused, crowded, chosen, taken]⟩
      · refine .inr ⟨port, named, ?_, by simp [bindLocal, refused, crowded, chosen, taken]⟩
        simpa using taken

/-- The ways setting up a socket ends: it fails before or after the socket is bound, or the socket
    is a new one, on the address asked for, and answers for none that another answers for. -/
theorem bind?_cases (n : Network) (address : SocketAddress) (dualStack : Bool) :
    ∃ faults nextPort, Spent n.faults faults ∧
      ((∃ error, n.bind? address dualStack = (.error error, { n with faults, nextPort })) ∨
        ∃ e : Endpoint, e.number = n.nextNumber ∧ e.backlog = [] ∧ e.address.ip = address.ip ∧
          (∀ f ∈ n.endpoints, e.overlaps f = false) ∧
          (n.bind? address dualStack = (.ok e,
              { n with
                faults, nextPort
                endpoints := n.endpoints ++ [e]
                nextNumber := n.nextNumber + 1 }) ∨
            ∃ error, n.bind? address dualStack = (.error error,
              { n with
                faults, nextPort
                endpoints := n.endpoints ++ [e]
                nextNumber := n.nextNumber + 1 }.close n.nextNumber))) := by
  obtain ⟨faults, spent, created | ⟨code, failed, _⟩⟩ := n.trip_cases .socket
  · obtain ⟨faults', spent', passed | ⟨code, failed, _⟩⟩ :=
      Network.trip_cases { n with faults } .bind
    · obtain ⟨nextPort, ⟨error, failed⟩ | ⟨port, _, apart, made⟩⟩ :=
        bindLocal_cases { n with faults := faults' } address dualStack
      · exact ⟨faults', nextPort, spent.trans spent', .inl ⟨error, by
          simp [bind?, created, passed, failed]⟩⟩
      · obtain ⟨last, spent_last, listens | ⟨code, refused, _⟩⟩ := Network.trip_cases
          { n with
            faults := faults', nextPort
            endpoints := n.endpoints ++ [⟨n.nextNumber, ⟨address.ip, port⟩, dualStack, []⟩]
            nextNumber := n.nextNumber + 1 } .listen
        · exact ⟨last, nextPort, spent.trans (spent'.trans spent_last), .inr
            ⟨_, rfl, rfl, rfl, apart, .inl (by simp [bind?, created, passed, made, listens])⟩⟩
        · exact ⟨last, nextPort, spent.trans (spent'.trans spent_last), .inr
            ⟨_, rfl, rfl, rfl, apart, .inr ⟨.os code, by
              simp [bind?, created, passed, made, refused]⟩⟩⟩
    · exact ⟨faults', n.nextPort, spent.trans spent', .inl ⟨.os code, by
        simp [bind?, created, failed]⟩⟩
  · exact ⟨faults, n.nextPort, spent, .inl ⟨.os code, by simp [bind?, failed]⟩⟩

/-- A socket that was set up is a new one, on the address asked for, and answers for none that
    another answers for. -/
theorem of_bind?_ok {address : SocketAddress} {dualStack : Bool} {e : Endpoint} {next : Network}
    (bound : n.bind? address dualStack = (.ok e, next)) :
    e.number = n.nextNumber ∧ e.backlog = [] ∧ e.address.ip = address.ip ∧
      (∀ f ∈ n.endpoints, e.overlaps f = false) ∧
      next.endpoints = n.endpoints ++ [e] ∧ next.nextNumber = n.nextNumber + 1 := by
  obtain ⟨faults, nextPort, _, ⟨error, failed⟩ |
    ⟨f, number, empty, ip, apart, made | ⟨error, failed⟩⟩⟩ := n.bind?_cases address dualStack
  · rw [failed] at bound
    cases bound
  · rw [made] at bound
    cases bound
    exact ⟨number, empty, ip, apart, rfl, rfl⟩
  · rw [failed] at bound
    cases bound

theorem of_bind?_error {address : SocketAddress} {dualStack : Bool} {error : IoError}
    {next : Network} (fresh : ∀ e ∈ n.sockets, e.number < n.nextNumber)
    (unbound : n.bind? address dualStack = (.error error, next)) :
    next.endpoints = n.endpoints ∧ n.nextNumber ≤ next.nextNumber := by
  obtain ⟨faults, nextPort, _, ⟨error, failed⟩ |
    ⟨f, number, empty, ip, apart, made | ⟨error, failed⟩⟩⟩ := n.bind?_cases address dualStack
  · rw [failed] at unbound
    cases unbound
    exact ⟨rfl, Nat.le_refl _⟩
  · rw [made] at unbound
    cases unbound
  · rw [failed] at unbound
    cases unbound
    refine ⟨?_, Nat.le_succ _⟩
    -- Only the new socket has its number.
    have others : n.endpoints.filter (·.number != n.nextNumber) = n.endpoints := by
      rw [List.filter_eq_self]
      intro e member
      have older := fresh e.socket (List.mem_map_of_mem member)
      simp only [bne_iff_ne, ne_eq]
      exact Nat.ne_of_lt older
    simp [close, others, number]

theorem spent_bind? (n : Network) (address : SocketAddress) (dualStack : Bool) :
    Spent n.faults (n.bind? address dualStack).2.faults := by
  obtain ⟨faults, nextPort, spent, ⟨error, ended⟩ |
    ⟨f, _, _, _, _, ended | ⟨error, ended⟩⟩⟩ := n.bind?_cases address dualStack
  all_goals
    rw [ended]
    exact spent

theorem rules_bind? (n : Network) (address : SocketAddress) (dualStack : Bool) :
    (n.bind? address dualStack).2.rules = n.rules := by
  obtain ⟨faults, nextPort, _, ⟨error, ended⟩ |
    ⟨f, _, _, _, _, ended | ⟨error, ended⟩⟩⟩ := n.bind?_cases address dualStack
  all_goals exact congrArg (·.2.rules) ended

theorem backlog_of_append {next : Network} {e : Endpoint}
    (grown : next.endpoints = n.endpoints ++ [e]) (empty : e.backlog = []) (number : Nat) :
    next.backlog number = n.backlog number := by
  simp only [backlog, grown, List.find?_append]
  cases found : n.endpoints.find? (·.number == number) with
  | some _ => rfl
  | none =>
    by_cases same : e.number = number <;> simp [same, empty]

/-! ## Soundness -/

/-- No socket has come, and the numbers in use are still in use. -/
structure Shrinks (n next : Network) : Prop where
  sockets : next.sockets.Sublist n.sockets
  later : n.nextNumber ≤ next.nextNumber

theorem Shrinks.of_eq {next : Network} (same : next.sockets = n.sockets)
    (later : n.nextNumber ≤ next.nextNumber) : n.Shrinks next :=
  ⟨same ▸ List.Sublist.refl _, later⟩

theorem shrinks_connect (n : Network) (source target : SocketAddress) (stream : Stream) :
    n.Shrinks (n.connect source target stream).2 :=
  .of_eq (n.sockets_connect source target stream).1 (n.sockets_connect source target stream).2

theorem shrinks_close (n : Network) (number : Nat) : n.Shrinks (n.close number) :=
  ⟨by rw [sockets_close]; exact List.filter_sublist, Nat.le_refl _⟩

theorem Shrinks.sound {next : Network} (shrinks : n.Shrinks next) (sound : n.Sound) :
    next.Sound where
  distinct := sound.distinct.sublist (shrinks.sockets.map _)
  fresh e member := Nat.lt_of_lt_of_le (sound.fresh e (shrinks.sockets.subset member)) shrinks.later
  apart := sound.apart.sublist shrinks.sockets

theorem overlaps_of_covers {e f : Endpoint} {ip : IpAddress}
    (port : e.address.port = f.address.port) (first : e.covers ip)
    (second : f.covers ip) : e.overlaps f := by
  simp only [Endpoint.overlaps, port, beq_self_eq_true, Bool.true_and, Bool.or_eq_true]
  simp only [Endpoint.covers, Bool.or_eq_true, Bool.and_eq_true, beq_iff_eq] at *
  generalize e.address.ip.canonical = b at *
  generalize f.address.ip.canonical = c at *
  obtain rfl | ⟨b_all, b_family⟩ := first
  · exact .inr second
  obtain rfl | ⟨c_all, c_family⟩ := second
  · exact .inl (.inr ⟨b_all, b_family⟩)
  -- Both answer for every address of a family.
  cases b with
  | v4 b =>
    cases c with
    | v4 c => simp_all [IpAddress.isUnspecified]
    | v6 c => simp_all [IpAddress.isIpv6]
  | v6 b =>
    cases c with
    | v4 c => simp_all [IpAddress.isIpv6]
    | v6 c => simp_all [IpAddress.isUnspecified]

theorem overlaps_comm (e f : Endpoint) : e.overlaps f = f.overlaps e := by
  simp only [Endpoint.overlaps, Bool.or_comm, BEq.comm]

/-- A connection to an address that a socket answers for reaches that socket. -/
theorem Sound.reach? (sound : n.Sound) {e : Endpoint} (member : e ∈ n.endpoints)
    (target : SocketAddress) (port : e.address.port = target.port) (covers : e.covers target.ip) :
    n.reach? target = some e := by
  have hit : (n.endpoints.find? fun e =>
      e.address.port == target.port && e.covers target.ip).isSome :=
    List.find?_isSome.2 ⟨e, member, by simp [port, covers]⟩
  obtain ⟨f, found⟩ := Option.isSome_iff_exists.1 hit
  have reaches := List.find?_some found
  rw [Bool.and_eq_true, beq_iff_eq] at reaches
  have f_mem := List.mem_of_find?_eq_some found
  suffices f = e by rw [Network.reach?, found, this]
  -- The socket that is found answers for the address too, so it cannot be another one.
  have numbers : (n.endpoints.map Endpoint.number).Nodup := by
    have distinct := sound.distinct
    rwa [sockets, List.map_map] at distinct
  refine List.inj_on_of_nodup_map numbers f_mem member (by_contra fun differ => ?_)
  have symmetric : Std.Symm fun e f : Endpoint => e.overlaps f = false :=
    ⟨fun e f apart => overlaps_comm e f ▸ apart⟩
  have apart := sound.apart.forall (List.mem_map_of_mem (f := Endpoint.socket) f_mem)
    (List.mem_map_of_mem (f := Endpoint.socket) member)
    fun same => differ (by rw [← f.number_socket, same, e.number_socket])
  have overlaps := overlaps_of_covers (reaches.1.trans port.symm) reaches.2 covers
  exact Bool.false_ne_true (apart.symm.trans overlaps)

theorem Sound.bind {address : SocketAddress} {dualStack : Bool} {e : Endpoint} {next : Network}
    (sound : n.Sound) (bound : n.bind? address dualStack = (.ok e, next)) : next.Sound := by
  obtain ⟨number_eq, empty, _, apart, grown, later⟩ := of_bind?_ok bound
  have sockets_eq : next.sockets = n.sockets ++ [e.socket] := by
    simp [sockets, grown]
  refine ⟨?_, fun f member => ?_, ?_⟩
  · -- The number of the new socket was not in use.
    rw [sockets_eq, List.map_append, List.nodup_append]
    refine ⟨sound.distinct, List.nodup_singleton _, ?_⟩
    intro old old_mem new new_mem same
    obtain ⟨f, f_mem, rfl⟩ := List.mem_map.1 old_mem
    have older := sound.fresh f f_mem
    rw [List.map_singleton, List.mem_singleton] at new_mem
    rw [same, new_mem] at older
    exact Nat.lt_irrefl _ (number_eq ▸ older)
  · rw [later]
    rw [sockets_eq] at member
    cases List.mem_append.1 member with
    | inl old => exact Nat.lt_succ_of_lt (sound.fresh f old)
    | inr new =>
      rw [List.mem_singleton.1 new]
      exact Nat.lt_succ_of_le (Nat.le_of_eq number_eq)
  · rw [sockets_eq, List.pairwise_append]
    refine ⟨sound.apart, List.pairwise_singleton _ _, ?_⟩
    intro f f_mem g g_mem
    obtain ⟨f, member, rfl⟩ := List.mem_map.1 f_mem
    rw [List.mem_singleton.1 g_mem, overlaps_comm]
    exact apart f member

end Network

end TimeServer
