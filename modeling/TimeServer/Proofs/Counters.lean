import TimeServer.Proofs.Stats
import Mathlib.Algebra.BigOperators.Group.List.Basic
import Mathlib.Data.UInt

/-! # Counters as sums

All counters of a server but the gauge only grow, and what a journal adds to each does not depend
on the order of its entries.

* `Stats.read`, `Count.adds`, `Journal.adds` — a counter, and what is added to it;
* `read_record` — the counter after a journal is the sum;
* `adds_of_perm` — the sum is that of any other order;
* `active_count_opened_le`, `active_count_finished_le` — the gauge, whether it wraps or not.
-/

namespace TimeServer

/-- The counters that only grow. -/
inductive Counter
  | total
  | packetsSent
  | packetsReceived
  | bytesSent
  | bytesReceived
  | denied
  | ioErrors
  deriving DecidableEq, Repr

def Stats.read (s : Stats) : Counter → UInt64
  | .total => s.total
  | .packetsSent => s.packetsSent
  | .packetsReceived => s.packetsReceived
  | .bytesSent => s.bytesSent
  | .bytesReceived => s.bytesReceived
  | .denied => s.denied
  | .ioErrors => s.ioErrors

def Count.adds (count : Count) (counter : Counter) : UInt64 :=
  match count with
  | .opened => if counter = .total then 1 else 0
  | .finished => 0
  | .sent bytes =>
    if counter = .packetsSent then 1 else if counter = .bytesSent then bytes else 0
  | .received bytes =>
    if counter = .packetsReceived then 1 else if counter = .bytesReceived then bytes else 0
  | .denied => if counter = .denied then 1 else 0
  | .ioError => if counter = .ioErrors then 1 else 0

namespace Journal

/-- What a journal adds to a counter. -/
def adds (journal : Journal) (counter : Counter) : UInt64 :=
  (journal.counts.map (·.adds counter)).sum

variable {journal : Journal} {counter : Counter}

@[simp] theorem adds_nil : adds [] counter = 0 := rfl

@[simp] theorem adds_note (notice : Notice) :
    adds (.note notice :: journal) counter = adds journal counter := rfl

@[simp] theorem adds_count (count : Count) :
    adds (.count count :: journal) counter = count.adds counter + adds journal counter := by
  simp [adds]

@[simp] theorem adds_append (first second : Journal) :
    adds (first ++ second) counter = adds first counter + adds second counter := by
  simp [adds]

@[simp] theorem adds_notes (notices : List Notice) : adds (notices.map .note) counter = 0 := by
  simp [adds]

theorem adds_flatMap {α : Type} (items : List α) (journal : α → Journal) :
    adds (items.flatMap journal) counter =
      (items.map fun item => adds (journal item) counter).sum := by
  induction items with
  | nil => rfl
  | cons item items ih => simp [ih]

theorem counts_perm {first second : Journal} (same : first.Perm second) :
    first.counts.Perm second.counts :=
  same.filterMap _

theorem adds_of_perm {first second : Journal} (same : first.counts.Perm second.counts) :
    adds first counter = adds second counter :=
  (same.map _).sum_eq

end Journal

namespace Stats

variable (s : Stats)

theorem read_count (count : Count) (counter : Counter) :
    (s.count count).read counter = s.read counter + count.adds counter := by
  cases count <;> cases counter <;> simp [Stats.count, read, Count.adds]

theorem read_record (journal : Journal) (counter : Counter) :
    (s.record journal).read counter = s.read counter + journal.adds counter := by
  induction journal generalizing s with
  | nil => simp
  | cons entry journal ih =>
    cases entry with
    | note notice => simpa using ih s
    | count count => rw [record_count, ih, read_count, Journal.adds_count, UInt64.add_assoc]

theorem eq_of_read {s t : Stats} (active : s.active = t.active)
    (same : ∀ counter, s.read counter = t.read counter) : s = t := by
  obtain ⟨_, _, _, _, _, _, _, _⟩ := s
  obtain ⟨_, _, _, _, _, _, _, _⟩ := t
  have total := same .total
  have packetsSent := same .packetsSent
  have packetsReceived := same .packetsReceived
  have bytesSent := same .bytesSent
  have bytesReceived := same .bytesReceived
  have denied := same .denied
  have ioErrors := same .ioErrors
  simp only [read]
    at active total packetsSent packetsReceived bytesSent bytesReceived denied ioErrors
  subst active total packetsSent packetsReceived bytesSent bytesReceived denied ioErrors
  rfl

/-! ## The gauge -/

theorem active_count_opened_le : (s.count .opened).active.toNat ≤ s.active.toNat + 1 := by
  simp only [count, UInt64.toNat_add]
  exact Nat.mod_le _ _

theorem active_count_finished_le : (s.count .finished).active.toNat ≤ s.active.toNat - 1 := by
  by_cases some_active : 0 < s.active.toNat
  · have finished := s.active_count_finished some_active
    omega
  · have zero : s.active = 0 := UInt64.toNat_inj.1 (by simpa using some_active)
    simp [count, zero]

end Stats

end TimeServer
