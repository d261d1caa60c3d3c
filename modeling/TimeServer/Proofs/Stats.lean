import TimeServer.Connection
import Mathlib.Algebra.GroupWithZero.Nat

/-! # What journals do to the counters

* `counts_append`, `notices_append`, `record_append` — a journal is read entry by entry;
* `Journal.Quiet` — journals that open and finish no connection;
* `record_eq_of_quiet` — what such journals leave alone;
* `active_count_opened`, `active_count_finished` — the gauge while it stays within a word.
-/

namespace TimeServer

namespace Journal

@[simp] theorem counts_nil : counts [] = [] := rfl

@[simp] theorem counts_note (notice : Notice) (journal : Journal) :
    counts (.note notice :: journal) = counts journal := rfl

@[simp] theorem counts_count (count : Count) (journal : Journal) :
    counts (.count count :: journal) = count :: counts journal := rfl

@[simp] theorem counts_append (first second : Journal) :
    counts (first ++ second) = counts first ++ counts second := by
  simp [counts]

@[simp] theorem counts_notes (notices : List Notice) : counts (notices.map .note) = [] := by
  induction notices with
  | nil => rfl
  | cons notice notices ih => simpa using ih

@[simp] theorem notices_nil : notices [] = [] := rfl

@[simp] theorem notices_note (notice : Notice) (journal : Journal) :
    notices (.note notice :: journal) = notice :: notices journal := rfl

@[simp] theorem notices_count (count : Count) (journal : Journal) :
    notices (.count count :: journal) = notices journal := rfl

@[simp] theorem notices_append (first second : Journal) :
    notices (first ++ second) = notices first ++ notices second := by
  simp [notices]

/-- The journal opens no connection and finishes none. -/
def Quiet (journal : Journal) : Prop := .opened ∉ journal.counts ∧ .finished ∉ journal.counts

theorem Quiet.append {first second : Journal} (h : Quiet first) (k : Quiet second) :
    Quiet (first ++ second) := by
  simp only [Quiet, counts_append, List.mem_append] at *
  exact ⟨fun m => m.elim h.1 k.1, fun m => m.elim h.2 k.2⟩

theorem quiet_notes (notices : List Notice) : Quiet (notices.map .note) := by
  simp [Quiet]

end Journal

namespace Stats

@[simp] theorem record_nil (s : Stats) : s.record [] = s := rfl

@[simp] theorem record_note (s : Stats) (notice : Notice) (journal : Journal) :
    s.record (.note notice :: journal) = s.record journal := rfl

@[simp] theorem record_count (s : Stats) (count : Count) (journal : Journal) :
    s.record (.count count :: journal) = (s.count count).record journal := rfl

theorem record_append (s : Stats) (first second : Journal) :
    s.record (first ++ second) = (s.record first).record second := by
  simp [record]

/-! ## The gauge -/

theorem record_eq_of_quiet (s : Stats) {journal : Journal} (quiet : journal.Quiet) :
    (s.record journal).active = s.active ∧ (s.record journal).total = s.total := by
  induction journal generalizing s with
  | nil => exact ⟨rfl, rfl⟩
  | cons entry journal ih =>
    cases entry with
    | note notice => exact ih s quiet
    | count count =>
      have rest : Journal.Quiet journal :=
        ⟨fun m => quiet.1 (List.mem_cons_of_mem _ m), fun m => quiet.2 (List.mem_cons_of_mem _ m)⟩
      obtain ⟨active, total⟩ := ih (s.count count) rest
      rw [record_count, active, total]
      cases count with
      | opened => exact absurd List.mem_cons_self quiet.1
      | finished => exact absurd List.mem_cons_self quiet.2
      | sent _ | received _ | denied | ioError => exact ⟨rfl, rfl⟩

theorem active_count_opened (s : Stats) (room : s.active.toNat + 1 < 2 ^ 64) :
    (s.count .opened).active.toNat = s.active.toNat + 1 := by
  simp only [count, UInt64.toNat_add]
  exact Nat.mod_eq_of_lt room

theorem active_count_finished (s : Stats) (some_active : 0 < s.active.toNat) :
    (s.count .finished).active.toNat + 1 = s.active.toNat := by
  -- The branch that stays at zero is not taken.
  have nonzero : s.active ≠ 0 := by
    intro zero
    rw [zero] at some_active
    exact absurd some_active (by decide)
  have one_le : (1 : UInt64) ≤ s.active := by
    rw [UInt64.le_iff_toNat_le]
    exact some_active
  simp only [count, if_neg nonzero, UInt64.toNat_sub_of_le _ _ one_le]
  exact Nat.sub_add_cancel some_active

end Stats

end TimeServer
