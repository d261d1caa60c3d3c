/-! # The wall clock

A reading of the system clock and the protocol time that it gives.
-/

namespace TimeServer

/-- A reading of the wall clock: whole seconds since 1970-01-01 00:00:00 UTC, rounded down, and
    the nanoseconds since that second began. -/
structure Clock where
  seconds : Int
  nanos : Nat := 0
  deriving DecidableEq, Repr

namespace Clock

/-- Whole seconds since 1970 as a protocol timestamp.  A clock before 1970 gives `0`, one past the
    last timestamp stays at that timestamp. -/
def now (c : Clock) : UInt32 :=
  if c.seconds < 0 then 0
  else if c.seconds.toNat < UInt32.size then UInt32.ofNat c.seconds.toNat
  else 0xFFFFFFFF

theorem toNat_now (c : Clock) : (c.now.toNat : Int) = max 0 (min c.seconds (UInt32.size - 1)) := by
  have size : UInt32.size = 4294967296 := rfl
  unfold now
  split
  · simp; omega
  · split
    · rw [UInt32.toNat_ofNat', Nat.mod_eq_of_lt (by omega)]; omega
    · rw [show UInt32.toNat 0xFFFFFFFF = 4294967295 from rfl]; omega

end Clock

end TimeServer
