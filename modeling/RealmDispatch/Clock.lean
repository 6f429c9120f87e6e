/-!
# The system counter

Counter values are 64 bits wide and never wrap: a point in time that lies
beyond the last counter value is that last value. The two functions on `Clock`
say when a span of seconds or milliseconds starting now is over. A span of
milliseconds takes at least one tick, so that waiting for it always ends later
than it began, unless the counter is already at its end.
-/
namespace RealmDispatch

namespace Counter

/-- The last value of the counter. -/
def last : UInt64 := 0xffffffffffffffff

/-- The counter value `n`, or the last one if there is no such value. -/
def clamp (n : Nat) : UInt64 := UInt64.ofNat (min n last.toNat)

def add (a b : UInt64) : UInt64 := clamp (a.toNat + b.toNat)

def mul (a b : UInt64) : UInt64 := clamp (a.toNat * b.toNat)

theorem toNat_clamp (n : Nat) : (clamp n).toNat = min n last.toNat := by
  have h : min n last.toNat < 2 ^ 64 :=
    Nat.lt_of_le_of_lt (Nat.min_le_right _ _) last.toNat_lt
  simpa [clamp] using Nat.mod_eq_of_lt h

theorem toNat_add (a b : UInt64) :
    (add a b).toNat = min (a.toNat + b.toNat) last.toNat := toNat_clamp _

theorem toNat_mul (a b : UInt64) :
    (mul a b).toNat = min (a.toNat * b.toNat) last.toNat := toNat_clamp _

end Counter

/-- A reading of the counter and its ticks per second. -/
structure Clock where
  now : UInt64 := 0
  frequency : UInt64 := 0
deriving DecidableEq, Repr

namespace Clock

def afterSeconds (c : Clock) (seconds : UInt64) : UInt64 :=
  Counter.add c.now (Counter.mul seconds c.frequency)

/-- Whole ticks are counted, but never fewer than one. -/
def afterMilliseconds (c : Clock) (milliseconds : UInt64) : UInt64 :=
  Counter.add c.now (max (Counter.mul milliseconds c.frequency / 1000) 1)

end Clock

end RealmDispatch
