/-!
# Fixed sizes, times and identifiers

The numbers the dispatcher is built with. None of them can change while it
runs, and no other module spells one of them out.
-/
namespace RealmDispatch

/-- Cores whose state the dispatcher keeps; larger core positions are refused. -/
abbrev coreCount : Nat := 8

abbrev Core : Type := Fin coreCount

theorem coreCount_ne_zero : coreCount ≠ 0 := by decide

/-- Numerals stand for cores. -/
instance : @NeZero Nat Zero.ofOfNat0 coreCount := ⟨coreCount_ne_zero⟩

def pageBits : Nat := 12

def pageSize : Nat := 1 <<< pageBits

/-- Memory moves between the worlds one granule at a time. -/
def granuleSize : Nat := pageSize

/-- Size of the buffer shared with the realm manager for manifest and tokens. -/
def sharedBufferSize : Nat := pageSize

/-- Realms that can be tracked, and deadlines that can be pending, at a time. -/
abbrev realmCapacity : Nat := 10

/-- Time left to a fresh realm before it is asked for its retention. -/
def retentionGuardSeconds : UInt64 := 2

/-- Retention of a realm that reports none. -/
def defaultRetentionSeconds : UInt64 := 30

/-- Back-off of a deadline that expires while no call can be issued. -/
def retryMilliseconds : UInt64 := 10

/-- Interrupt number of the secure physical timer. -/
def timerInterrupt : UInt32 := 29

/-- The most urgent priority of a secure interrupt. -/
def timerPriority : UInt8 := 0

/-- Version 0.2 of the interface between the realm manager and EL3. -/
def interfaceVersion : UInt64 := 2

/-- Bit of a function identifier saying that the caller has no live SVE state. -/
def sveHintBit : UInt64 := 0x10000

/-- Answer to a call nobody serves. -/
def unknownCall : UInt64 := 0xffffffffffffffff

end RealmDispatch
