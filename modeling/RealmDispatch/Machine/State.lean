import RealmDispatch.Core.Cpu
import RealmDispatch.Realm.Tracker

/-!
# The state of the whole machine

The first five fields are the dispatcher's own. The last two belong to the
hardware it drives: the EL2 system registers that are live at the moment, and
the value the secure timer was last armed with, if it is armed.
-/
namespace RealmDispatch

structure Machine where
  bootFailed : Bool := false
  /-- Fixed by the first setup that succeeds. -/
  entryPoint : Option EntryPoint := none
  cpus : Vector Cpu coreCount := Vector.replicate coreCount {}
  slots : Vector EntrySlot coreCount := Vector.replicate coreCount {}
  tracker : Tracker := {}
  live : SystemRegisters := {}
  armed : Option UInt64 := none
deriving DecidableEq, Repr

namespace Machine

def cpu (m : Machine) (c : Core) : Cpu := m.cpus[c]

def slot (m : Machine) (c : Core) : EntrySlot := m.slots[c]

def context (m : Machine) (c : Core) (w : World) : Context := (m.cpu c).context w

def setCpu (m : Machine) (c : Core) (cpu : Cpu) : Machine :=
  { m with cpus := m.cpus.set c cpu }

def setSlot (m : Machine) (c : Core) (slot : EntrySlot) : Machine :=
  { m with slots := m.slots.set c slot }

@[simp] theorem cpu_setCpu (m : Machine) (c d : Core) (cpu : Cpu) :
    (m.setCpu c cpu).cpu d = if d = c then cpu else m.cpu d := by
  simp [Machine.cpu, setCpu, Vector.getElem_set, Fin.ext_iff, eq_comm]

@[simp] theorem slot_setSlot (m : Machine) (c d : Core) (slot : EntrySlot) :
    (m.setSlot c slot).slot d = if d = c then slot else m.slot d := by
  simp [Machine.slot, setSlot, Vector.getElem_set, Fin.ext_iff, eq_comm]

/-- Copies the live EL2 registers into a saved context. -/
def saveSystem (m : Machine) (c : Core) (w : World) : Machine :=
  m.setCpu c ((m.cpu c).setContext w { m.context c w with system := m.live })

/-- Makes the EL2 registers of a saved context live. -/
def restoreSystem (m : Machine) (c : Core) (w : World) : Machine :=
  { m with live := (m.context c w).system }

end Machine

end RealmDispatch
