import RealmDispatch.Machine.Board
import RealmDispatch.Machine.State

/-!
# Steps of the dispatcher

A step reads the board and changes the machine. It ends with a value, or it
halts the core on a violation of the protocol; either way it leaves behind the
requests it has made and the notices it has given, in order. Steps compose by
running one after the other, and nothing runs after a halt.
-/
namespace RealmDispatch

/-- Why a core stops. -/
inductive Halt where
  | corePosition (core : Nat)
  | realmUninitialised
  | entryNested
  | exitUnmatched
  | registersExceeded
deriving DecidableEq, Repr

/-- The words a core stops with. Writing past the last register is no violation
the dispatcher has words for. -/
def Halt.message? : Halt → Option String
  | .corePosition core =>
      some ("RMMD: core position " ++ Numeral.decimal core ++ " out of range")
  | .realmUninitialised =>
      some "RMMD: synchronous entry into an uninitialised realm context"
  | .entryNested => some "RMMD: nested synchronous entry"
  | .exitUnmatched => some "RMMD: synchronous exit without a pending entry"
  | .registersExceeded => none

/-- What a step leaves behind. -/
structure Outcome (α : Type) where
  result : Except Halt α
  machine : Machine
  requests : List Request := []
  notices : List Notice := []

namespace Outcome
variable {α β : Type}

/-- The outcome, with what was requested and noticed before it put in front. -/
def after (o : Outcome α) (requests : List Request) (notices : List Notice) : Outcome α :=
  { o with requests := requests ++ o.requests, notices := notices ++ o.notices }

/-- Goes on with `f` unless the outcome is a halt. -/
def andThen (o : Outcome α) (f : α → Machine → Outcome β) : Outcome β :=
  match o.result with
  | .error h => { o with result := .error h }
  | .ok a => (f a o.machine).after o.requests o.notices

@[simp] theorem after_nil (o : Outcome α) : o.after [] [] = o := rfl

@[simp] theorem after_after (o : Outcome α) (rs₁ rs₂ : List Request) (ns₁ ns₂ : List Notice) :
    (o.after rs₂ ns₂).after rs₁ ns₁ = o.after (rs₁ ++ rs₂) (ns₁ ++ ns₂) := by
  simp [after]

theorem andThen_ok {o : Outcome α} {a : α} (h : o.result = .ok a)
    (f : α → Machine → Outcome β) :
    o.andThen f = (f a o.machine).after o.requests o.notices := by
  simp [andThen, h]

theorem andThen_halt {o : Outcome α} {e : Halt} (h : o.result = .error e)
    (f : α → Machine → Outcome β) : o.andThen f = { o with result := .error e } := by
  simp [andThen, h]

end Outcome

def Step (α : Type) : Type := Board → Machine → Outcome α

namespace Step
variable {α β : Type}

protected def pure (a : α) : Step α := fun _ m => { result := .ok a, machine := m }

protected def bind (x : Step α) (f : α → Step β) : Step β :=
  fun b m => (x b m).andThen fun a => f a b

instance : Monad Step where
  pure := Step.pure
  bind := Step.bind

theorem bind_apply (x : Step α) (f : α → Step β) (b : Board) (m : Machine) :
    (x >>= f) b m = (x b m).andThen fun a => f a b := rfl

theorem pure_apply (a : α) (b : Board) (m : Machine) :
    (Pure.pure a : Step α) b m = { result := .ok a, machine := m } := rfl

def halt (h : Halt) : Step α := fun _ m => { result := .error h, machine := m }

def board : Step Board := fun b m => { result := .ok b, machine := m }

def machine : Step Machine := fun _ m => { result := .ok m, machine := m }

def modify (f : Machine → Machine) : Step Unit :=
  fun _ m => { result := .ok (), machine := f m }

def request (r : Request) : Step Unit :=
  fun _ m => { result := .ok (), machine := m, requests := [r] }

def report (ns : List Notice) : Step Unit :=
  fun _ m => { result := .ok (), machine := m, notices := ns }

def notify (n : Notice) : Step Unit := report [n]

/-- The calling core; a position without a core halts. -/
def core : Step Core := fun b m =>
  if h : b.core < coreCount then { result := .ok ⟨b.core, h⟩, machine := m }
  else { result := .error (.corePosition b.core), machine := m }

theorem core_apply (b : Board) (m : Machine) (h : b.core < coreCount) :
    core b m = { result := .ok ⟨b.core, h⟩, machine := m } := dif_pos h

def cpu (c : Core) : Step Cpu := fun _ m => { result := .ok (m.cpu c), machine := m }

def modifyCpu (c : Core) (f : Cpu → Cpu) : Step Unit := modify fun m => m.setCpu c (f (m.cpu c))

def modifySlot (c : Core) (f : EntrySlot → EntrySlot) : Step Unit :=
  modify fun m => m.setSlot c (f (m.slot c))

/-- Writes `x0` and up of a saved context; more values than registers halt. -/
def write (c : Core) (w : World) (values : List UInt64) : Step Unit := fun _ m =>
  match (m.cpu c).load? w values with
  | some cpu => { result := .ok (), machine := m.setCpu c cpu }
  | none => { result := .error .registersExceeded, machine := m }

theorem write_apply (c : Core) (w : World) {values : List UInt64}
    (h : values.length ≤ generalCount) (b : Board) (m : Machine) :
    write c w values b m =
      { result := .ok (), machine := m.setCpu c ((m.cpu c).load w values) } := by
  simp [write, Cpu.load?_of_le _ _ h]

def saveSystem (c : Core) (w : World) : Step Unit := do
  request .saveSystem
  modify fun m => m.saveSystem c w

def restoreSystem (c : Core) (w : World) : Step Unit := do
  request .restoreSystem
  modify fun m => m.restoreSystem c w

/-- Changes the tracker and passes its notices on. -/
def track (f : Tracker → Tracker × List Notice) : Step Unit := do
  let m ← machine
  let (tracker, notices) := f m.tracker
  modify fun m => { m with tracker }
  report notices

/-- Carries out what the tracker wants the timer to do. -/
def programTimer : Step Unit := do
  let m ← machine
  let (tracker, update) := m.tracker.reprogram
  modify fun m => { m with tracker }
  match update with
  | none => pure ()
  | some (.arm value) => do
      notify (.timerArmed value)
      request (.arm value)
      modify fun m => { m with armed := some value }
  | some .disarm => do
      notify .timerDisarmed
      request .disarm
      modify fun m => { m with armed := none }

/-- Answers the caller that its call is unknown. -/
def reject (flags : CallFlags) : Step Next := do
  let c ← core
  write c flags.world [unknownCall]
  pure (.eret flags.world)

end Step

end RealmDispatch
