import RealmDispatch.Core.Registers
import RealmDispatch.World

/-!
# The state kept for one core

Each core has a saved context per world, the world chosen for the next
exception return, and at most one call that the realm manager has not completed
yet. A core also has a slot for the synchronous entry it may be waiting in.
-/
namespace RealmDispatch

structure Context where
  general : GeneralRegisters := {}
  elr : UInt64 := 0
  spsr : UInt64 := 0
  system : SystemRegisters := {}
deriving DecidableEq, Repr

/-- Where a context starts to execute, and with which arguments. -/
structure EntryPoint where
  pc : UInt64
  spsr : UInt64
  args : Arguments
deriving DecidableEq, Repr

/-- A context that has not executed anything yet. -/
def EntryPoint.context (e : EntryPoint) : Context :=
  { general := GeneralRegisters.load {} e.args.toList, elr := e.pc, spsr := e.spsr }

/-- One context per world. -/
structure Worlds where
  secure : Context := {}
  nonSecure : Context := {}
  realm : Context := {}
deriving DecidableEq, Repr

namespace Worlds

def get (ws : Worlds) : World → Context
  | .secure => ws.secure
  | .nonSecure => ws.nonSecure
  | .realm => ws.realm

def set (ws : Worlds) (w : World) (c : Context) : Worlds :=
  match w with
  | .secure => { ws with secure := c }
  | .nonSecure => { ws with nonSecure := c }
  | .realm => { ws with realm := c }

@[simp] theorem get_set (ws : Worlds) (v w : World) (c : Context) :
    (ws.set w c).get v = if v = w then c else ws.get v := by
  cases v <;> cases w <;> rfl

end Worlds

/-- Who asked for the call that the realm manager is serving. -/
inductive Origin where
  | host
  | timer
deriving DecidableEq, Repr

/-- A call handed to the realm manager, as it was before any hint was added. -/
structure PendingCall where
  code : UInt32
  args : Arguments
  origin : Origin
deriving DecidableEq, Repr

structure Cpu where
  worlds : Worlds := {}
  next : Option World := none
  inFlight : Option PendingCall := none
deriving DecidableEq, Repr

namespace Cpu

def context (c : Cpu) (w : World) : Context := c.worlds.get w

def setContext (c : Cpu) (w : World) (ctx : Context) : Cpu :=
  { c with worlds := c.worlds.set w ctx }

/-- Makes the realm context start afresh at `e`. -/
def initRealm (c : Cpu) (e : EntryPoint) : Cpu := c.setContext .realm e.context

def realmInitialised (c : Cpu) : Bool := (c.context .realm).elr != 0

/-- Writes `x0` and up of a world. -/
def load (c : Cpu) (w : World) (values : List UInt64) : Cpu :=
  c.setContext w { c.context w with general := (c.context w).general.load values }

/-- Writes `x0` and up of a world, unless there are more values than registers. -/
def load? (c : Cpu) (w : World) (values : List UInt64) : Option Cpu :=
  if values.length ≤ generalCount then some (c.load w values) else none

@[simp] theorem context_setContext (c : Cpu) (v w : World) (ctx : Context) :
    (c.setContext w ctx).context v = if v = w then ctx else c.context v :=
  c.worlds.get_set v w ctx

theorem load?_of_le (c : Cpu) (w : World) {values : List UInt64}
    (h : values.length ≤ generalCount) : c.load? w values = some (c.load w values) :=
  if_pos h

end Cpu

/-- The synchronous entry of a core: the stack it comes back to, and whether it
is waiting. -/
structure EntrySlot where
  stack : UInt64 := 0
  pending : Bool := false
deriving DecidableEq, Repr

end RealmDispatch
