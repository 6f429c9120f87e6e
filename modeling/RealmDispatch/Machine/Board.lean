import RealmDispatch.Clock
import RealmDispatch.Core.Cpu
import RealmDispatch.Interface.Service

/-!
# What the board answers during a step

A `Board` holds every reading and every answer that the dispatcher can ask for
while it takes one step: which core it runs on, the counter, what the loader
left, and the results of the services. What the dispatcher asks the board to do
is recorded as a list of `Request`s. Readings leave no request.
-/
namespace RealmDispatch

structure SharedBuffer where
  base : UInt64
  size : UInt64
deriving DecidableEq, Repr

structure Board where
  /-- Linear index of the calling core, which may exceed `coreCount`. -/
  core : Nat
  clock : Clock
  /-- Whether the firmware signs tokens for the realm manager. -/
  signsTokens : Bool
  realmsSupported : Bool
  image : Option EntryPoint
  shared : SharedBuffer
  /-- The code with which laying out the boot manifest fails, if it does. -/
  manifestError : Option Int32
  /-- The interrupt to be acknowledged. -/
  interrupt : UInt32
  /-- The stack that a synchronous entry of this step leaves behind. -/
  stack : UInt64
  delegate : UInt64 → UInt64 → Except GranuleFault Unit
  undelegate : UInt64 → UInt64 → Except GranuleFault Unit
  platformToken : UInt64 → UInt64 → UInt64 → Except ServiceError (UInt64 × UInt64)
  realmKey : UInt64 → UInt64 → UInt64 → Except ServiceError UInt64
  signToken : UInt64 → UInt64 → UInt64 → UInt64 → Except ServiceError UInt64

inductive Request where
  | delegate (address size : UInt64)
  | undelegate (address size : UInt64)
  | platformToken (address size challenge : UInt64)
  | realmKey (address size curve : UInt64)
  | signToken (operation address size curve : UInt64)
  | acknowledge
  | endOfInterrupt (id : UInt32)
  | enableInterrupt (id : UInt32) (priority : UInt8)
  | arm (value : UInt64)
  | disarm
  | saveSystem
  | restoreSystem
  | enterRealm
  | loadManifest (base size : UInt64)
deriving DecidableEq, Repr

end RealmDispatch
