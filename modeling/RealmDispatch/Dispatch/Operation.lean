import RealmDispatch.Dispatch.Boot
import RealmDispatch.Dispatch.Interrupt
import RealmDispatch.Dispatch.Serve

/-!
# The operations of the dispatcher

Firmware calls the dispatcher in eight ways. Each operation runs up to its
answer, or up to the point where the realm manager takes over; in the second
case `Entry.finish` resumes it once the realm manager has come back.
-/
namespace RealmDispatch

/-- Routes a trapped call by the block its function identifier lies in. -/
def handleCall (args : Arguments) (flags : CallFlags) : Step Next :=
  if Command.owns (callCode args) then handleCommand args flags
  else if Service.owns (callCode args) then handleService args flags
  else do
    Step.notify (.unownedCall (callCode args))
    Step.reject flags

inductive Operation where
  | setup
  | coldBoot
  | warmBoot
  | initTimer
  | enter
  | leave (value : UInt64)
  | call (args : Arguments) (flags : CallFlags)
  | interrupt (interrupted : World)
deriving DecidableEq, Repr

def Operation.start : Operation → Step Progress
  | setup => return .answered (← RealmDispatch.setup)
  | coldBoot => RealmDispatch.coldBoot
  | warmBoot => RealmDispatch.warmBoot
  | initTimer => do
      RealmDispatch.initTimer
      pure (.answered .done)
  | enter => return .entered (← Entry.begin .plain)
  | leave value => return .answered (.next (← leaveEntry value))
  | call args flags => return .answered (.next (← handleCall args flags))
  | interrupt interrupted => return .answered (.next (← handleInterrupt interrupted))

end RealmDispatch
