import RealmDispatch.Dispatch.Forward

/-!
# The timer interrupt

An interrupt taken to EL3 is acknowledged and ended before anything else. When
the secure timer has fired, the tracker may have a call to issue. The call is
forwarded like one of the host, but only if the host was running and the core
has no other call in flight; otherwise the interrupted world goes on.
-/
namespace RealmDispatch

/-- The registers of a call the dispatcher makes by itself. -/
def AutomaticCall.args (call : AutomaticCall) : Arguments :=
  Arguments.ofList [call.command.code.toUInt64, call.rd]

/-- Whether the calling core can take a call to the realm manager now. -/
def canIssue (interrupted : World) : Step Bool :=
  if interrupted = .nonSecure then do
    let c ← Step.core
    let cpu ← Step.cpu c
    pure cpu.inFlight.isNone
  else pure false

/-- Lets the tracker act on the timer and brings the timer in line with it. -/
def fireTimer (issue : Bool) : Step (Option AutomaticCall) := do
  let b ← Step.board
  let m ← Step.machine
  let (tracker, notices, call) := m.tracker.fire b.clock issue
  Step.modify fun m => { m with tracker }
  Step.report notices
  Step.programTimer
  pure call

def handleInterrupt (interrupted : World) : Step Next := do
  let b ← Step.board
  Step.request .acknowledge
  Step.request (.endOfInterrupt b.interrupt)
  if b.interrupt ≠ timerInterrupt then do
    Step.notify (.foreignInterrupt b.interrupt)
    pure (.eret interrupted)
  else do
    let issue ← canIssue interrupted
    let call ← fireTimer issue
    match call with
    | none => pure (.eret interrupted)
    | some call => do
        Step.notify (.callIssued call.command.code call.rd)
        forward call.args false .timer

end RealmDispatch
