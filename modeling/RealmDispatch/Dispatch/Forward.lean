import RealmDispatch.Machine.Step

/-!
# Handing commands to the realm manager

A command of the host is forwarded to the realm manager on the same core,
whatever it is and whatever the tracker thinks of it. The core then runs in the
realm world until the realm manager completes the call. The completion gives
the host its answer and tells the tracker what has become of the realm.
-/
namespace RealmDispatch

/-- The function identifier of a call, the low half of its first register. -/
def callCode (args : Arguments) : UInt32 := args.x0.toUInt32

/-- Swaps the live EL2 registers and chooses the next world of a core. -/
def switchWorld (c : Core) (source target : World) : Step Unit := do
  Step.saveSystem c source
  Step.restoreSystem c target
  Step.modifyCpu c fun cpu => { cpu with next := some target }

/-- The registers the realm manager sees: the hint is repeated in the first. -/
def hinted (args : Arguments) (sveHint : Bool) : Arguments :=
  if sveHint then args.setX0 (args.x0 ||| sveHintBit) else args

/-- Makes a call the next one that the realm manager serves on this core. -/
def forward (args : Arguments) (sveHint : Bool) (origin : Origin) : Step Next := do
  let c ← Step.core
  let cpu ← Step.cpu c
  match cpu.inFlight with
  | some earlier => Step.notify (.commandInFlight earlier.code)
  | none => pure ()
  Step.modifyCpu c fun cpu => { cpu with inFlight := some ⟨callCode args, args, origin⟩ }
  switchWorld c .nonSecure .realm
  Step.write c .realm (hinted args sveHint).toList
  pure (.eret .realm)

/-- Tells the tracker of a command on its way to the realm manager. -/
def observe (args : Arguments) : Step Unit :=
  match Command.ofCode? (callCode args) with
  | some .realmCreate => Step.track fun t =>
      match t.observeCreation args.x1 with
      | (t, .ok _) => (t, [])
      | (t, .error cause) => (t, [.realmNotTracked args.x1 cause])
  | some .realmActivate => do
      let b ← Step.board
      Step.track fun t => t.observeActivation args.x1 b.clock
      Step.programTimer
  | _ => pure ()

/-- Tells the tracker, or the log, what the realm manager made of a call. -/
def noteCompletion (call : PendingCall) (status : UInt64) : Step Unit := do
  let b ← Step.board
  let rd := call.args.x1
  match Command.ofCode? call.code with
  | some .realmCreate => do
      Step.track fun t => t.completeCreation rd status b.clock
      Step.programTimer
  | some .retentionGet => do
      Step.track fun t => t.completeRetention rd status b.clock
      Step.programTimer
  | some .realmDestroy => do
      Step.track fun t => t.completeDestruction rd status
      Step.programTimer
  | some .dataDestroyAll =>
      Step.notify (if status = 0 then .dataDestroyed rd else .dataDestructionFailed rd status)
  | _ => pure ()

/-- The registers a completion leaves to the host: `x1` to `x5` move down by one. -/
def hostAnswer (args : Arguments) : List UInt64 := [args.x1, args.x2, args.x3, args.x4, args.x5]

/-- The realm manager has served the call in flight on this core. -/
def complete (args : Arguments) (flags : CallFlags) : Step Next := do
  let c ← Step.core
  let cpu ← Step.cpu c
  match cpu.inFlight with
  | none => do
      Step.notify .completionUnexpected
      Step.reject flags
  | some call => do
      Step.modifyCpu c fun cpu => { cpu with inFlight := none }
      Step.notify (.commandCompleted call.code args.x1)
      noteCompletion call args.x1
      switchWorld c .realm .nonSecure
      match call.origin with
      | .host => Step.write c .nonSecure (hostAnswer args)
      | .timer => pure ()
      pure (.eret .nonSecure)

/-- A call whose identifier lies in the block of the commands. -/
def handleCommand (args : Arguments) (flags : CallFlags) : Step Next := do
  let m ← Step.machine
  if m.bootFailed then do
    Step.notify .commandIgnored
    Step.reject flags
  else
    match flags.world with
    | .secure => do
        Step.notify .commandFromSecure
        Step.reject flags
    | .nonSecure => do
        Step.notify (.commandObserved (callCode args))
        observe args
        forward args flags.sveHint .host
    | .realm =>
        if callCode args = Command.requestComplete.code then complete args flags
        else do
          Step.notify (.commandUnsupported (callCode args))
          Step.reject flags

end RealmDispatch
