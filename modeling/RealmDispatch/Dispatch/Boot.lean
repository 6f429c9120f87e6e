import RealmDispatch.Dispatch.Entry

/-!
# Bringing the realm manager up

The setup runs once on the primary core. The cold boot follows on the same core,
and every other core boots the realm manager warm when it is powered on. A
failure on any core is kept for good: later boots are refused, and both blocks
of function identifiers answer that the call is unknown.
-/
namespace RealmDispatch

/-- How far an operation gets on its own: to its answer, or to the point where
the realm manager takes over. -/
inductive Progress where
  | answered (answer : Answer)
  | entered (entry : Entry)

/-- The image the loader left, unless it has nowhere to start. -/
def Board.startable? (b : Board) : Option EntryPoint := b.image.filter fun e => e.pc != 0

/-- Routes the secure timer to EL3 on the calling core. -/
def initTimer : Step Unit := Step.request (.enableInterrupt timerInterrupt timerPriority)

/-- Makes the realm context of a core start at `e` with arguments of its own. -/
def startRealm (c : Core) (e : EntryPoint) (args : List UInt64) : Step Unit :=
  Step.modifyCpu c fun cpu => cpu.initRealm { e with args := Arguments.ofList args }

/-- The checks a setup makes before it changes anything. -/
def checkBoard : Step (Except BootError EntryPoint) := do
  let b ← Step.board
  if !b.realmsSupported then do
    Step.notify .realmsUnsupported
    pure (.error .realmsUnsupported)
  else
    match b.startable? with
    | none => do
        Step.notify .imageMissing
        pure (.error .noImage)
    | some e => do
        Step.request (.loadManifest b.shared.base b.shared.size)
        match b.manifestError with
        | some code => do
            Step.notify (.manifestFailed code)
            pure (.error (.manifestLoad code))
        | none => pure (.ok e)

def setup : Step Answer := do
  match ← checkBoard with
  | .error cause => do
      Step.modify fun m => { m with bootFailed := true }
      Step.notify (.setupFailed cause)
      pure (.boot (.error cause))
  | .ok found => do
      let m ← Step.machine
      let e := m.entryPoint.getD found
      Step.modify fun m => { m with entryPoint := some e }
      let c ← Step.core
      let b ← Step.board
      startRealm c e
        [UInt64.ofNat c, interfaceVersion, UInt64.ofNat coreCount, b.shared.base]
      initTimer
      pure (.boot (.ok ()))

def coldBoot : Step Progress := do
  let m ← Step.machine
  if m.bootFailed then pure (.answered (.boot (.error .bootFailed)))
  else do
    Step.notify .coldBootBegun
    let entry ← Entry.begin .coldBoot
    pure (.entered entry)

/-- Boots the realm manager on a core that was just powered on. -/
def warmBoot : Step Progress := do
  let m ← Step.machine
  match m.bootFailed, m.entryPoint with
  | false, some e => do
      let c ← Step.core
      startRealm c e [UInt64.ofNat c]
      initTimer
      let entry ← Entry.begin .warmBoot
      pure (.entered entry)
  | _, _ => pure (.answered (.boot (.error .bootFailed)))

end RealmDispatch
