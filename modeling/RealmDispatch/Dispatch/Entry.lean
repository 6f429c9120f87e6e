import RealmDispatch.Machine.Step

/-!
# Synchronous entries

A synchronous entry blocks a core inside EL3 while the realm manager runs, until
the realm manager reports a status. Since other steps are taken in between, an
entry is two steps: `begin` ends where the realm manager takes over, and
`finish` starts where it has come back. The entry in between is a value that
says on which core it began and what it is good for.
-/
namespace RealmDispatch

/-- What a synchronous entry is made for. -/
inductive Purpose where
  | plain
  | coldBoot
  | warmBoot
deriving DecidableEq, Repr

structure Entry where
  core : Core
  purpose : Purpose
deriving DecidableEq, Repr

/-- What an operation of the dispatcher answers. -/
inductive Answer where
  | done
  | boot (result : Except BootError Unit)
  | status (value : UInt64)
  | next (next : Next)

namespace Entry

/-- Makes the realm world of the calling core live and gives it control. -/
def begin (purpose : Purpose) : Step Entry := do
  let c ← Step.core
  let m ← Step.machine
  if !(m.cpu c).realmInitialised then Step.halt .realmUninitialised
  else if (m.slot c).pending then Step.halt .entryNested
  else do
    Step.modifySlot c fun s => { s with pending := true }
    Step.restoreSystem c .realm
    Step.modifyCpu c fun cpu => { cpu with next := some .realm }
    Step.request .enterRealm
    let b ← Step.board
    Step.modifySlot c fun s => { s with stack := b.stack }
    pure ⟨c, purpose⟩

/-- The boot of the realm manager ended with a status, of which 0 means success. -/
def bootStatus (status : UInt64) : Step (Except BootError Unit) :=
  if status = 0 then pure (.ok ())
  else do
    let c ← Step.core
    Step.notify (.bootRefused c status)
    Step.modify fun m => { m with bootFailed := true }
    pure (.error (.managerBoot status))

/-- Saves the realm world of the core it came back on, frees the slot of the
core it began on and evaluates the status. -/
def finish (e : Entry) (status : UInt64) : Step Answer := do
  let c ← Step.core
  Step.saveSystem c .realm
  Step.modifySlot e.core fun s => { s with pending := false }
  match e.purpose with
  | .plain => pure (.status status)
  | .warmBoot => do
      let result ← bootStatus status
      pure (.boot result)
  | .coldBoot => do
      let result ← bootStatus status
      match result with
      | .ok () => Step.notify .coldBootEnded
      | .error _ => pure ()
      pure (.boot result)

end Entry

/-- Unwinds to the entry that is waiting on the calling core. -/
def leaveEntry (value : UInt64) : Step Next := do
  let c ← Step.core
  let m ← Step.machine
  if (m.slot c).pending then pure (.resume (m.slot c).stack value)
  else Step.halt .exitUnmatched

end RealmDispatch
