import RealmDispatch.Dispatch.Entry
import RealmDispatch.Dispatch.Forward

/-!
# Serving the realm manager

A service is performed by the board, and its result is written to the realm
world's registers from `x0` upwards: first a status, then what the service
delivers. A service that fails delivers zeros, except for the features, which
then deliver nothing.
-/
namespace RealmDispatch

/-- The status of a result as a register holds it; 0 means success. -/
def statusCode {α : Type} : Except ServiceError α → UInt64
  | .ok _ => 0
  | .error e => e.code

/-- The registers that report a length, which is 0 if there is none. -/
def lengthAnswer (result : Except ServiceError UInt64) : List UInt64 :=
  [statusCode result, result.toOption.getD 0]

/-- The registers that report a length and what remains to be fetched. -/
def tokenAnswer (result : Except ServiceError (UInt64 × UInt64)) : List UInt64 :=
  let (length, remaining) := result.toOption.getD (0, 0)
  [statusCode result, length, remaining]

def featureAnswer : Except ServiceError UInt64 → List UInt64
  | .ok value => [0, value]
  | .error e => [e.code]

/-- The registers that report whether a granule was moved. -/
def granuleAnswer (service : Service) (address : UInt64) :
    Except GranuleFault Unit → Step (List UInt64)
  | .ok () => pure [0]
  | .error fault => do
      Step.notify (.granuleRefused service.code address fault)
      pure [fault.toServiceError.code]

/-- The service an identifier stands for, if this firmware performs it. -/
def Board.service? (b : Board) (code : UInt32) : Option Service :=
  (Service.ofCode? code).filter fun s => s != .tokenSign || b.signsTokens

/-- Asks the board for a service other than the end of the boot. -/
def perform (service : Option Service) (args : Arguments) : Step (List UInt64) := do
  let b ← Step.board
  let size := UInt64.ofNat granuleSize
  match service with
  | some .delegate => do
      Step.request (.delegate args.x1 size)
      granuleAnswer .delegate args.x1 (b.delegate args.x1 size)
  | some .undelegate => do
      Step.request (.undelegate args.x1 size)
      granuleAnswer .undelegate args.x1 (b.undelegate args.x1 size)
  | some .platformToken => do
      Step.request (.platformToken args.x1 args.x2 args.x3)
      pure (tokenAnswer (b.platformToken args.x1 args.x2 args.x3))
  | some .realmKey => do
      Step.request (.realmKey args.x1 args.x2 args.x3)
      pure (lengthAnswer (b.realmKey args.x1 args.x2 args.x3))
  | some .features => pure (featureAnswer (featureRegister b.signsTokens args.x1))
  | some .tokenSign => do
      Step.request (.signToken args.x1 args.x2 args.x3 args.x4)
      pure (lengthAnswer (b.signToken args.x1 args.x2 args.x3 args.x4))
  | _ => do
      Step.notify (.serviceUnsupported (callCode args))
      pure [unknownCall]

/-- A call whose identifier lies in the block of the services. -/
def handleService (args : Arguments) (flags : CallFlags) : Step Next := do
  let m ← Step.machine
  if m.bootFailed then do
    Step.notify .serviceIgnored
    Step.reject flags
  else if flags.world ≠ .realm then do
    Step.notify .serviceFromOutside
    Step.reject flags
  else do
    Step.notify (.serviceCalled (callCode args) args.x1 args.x2 args.x3)
    let b ← Step.board
    let service := b.service? (callCode args)
    if service = some .bootComplete then do
      Step.notify .entryLeft
      leaveEntry args.x1
    else do
      let values ← perform service args
      let c ← Step.core
      Step.write c .realm values
      pure (.eret .realm)

end RealmDispatch
