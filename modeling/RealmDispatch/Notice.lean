import RealmDispatch.Interface.Command
import RealmDispatch.Interface.Service
import RealmDispatch.Log.Line
import RealmDispatch.Realm.Registry

/-!
# What the dispatcher reports

Every event worth a log line is a constructor of `Notice`, with the values its
line shows. Handlers produce notices; only this module knows how severe one is,
under which source it is filed and how it reads.
-/
namespace RealmDispatch

/-- Why the realm manager was not brought up. -/
inductive BootError where
  | realmsUnsupported
  | noImage
  | manifestLoad (code : Int32)
  | managerBoot (status : UInt64)
  | bootFailed
deriving DecidableEq, Repr

def BootError.text : BootError → String
  | .realmsUnsupported => "RmeNotPresent"
  | .noImage => "NoRmmImage"
  | .manifestLoad code => "ManifestLoad(" ++ Numeral.signed code.toInt ++ ")"
  | .managerBoot status => "RmmBoot(" ++ Numeral.decimal status.toNat ++ ")"
  | .bootFailed => "BootFailed"

inductive Notice where
  -- deferred destruction
  | creationFailed (rd : Descriptor) (status : UInt64)
  | creationUntracked (rd : Descriptor)
  | creationOutOfTurn (rd : Descriptor) (phase : Phase)
  | activationOutOfTurn (rd : Descriptor) (phase : Phase)
  | retentionUntracked (rd : Descriptor)
  | retentionOutOfTurn (rd : Descriptor) (phase : Phase)
  | destructionPlanned (rd : Descriptor) (seconds : UInt64)
  | deadlineCancelled (rd : Descriptor)
  | nothingDue
  | deadlineDeferred (rd : Descriptor)
  | deadlineUntracked (rd : Descriptor)
  | deadlineStale (rd : Descriptor)
  | deadlineRefused (rd : Descriptor)
  -- bringing the realm manager up
  | realmsUnsupported
  | imageMissing
  | manifestFailed (code : Int32)
  | setupFailed (cause : BootError)
  | coldBootBegun
  | coldBootEnded
  | bootRefused (core : Nat) (status : UInt64)
  -- commands
  | unownedCall (code : UInt32)
  | commandIgnored
  | commandFromSecure
  | commandObserved (code : UInt32)
  | commandUnsupported (code : UInt32)
  | commandInFlight (code : UInt32)
  | realmNotTracked (rd : Descriptor) (cause : Refusal)
  | completionUnexpected
  | commandCompleted (code : UInt32) (status : UInt64)
  | dataDestroyed (rd : Descriptor)
  | dataDestructionFailed (rd : Descriptor) (status : UInt64)
  -- services
  | serviceIgnored
  | serviceFromOutside
  | serviceCalled (code : UInt32) (x1 x2 x3 : UInt64)
  | granuleRefused (code : UInt32) (address : UInt64) (fault : GranuleFault)
  | entryLeft
  | serviceUnsupported (code : UInt32)
  -- timer
  | timerArmed (value : UInt64)
  | timerDisarmed
  | foreignInterrupt (id : UInt32)
  | callIssued (code : UInt32) (rd : Descriptor)
deriving DecidableEq, Repr

namespace Notice

open Numeral

def level : Notice → Level
  | creationFailed .. | creationUntracked .. | deadlineCancelled .. | nothingDue
  | deadlineDeferred .. => .debug
  | destructionPlanned .. | coldBootBegun | coldBootEnded | dataDestroyed ..
  | callIssued .. => .info
  | activationOutOfTurn .. | commandObserved .. | commandCompleted .. | serviceCalled ..
  | entryLeft | timerArmed .. | timerDisarmed => .trace
  | deadlineRefused .. | realmsUnsupported | manifestFailed .. | setupFailed ..
  | bootRefused .. | realmNotTracked .. | dataDestructionFailed .. | granuleRefused .. => .error
  | creationOutOfTurn .. | retentionUntracked .. | retentionOutOfTurn .. | deadlineUntracked ..
  | deadlineStale .. | imageMissing | unownedCall .. | commandIgnored | commandFromSecure
  | commandUnsupported .. | commandInFlight .. | completionUnexpected | serviceIgnored
  | serviceFromOutside | serviceUnsupported .. | foreignInterrupt .. => .warn

/-- The source under which log lines are filed. -/
def source : Notice → String
  | unownedCall .. => "islet_rmmd"
  | creationFailed .. | creationUntracked .. | creationOutOfTurn .. | activationOutOfTurn ..
  | retentionUntracked .. | retentionOutOfTurn .. | destructionPlanned .. | deadlineCancelled ..
  | nothingDue | deadlineDeferred .. | deadlineUntracked .. | deadlineStale ..
  | deadlineRefused .. => "islet_rmmd::lifecycle"
  | realmsUnsupported | imageMissing | manifestFailed .. | setupFailed .. | coldBootBegun
  | coldBootEnded | bootRefused .. => "islet_rmmd::boot"
  | commandIgnored | commandFromSecure | commandObserved .. | commandUnsupported ..
  | commandInFlight .. | realmNotTracked .. | completionUnexpected | commandCompleted ..
  | dataDestroyed .. | dataDestructionFailed .. => "islet_rmmd::rmi"
  | serviceIgnored | serviceFromOutside | serviceCalled .. | granuleRefused .. | entryLeft
  | serviceUnsupported .. => "islet_rmmd::rmm_el3"
  | timerArmed .. | timerDisarmed | foreignInterrupt .. | callIssued .. => "islet_rmmd::timer"

def text : Notice → String
  | creationFailed rd status =>
      "REALM_CREATE of " ++ hex rd.toNat ++ " failed: " ++ decimal status.toNat
  | creationUntracked rd => "REALM_CREATE of untracked realm " ++ hex rd.toNat
  | creationOutOfTurn rd phase =>
      "REALM_CREATE completion for " ++ hex rd.toNat ++ " in " ++ phase.text
  | activationOutOfTurn rd phase => "REALM_ACTIVATE of " ++ hex rd.toNat ++ " in " ++ phase.text
  | retentionUntracked rd => "RPV_GET completion for untracked realm " ++ hex rd.toNat
  | retentionOutOfTurn rd phase =>
      "RPV_GET completion for " ++ hex rd.toNat ++ " in " ++ phase.text
  | destructionPlanned rd seconds =>
      "realm " ++ hex rd.toNat ++ " data destroyed in " ++ decimal seconds.toNat ++ "s"
  | deadlineCancelled rd => "cancelled pending deadline of " ++ hex rd.toNat
  | nothingDue => "timer fired with nothing due"
  | deadlineDeferred rd => "deferring deadline of " ++ hex rd.toNat
  | deadlineUntracked rd => "deadline for untracked realm " ++ hex rd.toNat
  | deadlineStale rd => "stale deadline for idle realm " ++ hex rd.toNat
  | deadlineRefused rd => "no room for the deadline of " ++ hex rd.toNat
  | realmsUnsupported => "RMMD: RME is not supported by the CPU"
  | imageMissing => "RMMD: RMM image not found. RMM calls will return SMC_UNK"
  | manifestFailed code => "RMMD: Failed to load boot manifest: " ++ signed code.toInt
  | setupFailed cause => "RMMD: setup failed: " ++ cause.text
  | coldBootBegun => "RMMD: RMM init start"
  | coldBootEnded => "RMMD: RMM init end"
  | bootRefused core status =>
      "RMMD: RMM boot failed on CPU" ++ decimal core ++ ": " ++ decimal status.toNat
  | unownedCall code => "RMMD: Unowned function id " ++ hex code.toNat
  | commandIgnored => "RMMD: Failed to boot up RMM. Ignoring RMI call"
  | commandFromSecure => "RMMD: RMI invoked by secure world."
  | commandObserved code => "RMMD: " ++ Command.label code ++ " from NS"
  | commandUnsupported code => "RMMD: Unsupported RMM call " ++ paddedHex 8 code.toNat
  | commandInFlight code => "RMMD: " ++ Command.label code ++ " still in flight"
  | realmNotTracked rd cause =>
      "RMMD: realm " ++ hex rd.toNat ++ " is not tracked: " ++ cause.name
  | completionUnexpected => "RMMD: REQ_COMPLETE without a forwarded call"
  | commandCompleted code status =>
      "RMMD: " ++ Command.label code ++ " completed with " ++ decimal status.toNat
  | dataDestroyed rd => "RMMD: realm data of " ++ hex rd.toNat ++ " destroyed"
  | dataDestructionFailed rd status =>
      "RMMD: DATA_DESTROY_ALL of " ++ hex rd.toNat ++ " failed: " ++ decimal status.toNat
  | serviceIgnored => "RMMD: Failed to boot up RMM. Ignoring RMM-EL3 call"
  | serviceFromOutside => "RMMD: RMM-EL3 call originated from secure or normal world"
  | serviceCalled code x1 x2 x3 =>
      "RMMD: " ++ Service.label code ++ " x1=" ++ hex x1.toNat ++ " x2=" ++ hex x2.toNat ++
        " x3=" ++ hex x3.toNat
  | granuleRefused code address fault =>
      "RMMD: " ++ Service.label code ++ " failed for " ++ hex address.toNat ++ ": " ++ fault.name
  | entryLeft => "RMMD: running rmmd_rmm_sync_exit"
  | serviceUnsupported code => "RMMD: Unsupported RMM-EL3 call " ++ paddedHex 8 code.toNat
  | timerArmed value => "RMMD: timer armed at " ++ decimal value.toNat
  | timerDisarmed => "RMMD: timer disarmed"
  | foreignInterrupt id => "RMMD: unexpected EL3 interrupt " ++ decimal id.toNat
  | callIssued code rd =>
      "RMMD: issuing " ++ Command.label code ++ " for realm " ++ hex rd.toNat

def line (n : Notice) : Line := { level := n.level, source := n.source, text := n.text }

/-- The lines, without their ends, that a limit lets through. -/
def transcript (limit : Limit) (ns : List Notice) : List String :=
  (ns.filter fun n => limit.admits n.level).map fun n => n.line.shown

end Notice

end RealmDispatch
