/-!
# Services offered to the realm manager

The realm manager asks EL3 to move granules between the worlds, for attestation
material and for the features of the interface, and it reports the end of its
boot. A block of function identifiers belongs to these services as a whole.
Signing tokens is optional: firmware that does not sign leaves the identifier
unassigned and says so in feature register 0.
-/
namespace RealmDispatch

inductive Service where
  | delegate
  | undelegate
  | realmKey
  | platformToken
  | features
  | tokenSign
  | bootComplete
deriving DecidableEq, Repr

namespace Service

def all : List Service :=
  [delegate, undelegate, realmKey, platformToken, features, tokenSign, bootComplete]

/-- The function identifier assigned to a service. -/
def code : Service → UInt32
  | delegate => 0xc40001b0
  | undelegate => 0xc40001b1
  | realmKey => 0xc40001b2
  | platformToken => 0xc40001b3
  | features => 0xc40001b4
  | tokenSign => 0xc40001b5
  | bootComplete => 0xc40001cf

/-- The name of a service in log lines. -/
def name : Service → String
  | delegate => "GTSI_DELEGATE"
  | undelegate => "GTSI_UNDELEGATE"
  | realmKey => "ATTEST_GET_REALM_KEY"
  | platformToken => "ATTEST_GET_PLAT_TOKEN"
  | features => "EL3_FEATURES"
  | tokenSign => "EL3_TOKEN_SIGN"
  | bootComplete => "BOOT_COMPLETE"

def ofCode? (code : UInt32) : Option Service := all.find? fun s => s.code == code

/-- Whether an identifier lies in the block of the services, assigned or not. -/
def owns (code : UInt32) : Bool := delegate.code ≤ code && code ≤ bootComplete.code

/-- The name under which log lines show an identifier. -/
def label (code : UInt32) : String := ((ofCode? code).map name).getD "Undefined"

theorem ofCode?_code (s : Service) : ofCode? s.code = some s := by cases s <;> rfl

theorem code_of_ofCode? {code : UInt32} {s : Service} (h : ofCode? code = some s) :
    s.code = code := by
  simpa using List.find?_some h

theorem ofCode?_eq_some_iff {code : UInt32} {s : Service} :
    ofCode? code = some s ↔ code = s.code :=
  ⟨fun h => (code_of_ofCode? h).symm, fun h => h ▸ ofCode?_code s⟩

end Service

/-- Why a service was not performed. -/
inductive ServiceError where
  | unknown
  | badAddress
  | badPas
  | noMemory
  | invalid
deriving DecidableEq, Repr

namespace ServiceError

def all : List ServiceError := [unknown, badAddress, badPas, noMemory, invalid]

/-- The negative status the interface assigns to an error. -/
def status : ServiceError → Int64
  | unknown => -1
  | badAddress => -2
  | badPas => -3
  | noMemory => -4
  | invalid => -5

/-- The status as a register holds it, in two's complement. -/
def code (e : ServiceError) : UInt64 := e.status.toUInt64

def name : ServiceError → String
  | unknown => "Unknown"
  | badAddress => "BadAddress"
  | badPas => "BadPas"
  | noMemory => "NoMemory"
  | invalid => "Invalid"

end ServiceError

/-- Why a granule could not be moved to the other world: the address is no
granule of the protection table, or the granule is not in the space it should
be moved from. -/
inductive GranuleFault where
  | invalidAddress
  | permission
deriving DecidableEq, Repr

namespace GranuleFault

def all : List GranuleFault := [invalidAddress, permission]

def toServiceError : GranuleFault → ServiceError
  | invalidAddress => .badAddress
  | permission => .badPas

def name : GranuleFault → String
  | invalidAddress => "InvalidAddress"
  | permission => "Permission"

end GranuleFault

/-- Register 0 has one bit, set when tokens are signed. No other register exists. -/
def featureRegister (signsTokens : Bool) (index : UInt64) : Except ServiceError UInt64 :=
  if index = 0 then .ok (if signsTokens then 1 else 0) else .error .invalid

end RealmDispatch
