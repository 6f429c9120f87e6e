/-!
# Commands of the realm management interface

The host manages realms with these commands, and the dispatcher hands them on
to the realm manager. A block of function identifiers belongs to the interface
as a whole; only some of the block's identifiers are assigned to a command. The
last one, `requestComplete`, goes the other way: the realm manager reports with
it that it has served the call handed over last.
-/
namespace RealmDispatch

inductive Command where
  | version
  | granuleDelegate
  | granuleUndelegate
  | dataCreate
  | dataCreateUnknown
  | dataDestroy
  | realmActivate
  | realmCreate
  | realmDestroy
  | recCreate
  | recDestroy
  | recEnter
  | rttCreate
  | rttDestroy
  | rttMapUnprotected
  | rttReadEntry
  | rttUnmapUnprotected
  | psciComplete
  | features
  | rttFold
  | recAuxCount
  | rttInitRipas
  | rttSetRipas
  | dataDestroyAll
  | retentionGet
  | requestComplete
deriving DecidableEq, Repr

namespace Command

def all : List Command :=
  [version, granuleDelegate, granuleUndelegate, dataCreate, dataCreateUnknown, dataDestroy,
    realmActivate, realmCreate, realmDestroy, recCreate, recDestroy, recEnter, rttCreate,
    rttDestroy, rttMapUnprotected, rttReadEntry, rttUnmapUnprotected, psciComplete, features,
    rttFold, recAuxCount, rttInitRipas, rttSetRipas, dataDestroyAll, retentionGet,
    requestComplete]

/-- The function identifier assigned to a command. -/
def code : Command → UInt32
  | version => 0xc4000150
  | granuleDelegate => 0xc4000151
  | granuleUndelegate => 0xc4000152
  | dataCreate => 0xc4000153
  | dataCreateUnknown => 0xc4000154
  | dataDestroy => 0xc4000155
  | realmActivate => 0xc4000157
  | realmCreate => 0xc4000158
  | realmDestroy => 0xc4000159
  | recCreate => 0xc400015a
  | recDestroy => 0xc400015b
  | recEnter => 0xc400015c
  | rttCreate => 0xc400015d
  | rttDestroy => 0xc400015e
  | rttMapUnprotected => 0xc400015f
  | rttReadEntry => 0xc4000161
  | rttUnmapUnprotected => 0xc4000162
  | psciComplete => 0xc4000164
  | features => 0xc4000165
  | rttFold => 0xc4000166
  | recAuxCount => 0xc4000167
  | rttInitRipas => 0xc4000168
  | rttSetRipas => 0xc4000169
  | dataDestroyAll => 0xc4000170
  | retentionGet => 0xc4000171
  | requestComplete => 0xc400018f

/-- The name of a command in log lines. -/
def name : Command → String
  | version => "VERSION"
  | granuleDelegate => "GRANULE_DELEGATE"
  | granuleUndelegate => "GRANULE_UNDELEGATE"
  | dataCreate => "DATA_CREATE"
  | dataCreateUnknown => "DATA_CREATE_UNKNOWN"
  | dataDestroy => "DATA_DESTROY"
  | realmActivate => "REALM_ACTIVATE"
  | realmCreate => "REALM_CREATE"
  | realmDestroy => "REALM_DESTROY"
  | recCreate => "REC_CREATE"
  | recDestroy => "REC_DESTROY"
  | recEnter => "REC_ENTER"
  | rttCreate => "RTT_CREATE"
  | rttDestroy => "RTT_DESTROY"
  | rttMapUnprotected => "RTT_MAP_UNPROTECTED"
  | rttReadEntry => "RTT_READ_ENTRY"
  | rttUnmapUnprotected => "RTT_UNMAP_UNPROTECTED"
  | psciComplete => "PSCI_COMPLETE"
  | features => "FEATURES"
  | rttFold => "RTT_FOLD"
  | recAuxCount => "REC_AUX_COUNT"
  | rttInitRipas => "RTT_INIT_RIPAS"
  | rttSetRipas => "RTT_SET_RIPAS"
  | dataDestroyAll => "DATA_DESTROY_ALL"
  | retentionGet => "RPV_GET"
  | requestComplete => "REQ_COMPLETE"

def ofCode? (code : UInt32) : Option Command := all.find? fun c => c.code == code

/-- Whether an identifier lies in the block of the interface, assigned or not. -/
def owns (code : UInt32) : Bool := version.code ≤ code && code ≤ requestComplete.code

/-- The name under which log lines show an identifier. -/
def label (code : UInt32) : String := ((ofCode? code).map name).getD "Undefined"

theorem ofCode?_code (c : Command) : ofCode? c.code = some c := by cases c <;> rfl

theorem code_of_ofCode? {code : UInt32} {c : Command} (h : ofCode? code = some c) :
    c.code = code := by
  simpa using List.find?_some h

theorem ofCode?_eq_some_iff {code : UInt32} {c : Command} :
    ofCode? code = some c ↔ code = c.code :=
  ⟨fun h => (code_of_ofCode? h).symm, fun h => h ▸ ofCode?_code c⟩

end Command

end RealmDispatch
