import RealmDispatch.Limits
import RealmDispatch.Realm.Record

/-!
# The bounded list of known realms

Records stay in the order in which their realms were first registered and are
never dropped, so the index of a record can serve as a handle for it. A realm
that is registered again starts over in place. A refused registration leaves
the list as it was.
-/
namespace RealmDispatch

/-- Why a realm was not taken into the registry. -/
inductive Refusal where
  | nullDescriptor
  | capacityExceeded
deriving DecidableEq, Repr

def Refusal.name : Refusal → String
  | .nullDescriptor => "NullDescriptor"
  | .capacityExceeded => "CapacityExceeded"

structure Registry where
  records : List Record := []
deriving DecidableEq, Repr

namespace Registry

def size (r : Registry) : Nat := r.records.length

def isFull (r : Registry) : Bool := realmCapacity ≤ r.size

def index? (r : Registry) (rd : Descriptor) : Option Nat :=
  r.records.findIdx? fun record => record.rd == rd

def lookup? (r : Registry) (rd : Descriptor) : Option Record :=
  r.records.find? fun record => record.rd == rd

def get? (r : Registry) (handle : Nat) : Option Record := r.records[handle]?

/-- Changes the record of `rd`, if there is one, and no other. -/
def update (r : Registry) (rd : Descriptor) (f : Record → Record) : Registry :=
  ⟨r.records.map fun record => if record.rd = rd then f record else record⟩

/-- Takes `rd` in, or restarts its record, and answers with its handle. -/
def register (r : Registry) (rd : Descriptor) : Registry × Except Refusal Nat :=
  if rd = 0 then (r, .error .nullDescriptor)
  else
    match r.index? rd with
    | some i => (r.update rd fun _ => { rd }, .ok i)
    | none =>
        if r.isFull then (r, .error .capacityExceeded)
        else (⟨r.records ++ [{ rd }]⟩, .ok r.size)

end Registry

end RealmDispatch
