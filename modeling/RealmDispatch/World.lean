import RealmDispatch.Limits

/-!
# Security states and where a call comes from

A core runs in one of three worlds. A trapped call arrives with a word of
flags, of which two bits name the caller's world and a third repeats the SVE
hint; all other bits are kept and mean nothing. The encoding that has the realm
bit without the non-secure bit is reserved and counts as Secure, which makes
it ineligible for every call the dispatcher owns.
-/
namespace RealmDispatch

inductive World where
  | secure
  | nonSecure
  | realm
deriving DecidableEq, Repr

def World.index : World → Nat
  | .secure => 0
  | .nonSecure => 1
  | .realm => 2

structure CallFlags where
  bits : UInt64
deriving DecidableEq, Repr

namespace CallFlags

def nonSecureBit : UInt64 := 0x1

def realmBit : UInt64 := 0x20

def holds (f : CallFlags) (bit : UInt64) : Bool := f.bits &&& bit != 0

def world (f : CallFlags) : World :=
  if f.holds nonSecureBit then
    if f.holds realmBit then .realm else .nonSecure
  else .secure

def sveHint (f : CallFlags) : Bool := f.holds sveHintBit

end CallFlags

/-- What the exception return does once a handler has finished: resume a
world's saved context, or unwind to the stack of a waiting synchronous entry. -/
inductive Next where
  | eret (world : World)
  | resume (stack value : UInt64)
deriving DecidableEq, Repr

end RealmDispatch
