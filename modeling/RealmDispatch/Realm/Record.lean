import RealmDispatch.Text.Numeral

/-!
# What is remembered about one realm

A realm is named by the physical address of its descriptor. It is either idle,
or waiting to be asked for its retention, or waiting for its data to be
destroyed. The retention is what the realm reported, in seconds, and 0 until it
has reported one.
-/
namespace RealmDispatch

/-- The physical address of a realm descriptor; 0 names no realm. -/
abbrev Descriptor : Type := UInt64

inductive Phase where
  | idle
  | awaitingRetention (issued : Bool)
  | awaitingDestruction (due : UInt64)
deriving DecidableEq, Repr

/-- A phase as log lines show it. -/
def Phase.text : Phase → String
  | .idle => "Idle"
  | .awaitingRetention issued =>
      "AwaitingRpv \x7b issued: " ++ (if issued then "true" else "false") ++ " \x7d"
  | .awaitingDestruction due =>
      "AwaitingDestroyTimeout \x7b deadline: " ++ Numeral.decimal due.toNat ++ " \x7d"

structure Record where
  rd : Descriptor
  retention : UInt64 := 0
  phase : Phase := .idle
deriving DecidableEq, Repr

end RealmDispatch
