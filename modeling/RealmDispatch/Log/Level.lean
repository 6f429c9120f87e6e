/-!
# Severities of log lines and the limit on them

Levels are ordered from the most to the least severe. A limit admits the levels
that are at least as severe as it; `none` admits nothing.
-/
namespace RealmDispatch

inductive Level where
  | error
  | warn
  | info
  | debug
  | trace
deriving DecidableEq, Repr

namespace Level

def all : List Level := [error, warn, info, debug, trace]

/-- Position in the order of severity; the smaller, the more severe. -/
def rank : Level → Nat
  | error => 1
  | warn => 2
  | info => 3
  | debug => 4
  | trace => 5

def name : Level → String
  | error => "ERROR"
  | warn => "WARN"
  | info => "INFO"
  | debug => "DEBUG"
  | trace => "TRACE"

/-- Errors and warnings are shown in red. -/
def isAlarm (l : Level) : Bool := l.rank ≤ warn.rank

end Level

/-- The least severe level that is still written. -/
abbrev Limit : Type := Option Level

namespace Limit

def admits (limit : Limit) (l : Level) : Bool :=
  match limit with
  | none => false
  | some most => l.rank ≤ most.rank

def name : Limit → String
  | none => "OFF"
  | some l => l.name

end Limit

end RealmDispatch
