import RealmDispatch.Console
import RealmDispatch.Log.Line

/-!
# The logger

There is one logger. It is registered once, together with a limit; registering
it again is refused and leaves the limit alone, but the limit can be changed at
any time. Lines above the limit are dropped. What the console refuses is lost,
and the caller never learns of it.
-/
namespace RealmDispatch

structure Logger where
  registered : Bool := false
  limit : Limit := none
  console : Console := {}
deriving DecidableEq, Repr

namespace Logger

/-- Registers the logger and says whether it could be registered. -/
def register (l : Logger) (limit : Limit) : Logger × Bool :=
  if l.registered then (l, false) else ({ l with registered := true, limit }, true)

def setLimit (l : Logger) (limit : Limit) : Logger := { l with limit }

/-- Writes a line if the limit admits it. -/
def log (l : Logger) (line : Line) : Logger :=
  if l.limit.admits line.level then { l with console := l.console.writeAll line.pieces } else l

end Logger

end RealmDispatch
