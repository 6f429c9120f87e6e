import RealmDispatch.Log.Level

/-!
# The form of a log line

A line reads `[LEVEL]source -- text`. Errors and warnings are enclosed in the
escape sequences that switch a terminal to red and back. A line is written in
pieces, one after the other.
-/
namespace RealmDispatch

structure Line where
  level : Level
  source : String
  text : String
deriving DecidableEq, Repr

namespace Line

def red : String := "\x1b[0;31m"

def plain : String := "\x1b[0m"

/-- The pieces of a line, its end included, in the order of writing. -/
def pieces (l : Line) : List String :=
  let body := ["[", l.level.name, "]", l.source, " -- ", l.text]
  if l.level.isAlarm then red :: body ++ [plain, "\n"] else body ++ ["\n"]

/-- The line without its end. -/
def shown (l : Line) : String := String.join l.pieces.dropLast

end Line

end RealmDispatch
