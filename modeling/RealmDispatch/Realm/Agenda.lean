import RealmDispatch.Clock
import RealmDispatch.Limits
import RealmDispatch.Realm.Record

/-!
# Pending deadlines

Each realm has at most one pending deadline. Deadlines are kept in the order in
which they fall due, and those that fall due together in the order in which
they were scheduled, so the head is the one the timer has to wait for.
-/
namespace RealmDispatch

structure Deadline where
  due : UInt64
  rd : Descriptor
deriving DecidableEq, Repr

structure Agenda where
  entries : List Deadline := []
deriving DecidableEq, Repr

namespace Agenda

def size (a : Agenda) : Nat := a.entries.length

def head? (a : Agenda) : Option Deadline := a.entries.head?

/-- When the next deadline falls due. -/
def earliest? (a : Agenda) : Option UInt64 := a.head?.map Deadline.due

def contains (a : Agenda) (rd : Descriptor) : Bool := a.entries.any fun d => d.rd == rd

def find? (a : Agenda) (rd : Descriptor) : Option Deadline :=
  a.entries.find? fun d => d.rd == rd

def remove (a : Agenda) (rd : Descriptor) : Agenda :=
  ⟨a.entries.eraseP fun d => d.rd == rd⟩

/-- Removes the deadline of `rd` and answers with it. -/
def cancel (a : Agenda) (rd : Descriptor) : Agenda × Option Deadline :=
  (a.remove rd, a.find? rd)

/-- Puts a deadline behind all those that fall due no later. -/
def place (a : Agenda) (d : Deadline) : Agenda :=
  ⟨a.entries.takeWhile (fun e => e.due ≤ d.due) ++
    d :: a.entries.dropWhile (fun e => e.due ≤ d.due)⟩

/-- Gives `rd` a deadline instead of the one it may have, and says whether there
was room for it. -/
def schedule (a : Agenda) (rd : Descriptor) (due : UInt64) : Agenda × Bool :=
  let others := a.remove rd
  if others.size < realmCapacity then (others.place { due, rd }, true) else (others, false)

/-- Removes the head and answers with it, if it has fallen due. -/
def popDue (a : Agenda) (now : UInt64) : Agenda × Option Deadline :=
  match a.entries with
  | [] => (a, none)
  | d :: rest => if d.due ≤ now then (⟨rest⟩, some d) else (a, none)

/-- What up to `n` removals at `now` answer with. -/
def popMany (now : UInt64) : Nat → Agenda → Agenda × List Deadline
  | 0, a => (a, [])
  | n + 1, a =>
      match a.popDue now with
      | (b, none) => (b, [])
      | (b, some d) =>
          let (c, ds) := popMany now n b
          (c, d :: ds)

/-- Removes deadlines as if the counter had reached its end. -/
def drain (a : Agenda) : Agenda × List Deadline := popMany Counter.last a.size a

end Agenda

end RealmDispatch
