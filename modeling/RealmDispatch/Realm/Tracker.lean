import RealmDispatch.Notice
import RealmDispatch.Realm.Agenda

/-!
# Deferred destruction of realm data

A realm that was created successfully has a short time before it is asked for
its retention. Its answer, or a default when it answers 0, decides when its
data is destroyed on its behalf. An idle realm that is activated gets the
default at once. All pending deadlines share one timer.

The functions below are the events the tracker is told about. Each answers with
the tracker after the event and with the notices the event gives rise to. The
tracker never touches the timer itself: `reprogram` says how the timer has to
be changed, and the tracker remembers what it has said.
-/
namespace RealmDispatch

/-- What the tracker believes about the timer. A timer that has fired keeps
firing until it is programmed again. -/
inductive TimerState where
  | disarmed
  | armed (value : UInt64)
  | fired
deriving DecidableEq, Repr

/-- How the timer is to be changed. -/
inductive TimerUpdate where
  | arm (value : UInt64)
  | disarm
deriving DecidableEq, Repr

/-- A call the tracker wants the realm manager to serve. -/
inductive AutomaticCall where
  | askRetention (rd : Descriptor)
  | destroyData (rd : Descriptor)
deriving DecidableEq, Repr

namespace AutomaticCall

def command : AutomaticCall → Command
  | askRetention _ => .retentionGet
  | destroyData _ => .dataDestroyAll

def rd : AutomaticCall → Descriptor
  | askRetention rd => rd
  | destroyData rd => rd

end AutomaticCall

structure Tracker where
  registry : Registry := {}
  agenda : Agenda := {}
  timer : TimerState := .disarmed
  /-- No deadline is served before this point, which a deferral sets. -/
  notBefore : UInt64 := 0
deriving DecidableEq, Repr

namespace Tracker

def phase? (t : Tracker) (rd : Descriptor) : Option Phase :=
  (t.registry.lookup? rd).map Record.phase

def setPhase (t : Tracker) (rd : Descriptor) (phase : Phase) : Tracker :=
  { t with registry := t.registry.update rd fun r => { r with phase } }

def setRetention (t : Tracker) (rd : Descriptor) (retention : UInt64) : Tracker :=
  { t with registry := t.registry.update rd fun r => { r with retention } }

def schedule (t : Tracker) (rd : Descriptor) (due : UInt64) : Tracker × List Notice :=
  match t.agenda.schedule rd due with
  | (agenda, true) => ({ t with agenda }, [])
  | (agenda, false) => ({ t with agenda }, [.deadlineRefused rd])

/-- A creation was seen on its way to the realm manager. -/
def observeCreation (t : Tracker) (rd : Descriptor) : Tracker × Except Refusal Nat :=
  let (registry, handle) := t.registry.register rd
  ({ t with registry, agenda := t.agenda.remove rd }, handle)

/-- An activation was seen on its way to the realm manager. -/
def observeActivation (t : Tracker) (rd : Descriptor) (clock : Clock) :
    Tracker × List Notice :=
  match t.phase? rd with
  | none => (t, [])
  | some .idle =>
      let due := clock.afterSeconds defaultRetentionSeconds
      (t.setPhase rd (.awaitingDestruction due)).schedule rd due
  | some phase => (t, [.activationOutOfTurn rd phase])

/-- A creation was completed with a status, of which 0 means success. -/
def completeCreation (t : Tracker) (rd : Descriptor) (status : UInt64) (clock : Clock) :
    Tracker × List Notice :=
  if status ≠ 0 then (t, [.creationFailed rd status])
  else
    match t.phase? rd with
    | none => (t, [.creationUntracked rd])
    | some .idle =>
        (t.setPhase rd (.awaitingRetention false)).schedule rd
          (clock.afterSeconds retentionGuardSeconds)
    | some phase => (t, [.creationOutOfTurn rd phase])

/-- The seconds a reported retention stands for. -/
def retentionSeconds (retention : UInt64) : UInt64 :=
  if retention = 0 then defaultRetentionSeconds else retention

/-- The realm answered with its retention. -/
def completeRetention (t : Tracker) (rd : Descriptor) (retention : UInt64) (clock : Clock) :
    Tracker × List Notice :=
  match t.phase? rd with
  | none => (t, [.retentionUntracked rd])
  | some (.awaitingRetention _) =>
      let seconds := retentionSeconds retention
      let due := clock.afterSeconds seconds
      let (t, notices) :=
        ((t.setRetention rd retention).setPhase rd (.awaitingDestruction due)).schedule rd due
      (t, .destructionPlanned rd seconds :: notices)
  | some phase => (t, [.retentionOutOfTurn rd phase])

/-- A destruction was completed with a status, of which 0 means success. A realm
that is gone is no target for automatic calls. -/
def completeDestruction (t : Tracker) (rd : Descriptor) (status : UInt64) :
    Tracker × List Notice :=
  if status ≠ 0 then (t, [])
  else
    let (agenda, cancelled) := t.agenda.cancel rd
    ({ t.setPhase rd .idle with agenda },
      if cancelled.isSome then [.deadlineCancelled rd] else [])

/-- Takes the head off the agenda and turns it into a call. -/
def serve (t : Tracker) (d : Deadline) (now : UInt64) :
    Tracker × List Notice × Option AutomaticCall :=
  let t := { t with agenda := (t.agenda.popDue now).1, notBefore := 0 }
  match t.phase? d.rd with
  | none => (t, [.deadlineUntracked d.rd], none)
  | some (.awaitingRetention _) =>
      (t.setPhase d.rd (.awaitingRetention true), [], some (.askRetention d.rd))
  | some (.awaitingDestruction _) => (t.setPhase d.rd .idle, [], some (.destroyData d.rd))
  | some .idle => (t, [.deadlineStale d.rd], none)

/-- The timer fired. The earliest deadline, if it has fallen due, is served when
a call can be issued; otherwise it stays and no deadline is served before the
back-off has passed. -/
def fire (t : Tracker) (clock : Clock) (canIssue : Bool) :
    Tracker × List Notice × Option AutomaticCall :=
  let t := { t with timer := .fired }
  match t.agenda.head?.filter fun d => d.due ≤ clock.now with
  | none => (t, [.nothingDue], none)
  | some d =>
      if canIssue then t.serve d clock.now
      else
        ({ t with notBefore := clock.afterMilliseconds retryMilliseconds },
          [.deadlineDeferred d.rd], none)

/-- Brings the timer in line with the head of the agenda. -/
def reprogram (t : Tracker) : Tracker × Option TimerUpdate :=
  match t.agenda.earliest?.map fun due => max due t.notBefore with
  | none =>
      if t.timer = .disarmed then (t, none)
      else ({ t with timer := .disarmed }, some .disarm)
  | some value =>
      if t.timer = .armed value then (t, none)
      else ({ t with timer := .armed value }, some (.arm value))

end Tracker

/-! ## Histories -/

/-- Everything a tracker can be told. -/
inductive TrackerEvent where
  | creationObserved (rd : Descriptor)
  | activationObserved (rd : Descriptor) (clock : Clock)
  | creationCompleted (rd : Descriptor) (status : UInt64) (clock : Clock)
  | retentionCompleted (rd : Descriptor) (retention : UInt64) (clock : Clock)
  | destructionCompleted (rd : Descriptor) (status : UInt64)
  | timerFired (clock : Clock) (canIssue : Bool)
  | timerReprogrammed
deriving DecidableEq, Repr

/-- What a tracker has to say to an event. -/
inductive TrackerReply where
  | nothing
  | registered (handle : Except Refusal Nat)
  | issued (call : Option AutomaticCall)
  | programmed (update : Option TimerUpdate)

namespace Tracker

def handle (t : Tracker) : TrackerEvent → Tracker × List Notice × TrackerReply
  | .creationObserved rd =>
      let (t, handle) := t.observeCreation rd
      (t, [], .registered handle)
  | .activationObserved rd clock =>
      let (t, notices) := t.observeActivation rd clock
      (t, notices, .nothing)
  | .creationCompleted rd status clock =>
      let (t, notices) := t.completeCreation rd status clock
      (t, notices, .nothing)
  | .retentionCompleted rd retention clock =>
      let (t, notices) := t.completeRetention rd retention clock
      (t, notices, .nothing)
  | .destructionCompleted rd status =>
      let (t, notices) := t.completeDestruction rd status
      (t, notices, .nothing)
  | .timerFired clock canIssue =>
      let (t, notices, call) := t.fire clock canIssue
      (t, notices, .issued call)
  | .timerReprogrammed =>
      let (t, update) := t.reprogram
      (t, [], .programmed update)

/-- The tracker after a history of events, told one after the other. -/
def evolve (t : Tracker) (events : List TrackerEvent) : Tracker :=
  events.foldl (fun t e => (t.handle e).1) t

theorem evolve_append (t : Tracker) (es fs : List TrackerEvent) :
    t.evolve (es ++ fs) = (t.evolve es).evolve fs := List.foldl_append

end Tracker

end RealmDispatch
