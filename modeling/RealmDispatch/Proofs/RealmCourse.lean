import RealmDispatch.Realm.Tracker

/-!
# The course of a single realm

The deferred destruction of one realm is a small automaton of its own. It knows
nothing of other realms, of the capacity of the registry or of the agenda: its
state is a stage and the retention the realm has reported, or nothing while the
realm is not tracked. A stage that waits for the timer carries the counter value
it waits for, computed without bounds and cut off once at the end of the counter.

The tracker is compared with this automaton realm by realm. An event of the
tracker means something to a realm if it names the realm, or if it is the timer
and the realm is served. Two kinds of events mean nothing after all: a creation
that is not registered, and a timer that serves no one or another realm. Both
are told apart by the reply the tracker gives.
-/
namespace RealmDispatch

/-- Waiting for the retention has two forms: a deadline is pending at which the
realm will be asked, or the question is out and nothing is pending. -/
inductive RealmStage where
  | idle
  | retentionDue (due : UInt64)
  | retentionAsked
  | destructionDue (due : UInt64)
deriving DecidableEq, Repr

namespace RealmStage

def phase : RealmStage → Phase
  | idle => .idle
  | retentionDue _ => .awaitingRetention false
  | retentionAsked => .awaitingRetention true
  | destructionDue due => .awaitingDestruction due

def due? : RealmStage → Option UInt64
  | retentionDue due | destructionDue due => some due
  | idle | retentionAsked => none

/-- The call a realm is served with, if it waits for one. -/
def call? (rd : Descriptor) : RealmStage → Option AutomaticCall
  | retentionDue _ | retentionAsked => some (.askRetention rd)
  | destructionDue _ => some (.destroyData rd)
  | idle => none

theorem rd_of_call? {rd : Descriptor} {s : RealmStage} {call : AutomaticCall}
    (h : s.call? rd = some call) : call.rd = rd := by
  cases s <;> cases h <;> rfl

theorem eq_of_phase {s s' : RealmStage} (hphase : s.phase = s'.phase) (hdue : s.due? = s'.due?) :
    s = s' := by
  cases s <;> cases s' <;> simp_all [phase, due?]

end RealmStage

structure RealmCourse where
  stage : RealmStage := .idle
  hint : UInt64 := 0
deriving DecidableEq, Repr

/-- What can happen to one realm. -/
inductive RealmEvent where
  | created
  | creationCompleted (status : UInt64) (clock : Clock)
  | activated (clock : Clock)
  | retentionReported (retention : UInt64) (clock : Clock)
  | destructionCompleted (status : UInt64)
  | served
deriving DecidableEq, Repr

/-- The counter value at which a number of seconds is over, in exact arithmetic
up to the end of the counter. -/
def Clock.exactly (c : Clock) (seconds : Nat) : UInt64 :=
  Counter.clamp (c.now.toNat + seconds * c.frequency.toNat)

namespace RealmCourse

def next (c : RealmCourse) : RealmEvent → RealmCourse
  | .created => {}
  | .creationCompleted status clock =>
      match c.stage with
      | .idle => if status = 0 then { c with stage := .retentionDue (clock.exactly 2) } else c
      | _ => c
  | .activated clock =>
      match c.stage with
      | .idle => { c with stage := .destructionDue (clock.exactly 30) }
      | _ => c
  | .retentionReported retention clock =>
      match c.stage with
      | .retentionDue _ | .retentionAsked =>
          { stage := .destructionDue
              (clock.exactly (if retention = 0 then 30 else retention.toNat))
            hint := retention }
      | _ => c
  | .destructionCompleted status => if status = 0 then { c with stage := .idle } else c
  | .served =>
      match c.stage with
      | .retentionDue _ | .retentionAsked => { c with stage := .retentionAsked }
      | .destructionDue _ => { c with stage := .idle }
      | .idle => c

/-- A realm that is not tracked has no course, and only a creation starts one. -/
def advance (s : Option RealmCourse) : RealmEvent → Option RealmCourse
  | .created => some {}
  | e => s.map fun c => c.next e

def record (rd : Descriptor) (c : RealmCourse) : Record :=
  { rd, retention := c.hint, phase := c.stage.phase }

def deadline? (rd : Descriptor) (c : RealmCourse) : Option Deadline :=
  c.stage.due?.map fun due => { due, rd }

/-- Record and deadline determine a course. -/
theorem eq_of_record {rd : Descriptor} {c c' : RealmCourse} (hrecord : c.record rd = c'.record rd)
    (hdeadline : c.deadline? rd = c'.deadline? rd) : c = c' := by
  obtain ⟨stage, hint⟩ := c
  obtain ⟨stage', hint'⟩ := c'
  simp only [record, Record.mk.injEq, true_and] at hrecord
  have hdue : stage.due? = stage'.due? := by
    refine Option.map_injective ?_ hdeadline
    intro due due' heq
    exact congrArg Deadline.due heq
  rw [hrecord.1, RealmStage.eq_of_phase hrecord.2 hdue]

end RealmCourse

/-! ## What an event of the tracker means to one realm -/

/-- What the event says about `rd`. The timer may serve any realm. -/
def TrackerEvent.about (rd : Descriptor) : TrackerEvent → Option RealmEvent
  | .creationObserved d => if d = rd then some .created else none
  | .activationObserved d clock => if d = rd then some (.activated clock) else none
  | .creationCompleted d status clock =>
      if d = rd then some (.creationCompleted status clock) else none
  | .retentionCompleted d retention clock =>
      if d = rd then some (.retentionReported retention clock) else none
  | .destructionCompleted d status =>
      if d = rd then some (.destructionCompleted status) else none
  | .timerFired _ _ => some .served
  | .timerReprogrammed => none

/-- Whether a reply leaves standing what its event says about `rd`. -/
def TrackerReply.grants (rd : Descriptor) : TrackerReply → Bool
  | .registered handle => handle.isOk
  | .issued call => call.any fun call => call.rd == rd
  | .nothing | .programmed _ => true

namespace Tracker

/-- What an event, told to the tracker, means to `rd`. -/
def news (t : Tracker) (rd : Descriptor) (e : TrackerEvent) : Option RealmEvent :=
  if (t.handle e).2.2.grants rd then e.about rd else none

section News
variable (t : Tracker) (rd d : Descriptor) (value : UInt64) (clock : Clock) (issue : Bool)

@[simp] theorem news_creationObserved : t.news rd (.creationObserved d) =
    if (t.observeCreation d).2.isOk then if d = rd then some .created else none else none := rfl

@[simp] theorem news_activationObserved : t.news rd (.activationObserved d clock) =
    if d = rd then some (.activated clock) else none := rfl

@[simp] theorem news_creationCompleted : t.news rd (.creationCompleted d value clock) =
    if d = rd then some (.creationCompleted value clock) else none := rfl

@[simp] theorem news_retentionCompleted : t.news rd (.retentionCompleted d value clock) =
    if d = rd then some (.retentionReported value clock) else none := rfl

@[simp] theorem news_destructionCompleted : t.news rd (.destructionCompleted d value) =
    if d = rd then some (.destructionCompleted value) else none := rfl

@[simp] theorem news_timerFired : t.news rd (.timerFired clock issue) =
    if (t.fire clock issue).2.2.any fun call => call.rd == rd then some .served else none := rfl

@[simp] theorem news_timerReprogrammed : t.news rd .timerReprogrammed = none := rfl

end News

/-- What a history of the tracker means to `rd`. -/
def chronicle (rd : Descriptor) : Tracker → List TrackerEvent → List RealmEvent
  | _, [] => []
  | t, e :: es => (t.news rd e).toList ++ chronicle rd (t.handle e).1 es

theorem chronicle_append (t : Tracker) (rd : Descriptor) (es fs : List TrackerEvent) :
    chronicle rd t (es ++ fs) = chronicle rd t es ++ chronicle rd (t.evolve es) fs := by
  induction es generalizing t with
  | nil => rfl
  | cons e es ih =>
      rw [List.cons_append, chronicle, ih, chronicle, List.append_assoc]
      rfl

/-- The course of `rd` after a history that begins with nothing tracked. -/
def course (rd : Descriptor) (events : List TrackerEvent) : Option RealmCourse :=
  (chronicle rd {} events).foldl RealmCourse.advance none

theorem course_snoc (rd : Descriptor) (es : List TrackerEvent) (e : TrackerEvent) :
    course rd (es ++ [e]) =
      ((({} : Tracker).evolve es).news rd e).elim (course rd es)
        (RealmCourse.advance (course rd es)) := by
  simp only [course, chronicle_append, chronicle, List.foldl_append, List.append_nil]
  cases (({} : Tracker).evolve es).news rd e <;> rfl

end Tracker

end RealmDispatch
