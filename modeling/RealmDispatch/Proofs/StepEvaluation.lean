import RealmDispatch.Dispatch.Interrupt

/-!
# Evaluating the steps of the dispatcher

A step that does not halt is its outcome: a value, the machine it leaves behind,
and what it has requested and reported on the way. The equations of this module
turn a sequence of primitive steps into that outcome. They are all the proofs
about the dispatcher know of the way in which steps are composed.

The second half does the same for the tracker. Whatever the dispatcher does to
it, it does by telling it events, so a handler is described by a list of events.
The armed timer follows the replies, and nothing else of the machine changes.
-/
namespace RealmDispatch

namespace Outcome
variable {α β : Type}

@[simp] theorem andThen_mk_ok (a : α) (m : Machine) (rs : List Request) (ns : List Notice)
    (f : α → Machine → Outcome β) :
    andThen { result := .ok a, machine := m, requests := rs, notices := ns } f =
      (f a m).after rs ns := rfl

@[simp] theorem after_mk (r : Except Halt α) (m : Machine) (rs rs' : List Request)
    (ns ns' : List Notice) :
    after { result := r, machine := m, requests := rs', notices := ns' } rs ns =
      { result := r, machine := m, requests := rs ++ rs', notices := ns ++ ns' } := rfl

/-- What was done before a sequence stays in front of it. -/
theorem andThen_after (o : Outcome α) (rs : List Request) (ns : List Notice)
    (f : α → Machine → Outcome β) : (o.after rs ns).andThen f = (o.andThen f).after rs ns := by
  obtain ⟨_ | a, m, rs', ns'⟩ := o
  · rfl
  · simp [after]

end Outcome

namespace Machine

/-- With `x0` and up of a saved context written. -/
def written (m : Machine) (c : Core) (w : World) (values : List UInt64) : Machine :=
  m.setCpu c ((m.cpu c).load w values)

/-- With another call in flight on a core. -/
def setInFlight (m : Machine) (c : Core) (call : Option PendingCall) : Machine :=
  m.setCpu c { m.cpu c with inFlight := call }

/-- With a core gone over from one world to another. -/
def switched (m : Machine) (c : Core) (source target : World) : Machine :=
  let m := (m.saveSystem c source).restoreSystem c target
  m.setCpu c { m.cpu c with next := some target }

section Frames
variable (m : Machine) (c d : Core) (w source target : World) (values : List UInt64)
variable (call : Option PendingCall)

@[simp] theorem tracker_written : (m.written c w values).tracker = m.tracker := rfl

@[simp] theorem tracker_setInFlight : (m.setInFlight c call).tracker = m.tracker := rfl

@[simp] theorem tracker_switched : (m.switched c source target).tracker = m.tracker := rfl

@[simp] theorem inFlight_written :
    ((m.written c w values).cpu d).inFlight = (m.cpu d).inFlight := by
  rw [written, cpu_setCpu]
  by_cases hd : d = c
  · rw [if_pos hd, hd]
    rfl
  · rw [if_neg hd]

@[simp] theorem inFlight_setInFlight :
    ((m.setInFlight c call).cpu d).inFlight = if d = c then call else (m.cpu d).inFlight := by
  rw [setInFlight, cpu_setCpu]
  by_cases hd : d = c
  · rw [if_pos hd, if_pos hd]
  · rw [if_neg hd, if_neg hd]

@[simp] theorem inFlight_switched :
    ((m.switched c source target).cpu d).inFlight = (m.cpu d).inFlight := by
  have hsave (d : Core) : ((m.saveSystem c source).cpu d).inFlight = (m.cpu d).inFlight := by
    rw [saveSystem, cpu_setCpu]
    by_cases hd : d = c
    · rw [if_pos hd, hd]
      rfl
    · rw [if_neg hd]
  rw [switched, cpu_setCpu]
  by_cases hd : d = c
  · rw [if_pos hd, hd]
    exact hsave c
  · rw [if_neg hd]
    exact hsave d

end Frames

end Machine

namespace Step
variable {α β : Type} {b : Board} {m : Machine} {c : Core}

attribute [simp] bind_apply pure_apply

@[simp] theorem ite_apply (p : Prop) [Decidable p] (x y : Step α) :
    (if p then x else y) b m = if p then x b m else y b m := by
  by_cases h : p
  · rw [if_pos h, if_pos h]
  · rw [if_neg h, if_neg h]

@[simp] theorem board_apply : board b m = { result := .ok b, machine := m } := rfl

@[simp] theorem machine_apply : machine b m = { result := .ok m, machine := m } := rfl

@[simp] theorem modify_apply (f : Machine → Machine) :
    modify f b m = { result := .ok (), machine := f m } := rfl

@[simp] theorem request_apply (r : Request) :
    request r b m = { result := .ok (), machine := m, requests := [r] } := rfl

@[simp] theorem report_apply (ns : List Notice) :
    report ns b m = { result := .ok (), machine := m, notices := ns } := rfl

@[simp] theorem notify_apply (n : Notice) :
    notify n b m = { result := .ok (), machine := m, notices := [n] } := rfl

@[simp] theorem cpu_apply : cpu c b m = { result := .ok (m.cpu c), machine := m } := rfl

@[simp] theorem modifyCpu_apply (f : Cpu → Cpu) :
    modifyCpu c f b m = { result := .ok (), machine := m.setCpu c (f (m.cpu c)) } := rfl

/-- The position of a core is that core. -/
theorem core_eq (hc : b.core = c.val) : core b m = { result := .ok c, machine := m } := by
  have hlt : b.core < coreCount := hc ▸ c.isLt
  obtain rfl : c = ⟨b.core, hlt⟩ := Fin.ext hc.symm
  exact core_apply b m hlt

/-- The answer to a call nobody serves changes a register of the caller. -/
theorem reject_apply (flags : CallFlags) (hc : b.core = c.val) :
    reject flags b m =
      { result := .ok (.eret flags.world)
        machine := m.written c flags.world [unknownCall] } := by
  have hroom : [unknownCall].length ≤ generalCount := by decide
  simp [reject, Machine.written, core_eq hc, write_apply c flags.world hroom]

end Step

/-! ## Telling the tracker -/

namespace TimerUpdate

def request : TimerUpdate → Request
  | arm value => .arm value
  | disarm => .disarm

def notice : TimerUpdate → Notice
  | arm value => .timerArmed value
  | disarm => .timerDisarmed

/-- The value the timer is armed with afterwards. -/
def armed? : TimerUpdate → Option UInt64
  | arm value => some value
  | disarm => none

end TimerUpdate

namespace TrackerReply

/-- The change of the timer the reply asks for. -/
def update? : TrackerReply → Option TimerUpdate
  | .programmed update => update
  | .nothing | .registered _ | .issued _ => none

/-- What the dispatcher adds to the notices of the tracker. -/
def notices (e : TrackerEvent) : TrackerReply → List Notice
  | .registered (.error cause) =>
      match e with
      | .creationObserved rd => [.realmNotTracked rd cause]
      | _ => []
  | reply => (reply.update?.map TimerUpdate.notice).toList

end TrackerReply

/-- Everything reported when the tracker is told of an event. -/
def Tracker.notices (t : Tracker) (e : TrackerEvent) : List Notice :=
  (t.handle e).2.1 ++ (t.handle e).2.2.notices e

namespace Machine

/-- The machine after its tracker was told of an event. -/
def tell (m : Machine) (e : TrackerEvent) : Machine :=
  { m with
    tracker := (m.tracker.handle e).1
    armed := (m.tracker.handle e).2.2.update?.elim m.armed TimerUpdate.armed? }

def told (m : Machine) (events : List TrackerEvent) : Machine := events.foldl tell m

variable (m : Machine) (events : List TrackerEvent)

theorem tracker_told : (m.told events).tracker = m.tracker.evolve events := by
  induction events generalizing m with
  | nil => rfl
  | cons e es ih => exact ih (m.tell e)

/-- An event of the tracker changes the tracker and the armed timer, and nothing else. -/
theorem told_eq : m.told events =
    { m with tracker := m.tracker.evolve events, armed := (m.told events).armed } := by
  induction events generalizing m with
  | nil => rfl
  | cons e es ih => exact ih (m.tell e)

@[simp] theorem cpu_told (c : Core) : (m.told events).cpu c = m.cpu c := by
  rw [told_eq]
  rfl

end Machine

namespace Step
variable (b : Board) (m : Machine) (events : List TrackerEvent)

def tell (e : TrackerEvent) : Step Unit := fun _ m =>
  { result := .ok ()
    machine := m.tell e
    requests := ((m.tracker.handle e).2.2.update?.map TimerUpdate.request).toList
    notices := m.tracker.notices e }

def tellAll : List TrackerEvent → Step Unit
  | [] => pure ()
  | e :: es => do
      tell e
      tellAll es

@[simp] theorem result_tellAll : (tellAll events b m).result = .ok () := by
  induction events generalizing m with
  | nil => rfl
  | cons e es ih => exact ih (m.tell e)

@[simp] theorem machine_tellAll : (tellAll events b m).machine = m.told events := by
  induction events generalizing m with
  | nil => rfl
  | cons e es ih => exact ih (m.tell e)

theorem tellAll_andThen {β : Type} (f : Unit → Machine → Outcome β) :
    (tellAll events b m).andThen f =
      (f () (m.told events)).after (tellAll events b m).requests (tellAll events b m).notices := by
  rw [Outcome.andThen_ok (result_tellAll b m events), machine_tellAll]

theorem programTimer_eq : programTimer = tell .timerReprogrammed := by
  funext b m
  simp only [programTimer, tell, bind_apply, machine_apply, modify_apply, Machine.tell,
    Tracker.notices, Tracker.handle, TrackerReply.notices, TrackerReply.update?,
    Outcome.andThen_mk_ok]
  cases m.tracker.reprogram.2 with
  | none => rfl
  | some update => cases update <;> rfl

theorem tellAll_single (e : TrackerEvent) : tellAll [e] b m = tell e b m := by
  simp [tellAll, tell]

/-- A change of the tracker that is an event, with the timer brought in line with it. -/
theorem track_programTimer {f : Tracker → Tracker × List Notice} {e : TrackerEvent}
    (hf : ∀ t : Tracker, t.handle e = ((f t).1, (f t).2, .nothing)) :
    (do
      track f
      programTimer) b m = tellAll [e, .timerReprogrammed] b m := by
  rw [programTimer_eq]
  simp [track, tellAll, tell, Machine.tell, Tracker.notices, TrackerReply.update?,
    TrackerReply.notices, hf]

end Step

/-- What the tracker is told of a command on its way to the realm manager. -/
def observedEvents (args : Arguments) (clock : Clock) : List TrackerEvent :=
  match Command.ofCode? (callCode args) with
  | some .realmCreate => [.creationObserved args.x1]
  | some .realmActivate => [.activationObserved args.x1 clock, .timerReprogrammed]
  | _ => []

/-- What the tracker is told of a call the realm manager has served. -/
def completionEvents (call : PendingCall) (status : UInt64) (clock : Clock) : List TrackerEvent :=
  match Command.ofCode? call.code with
  | some .realmCreate => [.creationCompleted call.args.x1 status clock, .timerReprogrammed]
  | some .retentionGet => [.retentionCompleted call.args.x1 status clock, .timerReprogrammed]
  | some .realmDestroy => [.destructionCompleted call.args.x1 status, .timerReprogrammed]
  | _ => []

/-- The end of a destruction of data is reported and not remembered. -/
def completionNotices (call : PendingCall) (status : UInt64) : List Notice :=
  match Command.ofCode? call.code with
  | some .dataDestroyAll =>
      if status = 0 then [.dataDestroyed call.args.x1]
      else [.dataDestructionFailed call.args.x1 status]
  | _ => []

open Step
variable (b : Board) (m : Machine)

/-- Observing a command is telling the tracker of it. -/
theorem observe_apply (args : Arguments) :
    observe args b m = tellAll (observedEvents args b.clock) b m := by
  unfold observe observedEvents
  cases Command.ofCode? (callCode args) with
  | none => rfl
  | some command =>
      cases command with
      | realmCreate =>
          simp only [tellAll_single, track, Step.tell, Machine.tell, Tracker.notices,
            Tracker.handle, bind_apply, machine_apply, modify_apply, report_apply,
            Outcome.andThen_mk_ok]
          rcases m.tracker.observeCreation args.x1 with ⟨t, _ | _⟩ <;> rfl
      | realmActivate =>
          dsimp only
          rw [bind_apply, board_apply, Outcome.andThen_mk_ok, Outcome.after_nil]
          exact track_programTimer b m fun _ => rfl
      | _ => rfl

theorem noteCompletion_apply (call : PendingCall) (status : UInt64) :
    noteCompletion call status b m =
      (tellAll (completionEvents call status b.clock) b m).after []
        (completionNotices call status) := by
  unfold noteCompletion completionEvents completionNotices
  rw [bind_apply, board_apply, Outcome.andThen_mk_ok, Outcome.after_nil]
  cases Command.ofCode? call.code with
  | none => rfl
  | some command =>
      cases command with
      | realmCreate | retentionGet | realmDestroy =>
          dsimp only
          rw [Outcome.after_nil]
          exact track_programTimer b m fun _ => rfl
      | dataDestroyAll =>
          by_cases hstatus : status = 0
          · simp [hstatus, tellAll]
          · simp [hstatus, tellAll]
      | _ => rfl

theorem fireTimer_apply (issue : Bool) :
    fireTimer issue b m =
      { tellAll [.timerFired b.clock issue, .timerReprogrammed] b m with
        result := .ok (m.tracker.fire b.clock issue).2.2 } := by
  simp [fireTimer, programTimer_eq, tellAll, Step.tell, Machine.tell, Tracker.notices,
    Tracker.handle, TrackerReply.update?, TrackerReply.notices]

end RealmDispatch
