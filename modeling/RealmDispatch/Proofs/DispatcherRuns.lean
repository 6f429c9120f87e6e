import RealmDispatch.Proofs.CallDispositions
import RealmDispatch.Proofs.LocalSteps
import RealmDispatch.Proofs.RetentionQuestion

/-!
# Runs of the dispatcher

A run is a list of episodes, each of one core. In an episode the core calls an
operation of the dispatcher, the realm manager comes back from a synchronous
entry, or software changes the live registers. Episodes of different cores come
in any order. Every episode has a board of its own, so the clocks, the interrupts
and the answers of the services are arbitrary and need not fit each other. An
episode that halts leaves the machine as it was when it halted.

Of all operations only calls and interrupts reach the tracker or put a call in
flight. `Episode.Effect` says everything they can do: a call is handed to the realm
manager, the one in flight is completed, or the core goes on with some registers
written. What a run tells the tracker is one list of tracker events, so the
tracker after a run has a history.
-/
namespace RealmDispatch
open Step

/-! ## Episodes -/

section
variable (m : Machine) (args : Arguments) (flags : CallFlags)

instance : Decidable (Forwards m args flags) := inferInstanceAs (Decidable (_ ∧ _))

instance : Decidable (Completes m args flags) := inferInstanceAs (Decidable (_ ∧ _))

end

/-- The host issues calls, and the realm manager completes them. -/
theorem not_completes_of_forwards {m : Machine} {args : Arguments} {flags : CallFlags}
    (h : Forwards m args flags) : ¬ Completes m args flags := by
  intro hcompletes
  have hworld := h.2.1.symm.trans hcompletes.2.1
  cases hworld

inductive Activity where
  /-- An operation, up to its answer or to where the realm manager takes over. -/
  | operation (op : Operation)
  /-- The realm manager comes back from a synchronous entry. -/
  | comeback (entry : Entry) (status : UInt64)
  /-- Software that runs on the core changes the live registers. -/
  | software (live : SystemRegisters)

namespace Activity

def perform : Activity → Board → Machine → Machine
  | operation op, b, m => (op.start b m).machine
  | comeback entry status, b, m => (entry.finish status b m).machine
  | software live, _, m => { m with live }

/-- The world a call comes from, or an interrupt is taken from. -/
def caller? : Activity → Option World
  | operation (.call _ flags) => some flags.world
  | operation (.interrupt interrupted) => some interrupted
  | operation _ | comeback .. | software _ => none

end Activity

structure Episode where
  core : Core
  board : Board
  activity : Activity
  here : board.core = core.val

namespace Episode

def next (e : Episode) (m : Machine) : Machine := e.activity.perform e.board m

/-- Whether the timer, taken from a world, may forward a call on the core. -/
def mayIssue (e : Episode) (m : Machine) (interrupted : World) : Bool :=
  interrupted = .nonSecure && (m.cpu e.core).inFlight.isNone

/-- The automatic call the episode issues. -/
def issued? (e : Episode) (m : Machine) : Option AutomaticCall :=
  match e.activity with
  | .operation (.interrupt interrupted) =>
      if e.board.interrupt = timerInterrupt then
        (m.tracker.fire e.board.clock (e.mayIssue m interrupted)).2.2
      else none
  | _ => none

/-- The call the episode hands to the realm manager, of the host or of the timer. -/
def forwarded? (e : Episode) (m : Machine) : Option PendingCall :=
  match e.activity with
  | .operation (.call args flags) =>
      if Forwards m args flags then some ⟨callCode args, args, .host⟩ else none
  | _ => (e.issued? m).map fun call => ⟨call.command.code, call.args, .timer⟩

/-- The call in flight that the episode completes, and the status it is completed with. -/
def completed? (e : Episode) (m : Machine) : Option (PendingCall × UInt64) :=
  match e.activity with
  | .operation (.call args flags) =>
      if Completes m args flags then (m.cpu e.core).inFlight.map fun call => (call, args.x1)
      else none
  | _ => none

/-- What the tracker is told during the episode. -/
def told (e : Episode) (m : Machine) : List TrackerEvent :=
  match e.activity with
  | .operation (.call args flags) =>
      if Forwards m args flags then observedEvents args e.board.clock
      else
        (e.completed? m).elim [] fun (call, status) => completionEvents call status e.board.clock
  | .operation (.interrupt interrupted) =>
      if e.board.interrupt = timerInterrupt then
        [.timerFired e.board.clock (e.mayIssue m interrupted), .timerReprogrammed]
      else []
  | _ => []

end Episode

theorem AutomaticCall.callCode_args (call : AutomaticCall) :
    callCode call.args = call.command.code := by
  cases call <;> rfl

/-- The machine after a call was handed to the realm manager. -/
def Machine.forwarded (m : Machine) (c : Core) (call : PendingCall) (values : List UInt64) :
    Machine :=
  ((m.setInFlight c (some call)).switched c .nonSecure .realm).written c .realm values

theorem Machine.written_nil (m : Machine) (c : Core) (w : World) : m.written c w [] = m := by
  have hgeneral (r : GeneralRegisters) : r.load [] = r := by
    simp [GeneralRegisters.load, Vector.get]
  have hcpu : (m.cpu c).load w [] = m.cpu c := by
    rw [Cpu.load, hgeneral]
    cases w <;> rfl
  rw [written, hcpu]
  simp [setCpu, Machine.cpu]

namespace Episode
variable {e : Episode} {m : Machine}

/-- Everything an episode can do to the machine. -/
inductive Effect (e : Episode) (m : Machine) : Machine → Prop
  | forwards {call : PendingCall} {values : List UInt64} :
      e.forwarded? m = some call → e.completed? m = none →
      e.activity.caller? = some .nonSecure →
      Effect e m ((m.told (e.told m)).forwarded e.core call values)
  | completes {call : PendingCall} {args : Arguments} :
      e.forwarded? m = none → e.completed? m = some (call, args.x1) →
      e.activity.caller? = some .realm →
      e.told m = completionEvents call args.x1 e.board.clock →
      Effect e m (m.completed e.core call args e.board.clock)
  | goesOn {w : World} {values : List UInt64} :
      e.forwarded? m = none → e.completed? m = none → e.activity.caller? = some w →
      Effect e m ((m.told (e.told m)).written e.core w values)
  | untrapped {m' : Machine} : e.forwarded? m = none → e.completed? m = none →
      e.activity.caller? = none → e.told m = [] → m.AgreesBeside m' e.core → Effect e m m'

/-- A call that is neither forwarded nor completes another one writes to its caller. -/
theorem handleCall_written {b : Board} {c : Core} {args : Arguments} {flags : CallFlags}
    (hc : b.core = c.val) (hforwards : ¬ Forwards m args flags)
    (hcompletes : Completes m args flags → (m.cpu c).inFlight = none) :
    ∃ values, (handleCall args flags b m).machine = m.written c flags.world values := by
  cases disposition b m c args flags with
  | forwarded h => exact absurd h hforwards
  | completed h hcall =>
      rw [hcompletes h] at hcall
      cases hcall
  | left hboot h =>
      refine ⟨[], ?_⟩
      rw [handleCall_of_leaves hboot h, Machine.written_nil]
      exact machine_leaveEntry args.x1 hc
  | served h =>
      obtain ⟨values, requests, notices, -, -, hcall⟩ := handleCall_served hc h
      rw [hcall, h.world]
      exact ⟨values, rfl⟩
  | refused h =>
      obtain ⟨notices, -, hcall⟩ := handleCall_refused hc h
      rw [hcall]
      exact ⟨[unknownCall], rfl⟩

/-- An operation that is called goes as far as its step, and answers with what it gives. -/
theorem machine_answered {α : Type} (x : Step α) (f : α → Progress) (b : Board) (m : Machine) :
    ((do
      let a ← x
      pure (f a) : Step Progress) b m).machine = (x b m).machine := by
  rw [bind_apply, Outcome.andThen]
  split <;> rfl

theorem next_call {args : Arguments} {flags : CallFlags}
    (h : e.activity = .operation (.call args flags)) :
    e.next m = (handleCall args flags e.board m).machine := by
  rw [next, h]
  exact machine_answered _ _ e.board m

theorem next_interrupt {interrupted : World}
    (h : e.activity = .operation (.interrupt interrupted)) :
    e.next m = (handleInterrupt interrupted e.board m).machine := by
  rw [next, h]
  exact machine_answered _ _ e.board m

section Call
variable {args : Arguments} {flags : CallFlags}
  (h : e.activity = .operation (.call args flags))
include h

theorem caller?_call : e.activity.caller? = some flags.world := by
  rw [h]
  rfl

theorem forwarded?_call : e.forwarded? m =
    if Forwards m args flags then some ⟨callCode args, args, .host⟩ else none := by
  rw [forwarded?, h]

theorem completed?_call : e.completed? m =
    if Completes m args flags then (m.cpu e.core).inFlight.map fun call => (call, args.x1)
    else none := by
  rw [completed?, h]

theorem told_call : e.told m =
    if Forwards m args flags then observedEvents args e.board.clock
    else
      (e.completed? m).elim [] fun done => completionEvents done.1 done.2 e.board.clock := by
  rw [told, h]

theorem effect_of_forwards (hforwards : Forwards m args flags) : e.Effect m (e.next m) := by
  have hnot : ¬ Completes m args flags := not_completes_of_forwards hforwards
  have hforwarded := forwarded?_call (m := m) h
  have hcompleted := completed?_call (m := m) h
  have htold := told_call (m := m) h
  have hcaller := caller?_call h
  rw [if_pos hforwards] at hforwarded htold
  rw [if_neg hnot] at hcompleted
  rw [hforwards.2.1] at hcaller
  rw [next_call h, handleCall_forwards hforwards, forward_apply _ _ _ e.here, ← htold]
  exact .forwards hforwarded hcompleted hcaller

theorem effect_of_completes {call : PendingCall} (hcompletes : Completes m args flags)
    (hcall : (m.cpu e.core).inFlight = some call) : e.Effect m (e.next m) := by
  have hnot : ¬ Forwards m args flags := fun hforwards =>
    not_completes_of_forwards hforwards hcompletes
  have hforwarded := forwarded?_call (m := m) h
  have hcompleted := completed?_call (m := m) h
  have htold := told_call (m := m) h
  have hcaller := caller?_call h
  rw [if_pos hcompletes, hcall, Option.map_some] at hcompleted
  rw [if_neg hnot] at hforwarded htold
  rw [hcompleted, Option.elim_some] at htold
  rw [hcompletes.2.1] at hcaller
  rw [next_call h, handleCall_completes hcompletes, complete_apply e.here hcall]
  exact .completes hforwarded hcompleted hcaller htold

theorem effect_of_written (hforwards : ¬ Forwards m args flags)
    (hcompletes : Completes m args flags → (m.cpu e.core).inFlight = none) :
    e.Effect m (e.next m) := by
  have hforwarded := forwarded?_call (m := m) h
  have htold := told_call (m := m) h
  rw [if_neg hforwards] at hforwarded htold
  have hcompleted : e.completed? m = none := by
    rw [completed?_call h]
    split
    · rename_i hdone
      rw [hcompletes hdone, Option.map_none]
    · rfl
  rw [hcompleted, Option.elim_none] at htold
  obtain ⟨values, hmachine⟩ := handleCall_written e.here hforwards hcompletes
  have hnext : e.Effect m ((m.told (e.told m)).written e.core flags.world values) :=
    .goesOn hforwarded hcompleted (caller?_call h)
  rw [htold] at hnext
  rw [next_call h, hmachine]
  exact hnext

theorem effect_call : e.Effect m (e.next m) := by
  by_cases hforwards : Forwards m args flags
  · exact effect_of_forwards h hforwards
  · by_cases hcompletes : Completes m args flags
    · cases hcall : (m.cpu e.core).inFlight with
      | none => exact effect_of_written h hforwards fun _ => hcall
      | some call => exact effect_of_completes h hcompletes hcall
    · exact effect_of_written h hforwards fun hdone => absurd hdone hcompletes

end Call

section Interrupt
variable {interrupted : World} (h : e.activity = .operation (.interrupt interrupted))
include h

theorem effect_of_quiet (hissued : e.issued? m = none)
    (hnext : e.next m = m.told (e.told m)) : e.Effect m (e.next m) := by
  have hforwarded : e.forwarded? m = none := by
    rw [forwarded?, h]
    simp [hissued]
  have hcompleted : e.completed? m = none := by rw [completed?, h]
  have hcaller : e.activity.caller? = some interrupted := by
    rw [h]
    rfl
  rw [hnext, ← Machine.written_nil (m.told (e.told m)) e.core interrupted]
  exact .goesOn hforwarded hcompleted hcaller

theorem effect_interrupt : e.Effect m (e.next m) := by
  by_cases htimer : e.board.interrupt = timerInterrupt
  · have houtcome := handleInterrupt_timer (m := m) interrupted e.here htimer
    have htold : e.told m =
        [.timerFired e.board.clock (e.mayIssue m interrupted), .timerReprogrammed] := by
      rw [told, h]
      exact if_pos htimer
    have hissued : e.issued? m =
        (m.tracker.fire e.board.clock (e.mayIssue m interrupted)).2.2 := by
      rw [issued?, h]
      exact if_pos htimer
    cases hcall : (m.tracker.fire e.board.clock (e.mayIssue m interrupted)).2.2 with
    | none =>
        refine effect_of_quiet h (hissued.trans hcall) ?_
        unfold mayIssue at hcall htold
        rw [next_interrupt h, houtcome, hcall, htold]
        rfl
    | some call =>
        have hforwarded : e.forwarded? m = some ⟨callCode call.args, call.args, .timer⟩ := by
          rw [forwarded?, h]
          simp [hissued, hcall, AutomaticCall.callCode_args]
        have hcompleted : e.completed? m = none := by rw [completed?, h]
        have hmay := Tracker.issue_of_fire hcall
        have hcaller : e.activity.caller? = some .nonSecure := by
          have hworld : interrupted = .nonSecure := by
            rw [mayIssue, Bool.and_eq_true, decide_eq_true_eq] at hmay
            exact hmay.1
          rw [h, hworld]
          rfl
        unfold mayIssue at hcall htold
        rw [next_interrupt h, houtcome, hcall, Option.elim_some, forward_apply _ _ _ e.here,
          ← htold]
        exact .forwards hforwarded hcompleted hcaller
  · refine effect_of_quiet h ?_ ?_
    · rw [issued?, h]
      exact if_neg htimer
    · have htold : e.told m = [] := by
        rw [told, h]
        exact if_neg htimer
      rw [next_interrupt h, handleInterrupt_foreign interrupted htimer, htold]
      rfl

end Interrupt

/-- Everything an episode does to the machine is one of its effects. -/
theorem effect (e : Episode) (m : Machine) : e.Effect m (e.next m) := by
  obtain ⟨c, b, activity, hc⟩ := e
  cases activity with
  | software live => exact .untrapped rfl rfl rfl rfl ⟨rfl, fun _ _ => rfl⟩
  | comeback entry status =>
      exact .untrapped rfl rfl rfl rfl (localTo_finish c entry status b m hc)
  | operation op =>
      cases op with
      | call args flags => exact effect_call rfl
      | interrupt interrupted => exact effect_interrupt rfl
      | _ => exact .untrapped rfl rfl rfl rfl (localTo_start c (by simp) (by simp) b m hc)

end Episode

/-! ## Runs -/

namespace Machine

/-- The machine after a run. -/
def after (m : Machine) (run : List Episode) : Machine := run.foldl (fun m e => e.next m) m

theorem after_append (m : Machine) (run run' : List Episode) :
    m.after (run ++ run') = (m.after run).after run' := List.foldl_append

theorem after_snoc (m : Machine) (run : List Episode) (e : Episode) :
    m.after (run ++ [e]) = e.next (m.after run) := m.after_append run [e]

end Machine

theorem Episode.tracker_next (e : Episode) (m : Machine) :
    (e.next m).tracker = m.tracker.evolve (e.told m) := by
  have heffect := e.effect m
  generalize e.next m = m' at heffect
  cases heffect with
  | forwards hforwarded hcompleted hcaller => exact Machine.tracker_told m (e.told m)
  | completes hforwarded hcompleted hcaller htold =>
      rw [htold, Machine.tracker_completed]
  | goesOn hforwarded hcompleted hcaller => exact Machine.tracker_told m (e.told m)
  | untrapped hforwarded hcompleted hcaller htold hbeside =>
      rw [htold, hbeside.tracker]
      rfl

/-- What the tracker is told in the course of a run. -/
def Machine.heard (m : Machine) : List Episode → List TrackerEvent
  | [] => []
  | e :: run => e.told m ++ (e.next m).heard run

theorem Machine.heard_append (m : Machine) (run run' : List Episode) :
    m.heard (run ++ run') = m.heard run ++ (m.after run).heard run' := by
  induction run generalizing m with
  | nil => rfl
  | cons e run ih =>
      rw [List.cons_append, heard, ih, heard, List.append_assoc]
      rfl

theorem Machine.heard_snoc (m : Machine) (run : List Episode) (e : Episode) :
    m.heard (run ++ [e]) = m.heard run ++ e.told (m.after run) := by
  rw [heard_append, heard, heard, List.append_nil]

/-- The tracker after a run has seen everything the run told it, and nothing else. -/
theorem Machine.tracker_after (m : Machine) (run : List Episode) :
    (m.after run).tracker = m.tracker.evolve (m.heard run) := by
  induction run generalizing m with
  | nil => rfl
  | cons e run ih =>
      have hrest : ((e.next m).after run).tracker =
          (e.next m).tracker.evolve ((e.next m).heard run) := ih (e.next m)
      rw [e.tracker_next m] at hrest
      rw [heard, Tracker.evolve_append, ← hrest]
      rfl

/-! ## Laws of runs -/

/-- What the board is asked for in the course of an activity. -/
def Activity.requests : Activity → Board → Machine → List Request
  | operation op, b, m => (op.start b m).requests
  | comeback entry status, b, m => (entry.finish status b m).requests
  | software _, _, _ => []

def Episode.requests (e : Episode) (m : Machine) : List Request := e.activity.requests e.board m

/-- What the board is asked for in the course of a run. -/
def Machine.requested (m : Machine) : List Episode → List Request
  | [] => []
  | e :: run => e.requests m ++ (e.next m).requested run

section Laws
variable {P : Law}

/-- Of an episode that is no trap, a law of boots and synchronous entries holds. -/
theorem Episode.obeys_of_untrapped {e : Episode} (h : P.Entering e.core)
    (hcaller : e.activity.caller? = none) (m : Machine) : P m (e.requests m) (e.next m) := by
  obtain ⟨c, b, activity, hc⟩ := e
  cases activity with
  | software live => exact h.live m live
  | comeback entry status => exact obeys_finish h entry status b m hc
  | operation op =>
      cases op with
      | call args flags => cases hcaller
      | interrupt interrupted => cases hcaller
      | _ => exact obeys_start_of_untrapped h (by simp) (by simp) b m hc

/-- Of an episode that is a trap, a law of calls and interrupts holds. -/
theorem Episode.obeys_of_trapped {e : Episode} (h : P.Trapping e.core) {w : World}
    (hcaller : e.activity.caller? = some w) (m : Machine) : P m (e.requests m) (e.next m) := by
  obtain ⟨c, b, activity, hc⟩ := e
  have hb := h.toBasic
  cases activity with
  | software live => cases hcaller
  | comeback entry status => cases hcaller
  | operation op =>
      cases op with
      | call args flags =>
          exact Obeys.bind hb (obeys_handleCall h args flags) (fun _ => .pure hb _) b m hc
      | interrupt interrupted =>
          exact Obeys.bind hb (obeys_handleInterrupt h interrupted) (fun _ => .pure hb _) b m hc
      | _ => cases hcaller

theorem Episode.obeys {e : Episode} (h : P.Entering e.core) (htrapping : P.Trapping e.core)
    (m : Machine) : P m (e.requests m) (e.next m) := by
  cases hcaller : e.activity.caller? with
  | none => exact obeys_of_untrapped h hcaller m
  | some w => exact obeys_of_trapped htrapping hcaller m

/-- A law that holds of every change holds of every run. -/
theorem Machine.obeys_after (h : ∀ c, P.Entering c) (htrapping : ∀ c, P.Trapping c)
    (m : Machine) (run : List Episode) : P m (m.requested run) (m.after run) := by
  induction run generalizing m with
  | nil => exact (h 0).nothing m
  | cons e run ih => exact (h 0).chained (e.obeys (h _) (htrapping _) m) (ih (e.next m))

end Laws

end RealmDispatch
