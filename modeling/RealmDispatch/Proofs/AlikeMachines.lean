import RealmDispatch.Proofs.DispatchOutcomes
import RealmDispatch.Proofs.StepLaws

/-!
# Machines that look alike to a core

What a call comes to on a core depends on little of the machine: on whether the boot has
failed, on the synchronous entry and the call in flight of this core, and on what the board
answers. Two machines that agree on that look alike to the core. A call then has the same
answer on both, asks the board for the same things but for the timer, and leaves machines
that look alike again. So does an interrupt, provided the trackers agree as well: only the
timer asks the tracker for anything.

This is shown once, for every relation between machines that the single changes of a handler
carry along. The handlers are walked through by rules for two runs on one board.
-/
namespace RealmDispatch
open Step

/-! ## Outcomes that look alike -/

/-- The requests that do not program the timer. -/
def untimed (rs : List Request) : List Request := rs.filter fun r => r.update?.isNone

theorem untimed_append (rs rs' : List Request) :
    untimed (rs ++ rs') = untimed rs ++ untimed rs' := List.filter_append ..

/-- All that is requested when the tracker is told of something concerns the timer. -/
theorem untimed_tellAll (events : List TrackerEvent) (b : Board) (m : Machine) :
    untimed (tellAll events b m).requests = [] := by
  induction events generalizing m with
  | nil => rfl
  | cons e es ih =>
      have hhere : untimed ((m.tracker.handle e).2.2.update?.map
          TimerUpdate.request).toList = [] := by
        cases (m.tracker.handle e).2.2.update? with
        | none => rfl
        | some update => simp [untimed]
      have hrequests : (tellAll (e :: es) b m).requests =
          ((m.tracker.handle e).2.2.update?.map TimerUpdate.request).toList ++
            (tellAll es b (m.tell e)).requests := rfl
      rw [hrequests, untimed_append, hhere, ih, List.nil_append]

variable {α β : Type} {R : Machine → Machine → Prop} {b : Board}

/-- The answers are the same, the machines are related, and the board was asked for the same
things. What was reported may differ. -/
structure Outcome.Alike (R : Machine → Machine → Prop) (o o' : Outcome α) : Prop where
  result : o.result = o'.result
  machine : R o.machine o'.machine
  requests : untimed o.requests = untimed o'.requests

/-- The step cannot tell related machines apart. -/
def Step.Respects (R : Machine → Machine → Prop) (b : Board) (x : Step α) : Prop :=
  ∀ ⦃m m' : Machine⦄, R m m' → (x b m).Alike R (x b m')

namespace Step.Respects

/-- A step that neither looks at the machine nor changes it. -/
theorem of_blind {x : Step α} {result : Except Halt α} {requests : List Request}
    (h : ∀ m, (x b m).result = result ∧ (x b m).machine = m ∧ (x b m).requests = requests) :
    Respects R b x := by
  intro m m' hm
  obtain ⟨hresult, hmachine, hrequests⟩ := h m
  obtain ⟨hresult', hmachine', hrequests'⟩ := h m'
  refine ⟨hresult.trans hresult'.symm, ?_, ?_⟩
  · rw [hmachine, hmachine']
    exact hm
  · rw [hrequests, hrequests']

theorem pure (a : α) : Respects R b (Pure.pure a : Step α) := of_blind fun _ => ⟨rfl, rfl, rfl⟩

theorem notify (n : Notice) : Respects R b (Step.notify n) := of_blind fun _ => ⟨rfl, rfl, rfl⟩

theorem request (r : Request) : Respects R b (Step.request r) :=
  of_blind fun _ => ⟨rfl, rfl, rfl⟩

/-- What follows is taken in both runs or in neither. -/
theorem bind {x : Step α} {f : α → Step β} (hx : Respects R b x)
    (hf : ∀ a, Respects R b (f a)) : Respects R b (x >>= f) := by
  intro m m' hm
  obtain ⟨hresult, hmachine, hrequests⟩ := hx hm
  rw [bind_apply, bind_apply, Outcome.andThen, Outcome.andThen, hresult]
  cases (x b m').result with
  | error halt => exact ⟨rfl, hmachine, hrequests⟩
  | ok a =>
      have hrest := hf a hmachine
      refine ⟨hrest.result, hrest.machine, ?_⟩
      change untimed ((x b m).requests ++ (f a b (x b m).machine).requests) =
        untimed ((x b m').requests ++ (f a b (x b m').machine).requests)
      rw [untimed_append, untimed_append, hrequests, hrest.requests]

theorem board_bind {f : Board → Step β} (hf : Respects R b (f b)) :
    Respects R b (Step.board >>= f) := by
  intro m m' hm
  rw [bind_apply, bind_apply, board_apply, board_apply, Outcome.andThen_mk_ok,
    Outcome.andThen_mk_ok, Outcome.after_nil, Outcome.after_nil]
  exact hf hm

/-- What is decided by a look at the machine has to be decided alike. -/
theorem machine_bind {f : Machine → Step β}
    (hf : ∀ m m', R m m' → (f m b m).Alike R (f m' b m')) :
    Respects R b (Step.machine >>= f) := by
  intro m m' hm
  rw [bind_apply, bind_apply, machine_apply, machine_apply, Outcome.andThen_mk_ok,
    Outcome.andThen_mk_ok, Outcome.after_nil, Outcome.after_nil]
  exact hf m m' hm

/-- A position without a core halts in both runs. -/
theorem of_core {f : Core → Step β} (h : ∀ c : Core, b.core = c.val → Respects R b (core >>= f)) :
    Respects R b (core >>= f) := by
  by_cases hcore : b.core < coreCount
  · exact h ⟨b.core, hcore⟩ rfl
  · intro m m' hm
    have hhalt (m : Machine) : core b m =
        { result := .error (.corePosition b.core), machine := m } := dif_neg hcore
    rw [bind_apply, bind_apply, hhalt, hhalt]
    exact ⟨rfl, hm, rfl⟩

theorem core_bind {f : Core → Step β} (hf : ∀ c : Core, b.core = c.val → Respects R b (f c)) :
    Respects R b (core >>= f) := by
  refine of_core fun c hc => ?_
  intro m m' hm
  rw [bind_apply, bind_apply, core_eq hc, core_eq hc, Outcome.andThen_mk_ok,
    Outcome.andThen_mk_ok, Outcome.after_nil, Outcome.after_nil]
  exact hf c hc hm

theorem ite {p : Prop} [Decidable p] {x y : Step α} (hx : Respects R b x)
    (hy : Respects R b y) : Respects R b (if p then x else y) := by
  split
  · exact hx
  · exact hy

end Step.Respects

/-! ## Likenesses -/

/-- The machines agree on all that a call on the core at `position` is decided by, and the
changes made on this core and to the tracker keep them related. -/
structure Likeness (position : Nat) (R : Machine → Machine → Prop) : Prop where
  bootFailed {m m' : Machine} : R m m' → m.bootFailed = m'.bootFailed
  slot {m m' : Machine} {c : Core} : R m m' → position = c.val → m.slot c = m'.slot c
  inFlight {m m' : Machine} {c : Core} : R m m' → position = c.val →
    (m.cpu c).inFlight = (m'.cpu c).inFlight
  tell {m m' : Machine} (e : TrackerEvent) : R m m' → R (m.tell e) (m'.tell e)
  setInFlight {m m' : Machine} {c : Core} (call : Option PendingCall) : R m m' →
    position = c.val → R (m.setInFlight c call) (m'.setInFlight c call)
  switched {m m' : Machine} {c : Core} (source target : World) : R m m' →
    position = c.val → R (m.switched c source target) (m'.switched c source target)
  written {m m' : Machine} {c : Core} (w : World) (values : List UInt64) : R m m' →
    position = c.val → R (m.written c w values) (m'.written c w values)

namespace Likeness
variable (h : Likeness b.core R)
include h

theorem told {m m' : Machine} (events : List TrackerEvent) (hm : R m m') :
    R (m.told events) (m'.told events) := by
  induction events generalizing m m' with
  | nil => exact hm
  | cons e es ih => exact ih (h.tell e hm)

theorem completed {m m' : Machine} {c : Core} (call : PendingCall) (args : Arguments)
    (clock : Clock) (hm : R m m') (hc : b.core = c.val) :
    R (m.completed c call args clock) (m'.completed c call args clock) := by
  have hback := h.switched .realm .nonSecure
    (h.told (completionEvents call args.x1 clock) (h.setInFlight none hm hc)) hc
  obtain ⟨code, cargs, origin⟩ := call
  cases origin with
  | host => exact h.written .nonSecure (hostAnswer args) hback hc
  | timer => exact hback

/-! ### Calls -/

theorem respects_tellAll (events : List TrackerEvent) : Respects R b (tellAll events) := by
  intro m m' hm
  refine ⟨?_, ?_, ?_⟩
  · rw [result_tellAll, result_tellAll]
  · rw [machine_tellAll, machine_tellAll]
    exact h.told events hm
  · rw [untimed_tellAll, untimed_tellAll]

theorem respects_observe (args : Arguments) : Respects R b (observe args) := by
  intro m m' hm
  rw [observe_apply, observe_apply]
  exact h.respects_tellAll _ hm

theorem respects_write {c : Core} (hc : b.core = c.val) (w : World) (values : List UInt64) :
    Respects R b (Step.write c w values) := by
  by_cases hroom : values.length ≤ generalCount
  · intro m m' hm
    rw [write_apply c w hroom, write_apply c w hroom]
    exact ⟨rfl, h.written w values hm hc, rfl⟩
  · have hfull (cpu : Cpu) : cpu.load? w values = none := if_neg hroom
    intro m m' hm
    rw [Step.write, Step.write, hfull, hfull]
    exact ⟨rfl, hm, rfl⟩

theorem respects_reject (flags : CallFlags) : Respects R b (reject flags) :=
  .core_bind fun _ hc => .bind (h.respects_write hc _ _) fun _ => .pure _

/-- A refusal is reported before the caller gets its answer. -/
theorem respects_refuse (n : Notice) (flags : CallFlags) : Respects R b (do
    notify n
    reject flags : Step Next) :=
  .bind (.notify n) fun _ => h.respects_reject flags

theorem respects_forward (args : Arguments) (sveHint : Bool) (origin : Origin) :
    Respects R b (forward args sveHint origin) := by
  refine .of_core fun c hc => ?_
  intro m m' hm
  have hcall : R (m.setInFlight c (some ⟨callCode args, args, origin⟩))
      (m'.setInFlight c (some ⟨callCode args, args, origin⟩)) := h.setInFlight _ hm hc
  change (forward args sveHint origin b m).Alike R (forward args sveHint origin b m')
  rw [forward_apply args sveHint origin hc, forward_apply args sveHint origin hc]
  exact ⟨rfl, h.written _ _ (h.switched _ _ hcall hc) hc, rfl⟩

theorem respects_complete (args : Arguments) (flags : CallFlags) :
    Respects R b (complete args flags) := by
  refine .of_core fun c hc => ?_
  intro m m' hm
  change (complete args flags b m).Alike R (complete args flags b m')
  have hcall := h.inFlight hm hc
  cases hm' : (m'.cpu c).inFlight with
  | none =>
      rw [complete_refused hc (hcall.trans hm'), complete_refused hc hm']
      exact ⟨rfl, h.written _ _ hm hc, rfl⟩
  | some call =>
      rw [complete_apply hc (hcall.trans hm'), complete_apply hc hm']
      refine ⟨rfl, h.completed call args b.clock hm hc, ?_⟩
      rw [untimed_append, untimed_append, untimed_tellAll, untimed_tellAll]

theorem respects_handleCommand (args : Arguments) (flags : CallFlags) :
    Respects R b (handleCommand args flags) := by
  refine .machine_bind fun m m' hm => ?_
  rw [h.bootFailed hm]
  refine Respects.ite (h.respects_refuse _ flags) ?_ hm
  cases flags.world with
  | secure => exact h.respects_refuse _ flags
  | nonSecure =>
      exact .bind (.notify _) fun _ => .bind (h.respects_observe args) fun _ =>
        h.respects_forward args _ _
  | realm => exact .ite (h.respects_complete args flags) (h.respects_refuse _ flags)

theorem respects_leaveEntry (value : UInt64) : Respects R b (leaveEntry value) := by
  refine .of_core fun c hc => ?_
  intro m m' hm
  change (leaveEntry value b m).Alike R (leaveEntry value b m')
  have hslot := h.slot hm hc
  by_cases hpending : (m'.slot c).pending = true
  · rw [leaveEntry_of_pending value hc (hslot ▸ hpending), leaveEntry_of_pending value hc hpending]
    exact ⟨by rw [hslot], hm, rfl⟩
  · rw [leaveEntry_of_idle value hc (hslot ▸ hpending), leaveEntry_of_idle value hc hpending]
    exact ⟨rfl, hm, rfl⟩

omit h in
theorem respects_granuleAnswer (service : Service) (address : UInt64)
    (result : Except GranuleFault Unit) : Respects R b (granuleAnswer service address result) := by
  cases result with
  | ok => exact .pure _
  | error fault => exact .bind (.notify _) fun _ => .pure _

omit h in
/-- The board performs its services without a look at the machine. -/
theorem respects_perform (service : Option Service) (args : Arguments) :
    Respects R b (perform service args) := by
  refine .board_bind ?_
  cases service with
  | none => exact .bind (.notify _) fun _ => .pure _
  | some service =>
      cases service with
      | delegate | undelegate =>
          exact .bind (.request _) fun _ => respects_granuleAnswer _ _ _
      | platformToken | realmKey | tokenSign => exact .bind (.request _) fun _ => .pure _
      | features => exact .pure _
      | bootComplete => exact .bind (.notify _) fun _ => .pure _

theorem respects_handleService (args : Arguments) (flags : CallFlags) :
    Respects R b (handleService args flags) := by
  refine .machine_bind fun m m' hm => ?_
  rw [h.bootFailed hm]
  refine Respects.ite (h.respects_refuse _ flags) (.ite (h.respects_refuse _ flags) ?_) hm
  refine .bind (.notify _) fun _ => .board_bind (.ite ?_ ?_)
  · exact .bind (.notify _) fun _ => h.respects_leaveEntry _
  · refine .bind (respects_perform _ args) fun values => .core_bind fun c hc => ?_
    exact .bind (h.respects_write hc _ values) fun _ => .pure _

/-- A call cannot tell alike machines apart. -/
theorem respects_handleCall (args : Arguments) (flags : CallFlags) :
    Respects R b (handleCall args flags) :=
  .ite (h.respects_handleCommand args flags)
    (.ite (h.respects_handleService args flags) (h.respects_refuse _ flags))

/-! ### Interrupts -/

theorem respects_canIssue (interrupted : World) : Respects R b (canIssue interrupted) := by
  refine .ite (.of_core fun c hc => ?_) (.pure _)
  intro m m' hm
  have hcall := h.inFlight hm hc
  simp only [bind_apply, core_eq hc, cpu_apply, pure_apply, Outcome.andThen_mk_ok,
    Outcome.after_nil, hcall]
  exact ⟨rfl, hm, rfl⟩

variable (htracker : ∀ m m', R m m' → m.tracker = m'.tracker)
include htracker

/-- The timer asks the tracker for a call, so the trackers have to agree. -/
theorem respects_fireTimer (issue : Bool) : Respects R b (fireTimer issue) := by
  intro m m' hm
  have htold := h.respects_tellAll [.timerFired b.clock issue, .timerReprogrammed] hm
  rw [fireTimer_apply, fireTimer_apply, htracker m m' hm]
  exact ⟨rfl, htold.machine, htold.requests⟩

theorem respects_handleInterrupt (interrupted : World) :
    Respects R b (handleInterrupt interrupted) := by
  refine .board_bind (.bind (.request _) fun _ => .bind (.request _) fun _ => .ite ?_ ?_)
  · exact .bind (.notify _) fun _ => .pure _
  · refine .bind (h.respects_canIssue interrupted) fun issue => ?_
    refine .bind (h.respects_fireTimer htracker issue) fun call => ?_
    cases call with
    | none => exact .pure _
    | some call => exact .bind (.notify _) fun _ => h.respects_forward _ _ _

end Likeness
end RealmDispatch
