import RealmDispatch.Dispatch.Operation
import RealmDispatch.Proofs.StepEvaluation

/-!
# Laws that every step obeys

A law compares the machine after a step with the machine before it and with the
requests the step has made. A law that adds up over consecutive steps holds of an
operation if it holds of each of the single changes the operation is made of.
There are few kinds of these, and no operation makes all of them: calls and
interrupts tell the tracker events and put calls in flight, a setup fixes the entry
point or fails, and only synchronous entries change the slots of the cores and give a
core to the realm manager.

A law is checked on the changes that the operations in question can make. The rest
of this module walks through the operations once, for all laws. The changes of a
step to saved contexts are those of the core it runs on, so the laws speak of a
step on a given core.
-/
namespace RealmDispatch
open Step

/-- The change of the timer that a request makes. -/
def Request.update? : Request → Option TimerUpdate
  | .arm value => some (.arm value)
  | .disarm => some .disarm
  | _ => none

@[simp] theorem TimerUpdate.update?_request (u : TimerUpdate) : u.request.update? = some u := by
  cases u <;> rfl

/-- Whether a request neither changes the timer nor gives the core to the realm manager. -/
def Request.isOrdinary : Request → Bool
  | .arm _ | .disarm | .enterRealm => false
  | _ => true

theorem Request.update?_of_isOrdinary {r : Request} (h : r.isOrdinary = true) :
    r.update? = none := by
  cases r with
  | arm value => cases h
  | disarm => cases h
  | _ => rfl

/-- The machine before, what was requested, and the machine after. -/
abbrev Law : Type := Machine → List Request → Machine → Prop

/-- The law adds up, and it holds of the changes that all operations make on `c`. -/
structure Law.Basic (P : Law) (c : Core) : Prop where
  nothing (m : Machine) : P m [] m
  chained {m m' m'' : Machine} {rs rs' : List Request} :
    P m rs m' → P m' rs' m'' → P m (rs ++ rs') m''
  request (m : Machine) {r : Request} : r.isOrdinary = true → P m [r] m
  context (m : Machine) (w : World) (ctx : Context) :
    P m [] (m.setCpu c ((m.cpu c).setContext w ctx))
  next (m : Machine) (w : World) : P m [] (m.setCpu c { m.cpu c with next := some w })
  live (m : Machine) (live : SystemRegisters) : P m [] { m with live }

/-- The law also holds of what a call or an interrupt does. -/
structure Law.Trapping (P : Law) (c : Core) : Prop extends P.Basic c where
  inFlight (m : Machine) (call : Option PendingCall) : P m [] (m.setInFlight c call)
  tell (m : Machine) (e : TrackerEvent) :
    P m ((m.tracker.handle e).2.2.update?.map TimerUpdate.request).toList (m.tell e)

/-- The law also holds of what a setup does. -/
structure Law.Booting (P : Law) (c : Core) : Prop extends P.Basic c where
  bootFailed (m : Machine) : P m [] { m with bootFailed := true }
  entryPoint (m : Machine) (found : EntryPoint) :
    P m [] { m with entryPoint := some (m.entryPoint.getD found) }

/-- The law also holds of what a synchronous entry does. -/
structure Law.Entering (P : Law) (c : Core) : Prop extends P.Booting c where
  slot (m : Machine) (d : Core) (slot : EntrySlot) : P m [] (m.setSlot d slot)
  enterRealm (m : Machine) : P m [.enterRealm] m

namespace Step
variable {α β : Type} {P : Law} {c : Core}

/-- Run on `c`, the step obeys the law. -/
def Obeys (P : Law) (c : Core) (x : Step α) : Prop :=
  ∀ (b : Board) (m : Machine), b.core = c.val → P m (x b m).requests (x b m).machine

namespace Obeys

section Basic
variable (h : P.Basic c)
include h

theorem of_unchanged {x : Step α}
    (hx : ∀ b m, (x b m).requests = [] ∧ (x b m).machine = m) : Obeys P c x := by
  intro b m _
  rw [(hx b m).1, (hx b m).2]
  exact h.nothing m

theorem pure (a : α) : Obeys P c (Pure.pure a : Step α) := of_unchanged h fun _ _ => ⟨rfl, rfl⟩

theorem halt (e : Halt) : Obeys P c (Step.halt e : Step α) :=
  of_unchanged h fun _ _ => ⟨rfl, rfl⟩

theorem notify (n : Notice) : Obeys P c (Step.notify n) := of_unchanged h fun _ _ => ⟨rfl, rfl⟩

theorem machine : Obeys P c Step.machine := of_unchanged h fun _ _ => ⟨rfl, rfl⟩

theorem board : Obeys P c Step.board := of_unchanged h fun _ _ => ⟨rfl, rfl⟩

theorem cpu (d : Core) : Obeys P c (Step.cpu d) := of_unchanged h fun _ _ => ⟨rfl, rfl⟩

/-- What follows is only taken if the first step has not halted. -/
theorem bind {x : Step α} {f : α → Step β} (hx : Obeys P c x) (hf : ∀ a, Obeys P c (f a)) :
    Obeys P c (x >>= f) := by
  intro b m hc
  have hfirst := hx b m hc
  rw [bind_apply]
  unfold Outcome.andThen
  split
  · exact hfirst
  · rename_i a _
    exact h.chained hfirst (hf a b _ hc)

omit h in
/-- What follows a look at the position of the core only has to be right for that core. -/
theorem core_bind {f : Core → Step β} (hf : Obeys P c (f c)) :
    Obeys P c (Step.core >>= f) := by
  intro b m hc
  rw [bind_apply, core_eq hc, Outcome.andThen_mk_ok]
  exact hf b m hc

omit h in
theorem ite {p : Prop} [Decidable p] {x y : Step α} (hx : Obeys P c x) (hy : Obeys P c y) :
    Obeys P c (if p then x else y) := by
  split
  · exact hx
  · exact hy

theorem request {r : Request} (hr : r.isOrdinary = true) : Obeys P c (Step.request r) :=
  fun _ m _ => h.request m hr

omit h in
theorem modify {f : Machine → Machine} (hf : ∀ m, P m [] (f m)) : Obeys P c (Step.modify f) :=
  fun _ m _ => hf m

theorem context (f : Cpu → Context) (w : World) :
    Obeys P c (Step.modifyCpu c fun cpu => cpu.setContext w (f cpu)) :=
  modify fun m => h.context m w _

theorem next (w : World) :
    Obeys P c (Step.modifyCpu c fun cpu => { cpu with next := some w }) :=
  modify fun m => h.next m w

theorem write (w : World) (values : List UInt64) : Obeys P c (Step.write c w values) := by
  intro b m _
  unfold Step.write Cpu.load?
  by_cases hroom : values.length ≤ generalCount
  · rw [if_pos hroom]
    exact h.context m w _
  · rw [if_neg hroom]
    exact h.nothing m

theorem saveSystem (w : World) : Obeys P c (Step.saveSystem c w) :=
  bind h (request h rfl) fun _ => modify fun m => h.context m w _

theorem restoreSystem (w : World) : Obeys P c (Step.restoreSystem c w) :=
  bind h (request h rfl) fun _ => modify fun m => h.live m _

theorem reject (flags : CallFlags) : Obeys P c (Step.reject flags) :=
  core_bind (bind h (write h _ _) fun _ => pure h _)

/-- A refusal is reported before the caller gets its answer. -/
theorem refuse (n : Notice) (flags : CallFlags) : Obeys P c (do
    Step.notify n
    Step.reject flags : Step Next) :=
  bind h (notify h n) fun _ => reject h flags

end Basic
end Obeys
end Step

/-! ## Calls and interrupts -/

section Trapping
variable {P : Law} {c : Core}

section Basic
variable (h : P.Basic c)
include h

theorem obeys_switchWorld (source target : World) : Obeys P c (switchWorld c source target) :=
  .bind h (.saveSystem h source) fun _ => .bind h (.restoreSystem h target) fun _ =>
    .next h target

theorem obeys_leaveEntry (value : UInt64) : Obeys P c (leaveEntry value) :=
  .core_bind (.bind h (.machine h) fun _ => .ite (.pure h _) (.halt h _))

theorem obeys_granuleAnswer (service : Service) (address : UInt64)
    (result : Except GranuleFault Unit) : Obeys P c (granuleAnswer service address result) := by
  cases result with
  | ok => exact .pure h _
  | error fault => exact .bind h (.notify h _) fun _ => .pure h _

theorem obeys_perform (service : Option Service) (args : Arguments) :
    Obeys P c (perform service args) := by
  refine .bind h (.board h) fun b => ?_
  cases service with
  | none => exact .bind h (.notify h _) fun _ => .pure h _
  | some service =>
      cases service with
      | delegate | undelegate =>
          exact .bind h (.request h rfl) fun _ => obeys_granuleAnswer h _ _ _
      | platformToken | realmKey | tokenSign => exact .bind h (.request h rfl) fun _ => .pure h _
      | features => exact .pure h _
      | bootComplete => exact .bind h (.notify h _) fun _ => .pure h _

theorem obeys_handleService (args : Arguments) (flags : CallFlags) :
    Obeys P c (handleService args flags) := by
  refine .bind h (.machine h) fun m => .ite (.refuse h _ flags) (.ite (.refuse h _ flags) ?_)
  refine .bind h (.notify h _) fun _ => .bind h (.board h) fun b => .ite ?_ ?_
  · exact .bind h (.notify h _) fun _ => obeys_leaveEntry h _
  · refine .bind h (obeys_perform h _ args) fun values => ?_
    exact .core_bind (.bind h (.write h _ values) fun _ => .pure h _)

theorem obeys_canIssue (interrupted : World) : Obeys P c (canIssue interrupted) :=
  .ite (.core_bind (.bind h (.cpu h c) fun _ => .pure h _)) (.pure h _)

end Basic

variable (h : P.Trapping c)
include h

theorem obeys_setInFlight (call : Option PendingCall) :
    Obeys P c (Step.modifyCpu c fun cpu => { cpu with inFlight := call }) :=
  .modify fun m => h.inFlight m call

theorem obeys_tellAll (events : List TrackerEvent) : Obeys P c (tellAll events) := by
  induction events with
  | nil => exact .pure h.toBasic _
  | cons e es ih => exact .bind h.toBasic (fun _ m _ => h.tell m e) fun _ => ih

theorem obeys_forward (args : Arguments) (sveHint : Bool) (origin : Origin) :
    Obeys P c (forward args sveHint origin) := by
  have hb := h.toBasic
  have hrest (call : PendingCall) : Obeys P c (do
      Step.modifyCpu c fun cpu => { cpu with inFlight := some call }
      switchWorld c .nonSecure .realm
      Step.write c .realm (hinted args sveHint).toList
      pure (.eret .realm) : Step Next) :=
    .bind hb (obeys_setInFlight h _) fun _ => .bind hb (obeys_switchWorld hb _ _) fun _ =>
      .bind hb (.write hb _ _) fun _ => .pure hb _
  refine .core_bind (.bind hb (.cpu hb c) fun cpu => ?_)
  split
  · exact .bind hb (.notify hb _) fun _ => hrest _
  · exact hrest _

theorem obeys_observe (args : Arguments) : Obeys P c (observe args) := by
  intro b m hc
  rw [observe_apply]
  exact obeys_tellAll h _ b m hc

theorem obeys_noteCompletion (call : PendingCall) (status : UInt64) :
    Obeys P c (noteCompletion call status) := by
  intro b m hc
  rw [noteCompletion_apply]
  exact obeys_tellAll h _ b m hc

theorem obeys_complete (args : Arguments) (flags : CallFlags) :
    Obeys P c (complete args flags) := by
  have hb := h.toBasic
  refine .core_bind (.bind hb (.cpu hb c) fun cpu => ?_)
  split
  · exact .bind hb (.notify hb _) fun _ => .reject hb flags
  · refine .bind hb (obeys_setInFlight h _) fun _ => .bind hb (.notify hb _) fun _ => ?_
    refine .bind hb (obeys_noteCompletion h _ _) fun _ => ?_
    refine .bind hb (obeys_switchWorld hb _ _) fun _ => ?_
    split
    · exact .bind hb (.write hb _ _) fun _ => .pure hb _
    · exact .pure hb _

theorem obeys_handleCommand (args : Arguments) (flags : CallFlags) :
    Obeys P c (handleCommand args flags) := by
  have hb := h.toBasic
  refine .bind hb (.machine hb) fun m => .ite (.refuse hb _ flags) ?_
  split
  · exact .refuse hb _ flags
  · refine .bind hb (.notify hb _) fun _ => ?_
    exact .bind hb (obeys_observe h args) fun _ => obeys_forward h args _ _
  · exact .ite (obeys_complete h args flags) (.refuse hb _ flags)

theorem obeys_handleCall (args : Arguments) (flags : CallFlags) :
    Obeys P c (handleCall args flags) :=
  .ite (obeys_handleCommand h args flags)
    (.ite (obeys_handleService h.toBasic args flags) (.refuse h.toBasic _ flags))

theorem obeys_fireTimer (issue : Bool) : Obeys P c (fireTimer issue) := by
  intro b m hc
  rw [fireTimer_apply]
  exact obeys_tellAll h _ b m hc

theorem obeys_handleInterrupt (interrupted : World) :
    Obeys P c (handleInterrupt interrupted) := by
  have hb := h.toBasic
  refine .bind hb (.board hb) fun b => .bind hb (.request hb rfl) fun _ => ?_
  refine .bind hb (.request hb rfl) fun _ => .ite ?_ ?_
  · exact .bind hb (.notify hb _) fun _ => .pure hb _
  · refine .bind hb (obeys_canIssue hb _) fun issue => ?_
    refine .bind hb (obeys_fireTimer h issue) fun call => ?_
    split
    · exact .pure hb _
    · exact .bind hb (.notify hb _) fun _ => obeys_forward h _ _ _

end Trapping

/-! ## Boots and synchronous entries -/

section Booting
variable {P : Law} {c : Core} (h : P.Booting c)
include h

theorem obeys_startRealm (e : EntryPoint) (args : List UInt64) :
    Obeys P c (startRealm c e args) :=
  .context h.toBasic (fun _ => EntryPoint.context _) .realm

theorem obeys_checkBoard : Obeys P c checkBoard := by
  have hb := h.toBasic
  refine .bind hb (.board hb) fun b => .ite (.bind hb (.notify hb _) fun _ => .pure hb _) ?_
  split
  · exact .bind hb (.notify hb _) fun _ => .pure hb _
  · refine .bind hb (.request hb rfl) fun _ => ?_
    split
    · exact .bind hb (.notify hb _) fun _ => .pure hb _
    · exact .pure hb _

theorem obeys_setup : Obeys P c setup := by
  have hb := h.toBasic
  refine .bind hb (obeys_checkBoard h) ?_
  intro checked
  cases checked with
  | error cause =>
      exact .bind hb (.modify h.bootFailed) fun _ => .bind hb (.notify hb _) fun _ => .pure hb _
  | ok found =>
      have hrest (e : EntryPoint) : Obeys P c (do
          let c ← Step.core
          let b ← Step.board
          startRealm c e [UInt64.ofNat c, interfaceVersion, UInt64.ofNat coreCount, b.shared.base]
          initTimer
          pure (.boot (.ok ())) : Step Answer) :=
        .core_bind (.bind hb (.board hb) fun b => .bind hb (obeys_startRealm h e _) fun _ =>
          .bind hb (.request hb rfl) fun _ => .pure hb _)
      -- The entry point is fixed on the machine that was looked at, not on any other.
      intro b m hc
      exact h.chained (h.entryPoint m found) (hrest _ b _ hc)

theorem obeys_bootStatus (status : UInt64) : Obeys P c (Entry.bootStatus status) := by
  have hb := h.toBasic
  refine .ite (.pure hb _) (.core_bind (.bind hb (.notify hb _) fun _ => ?_))
  exact .bind hb (.modify h.bootFailed) fun _ => .pure hb _

end Booting

section Entering
variable {P : Law} {c : Core} (h : P.Entering c)
include h

theorem obeys_modifySlot (d : Core) (f : EntrySlot → EntrySlot) :
    Obeys P c (Step.modifySlot d f) :=
  .modify fun m => h.slot m d _

theorem obeys_begin (purpose : Purpose) : Obeys P c (Entry.begin purpose) := by
  have hb := h.toBasic
  have hcall : Obeys P c (Step.request .enterRealm) := fun _ m _ => h.enterRealm m
  refine .core_bind (.bind hb (.machine hb) fun m => .ite (.halt hb _) (.ite (.halt hb _) ?_))
  refine .bind hb (obeys_modifySlot h c _) fun _ => .bind hb (.restoreSystem hb _) fun _ => ?_
  refine .bind hb (.next hb _) fun _ => .bind hb hcall fun _ => ?_
  exact .bind hb (.board hb) fun b => .bind hb (obeys_modifySlot h c _) fun _ => .pure hb _

theorem obeys_coldBoot : Obeys P c coldBoot := by
  have hb := h.toBasic
  refine .bind hb (.machine hb) fun m => .ite (.pure hb _) ?_
  exact .bind hb (.notify hb _) fun _ => .bind hb (obeys_begin h _) fun _ => .pure hb _

theorem obeys_warmBoot : Obeys P c warmBoot := by
  have hb := h.toBasic
  refine .bind hb (.machine hb) fun m => ?_
  split
  · refine .core_bind (.bind hb (obeys_startRealm h.toBooting _ _) fun _ => ?_)
    exact .bind hb (.request hb rfl) fun _ => .bind hb (obeys_begin h _) fun _ => .pure hb _
  · exact .pure hb _

theorem obeys_finish (entry : Entry) (status : UInt64) : Obeys P c (entry.finish status) := by
  have hb := h.toBasic
  have hstatus := obeys_bootStatus h.toBooting status
  refine .core_bind (.bind hb (.saveSystem hb _) fun _ => ?_)
  refine .bind hb (obeys_modifySlot h entry.core _) fun _ => ?_
  cases entry.purpose with
  | plain => exact .pure hb _
  | warmBoot => exact .bind hb hstatus fun _ => .pure hb _
  | coldBoot =>
      refine .bind hb hstatus fun result => ?_
      cases result with
      | ok => exact .bind hb (.notify hb _) fun _ => .pure hb _
      | error cause => exact .pure hb _

/-- An operation that is neither a call nor an interrupt. -/
theorem obeys_start_of_untrapped {op : Operation} (hcall : ∀ args flags, op ≠ .call args flags)
    (hinterrupt : ∀ interrupted, op ≠ .interrupt interrupted) : Obeys P c op.start := by
  have hb := h.toBasic
  cases op with
  | setup => exact .bind hb (obeys_setup h.toBooting) fun _ => .pure hb _
  | coldBoot => exact obeys_coldBoot h
  | warmBoot => exact obeys_warmBoot h
  | initTimer => exact .bind hb (.request hb rfl) fun _ => .pure hb _
  | enter => exact .bind hb (obeys_begin h .plain) fun _ => .pure hb _
  | leave value => exact .bind hb (obeys_leaveEntry hb value) fun _ => .pure hb _
  | call args flags => exact absurd rfl (hcall args flags)
  | interrupt interrupted => exact absurd rfl (hinterrupt interrupted)

end Entering

end RealmDispatch
