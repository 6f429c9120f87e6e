import RealmDispatch.Dispatch.Operation
import RealmDispatch.Proofs.StepEvaluation

/-!
# What a trapped call and an interrupt come to

A trapped call that is forwarded, that completes the call in flight or that leaves
a synchronous entry has an outcome in closed form: its answer, and the machine it
leaves. So has an interrupt, which goes back to the interrupted world or forwards a
call of the tracker, and so have the pieces that all other calls are made of. The core
the call is taken on exists throughout.
-/
namespace RealmDispatch
open Step

/-- Whether a report says that forwards and completions do not match up. -/
def Notice.isMismatch : Notice → Bool
  | .commandInFlight _ | .completionUnexpected => true
  | _ => false

variable {b : Board} {m : Machine} {c : Core} {args : Arguments} {flags : CallFlags}

/-! ## What the tracker reports -/

theorem isMismatch_cons {n : Notice} {ns : List Notice} (hn : n.isMismatch = false)
    (hns : ns.any Notice.isMismatch = false) : (n :: ns).any Notice.isMismatch = false := by
  rw [List.any_cons, hn, hns]
  rfl

theorem isMismatch_append {ns ns' : List Notice} (hns : ns.any Notice.isMismatch = false)
    (hns' : ns'.any Notice.isMismatch = false) :
    (ns ++ ns').any Notice.isMismatch = false := by
  rw [List.any_append, hns, hns']
  rfl

theorem isMismatch_schedule (t : Tracker) (rd : Descriptor) (due : UInt64) :
    (t.schedule rd due).2.any Notice.isMismatch = false := by
  unfold Tracker.schedule
  split <;> rfl

theorem isMismatch_fire (t : Tracker) (clock : Clock) (issue : Bool) :
    (t.fire clock issue).2.1.any Notice.isMismatch = false := by
  unfold Tracker.fire Tracker.serve
  dsimp only
  split
  · rfl
  · split
    · split <;> rfl
    · rfl

theorem isMismatch_handle (t : Tracker) (e : TrackerEvent) :
    (t.handle e).2.1.any Notice.isMismatch = false := by
  cases e with
  | creationObserved rd => rfl
  | activationObserved rd clock =>
      unfold Tracker.handle Tracker.observeActivation
      dsimp only
      split
      · rfl
      · exact isMismatch_schedule _ _ _
      · rfl
  | creationCompleted rd status clock =>
      unfold Tracker.handle Tracker.completeCreation
      dsimp only
      split
      · rfl
      · split
        · rfl
        · exact isMismatch_schedule _ _ _
        · rfl
  | retentionCompleted rd retention clock =>
      unfold Tracker.handle Tracker.completeRetention
      dsimp only
      split
      · rfl
      · exact isMismatch_schedule _ _ _
      · rfl
  | destructionCompleted rd status =>
      unfold Tracker.handle Tracker.completeDestruction
      dsimp only
      split
      · rfl
      · split <;> rfl
  | timerFired clock issue => exact isMismatch_fire t clock issue
  | timerReprogrammed => rfl

theorem isMismatch_reply (e : TrackerEvent) (reply : TrackerReply) :
    (reply.notices e).any Notice.isMismatch = false := by
  cases reply with
  | nothing => rfl
  | registered handle => cases handle <;> cases e <;> rfl
  | issued call => rfl
  | programmed update => rcases update with _ | _ | _ <;> rfl

/-- Nothing the tracker has to say concerns calls in flight. -/
theorem isMismatch_tellAll (events : List TrackerEvent) (b : Board) (m : Machine) :
    (tellAll events b m).notices.any Notice.isMismatch = false := by
  induction events generalizing m with
  | nil => rfl
  | cons e es ih =>
      have hhere : (m.tracker.notices e).any Notice.isMismatch = false :=
        isMismatch_append (isMismatch_handle m.tracker e) (isMismatch_reply e _)
      exact isMismatch_append hhere (ih (m.tell e))

theorem isMismatch_completionNotices (call : PendingCall) (status : UInt64) :
    (completionNotices call status).any Notice.isMismatch = false := by
  unfold completionNotices
  split
  · split <;> rfl
  · rfl

/-! ## Going to the realm world and back -/

theorem switchWorld_apply (source target : World) :
    switchWorld c source target b m =
      { result := .ok ()
        machine := m.switched c source target
        requests := [.saveSystem, .restoreSystem] } := rfl

theorem write_arguments (w : World) (args : Arguments) :
    write c w args.toList b m =
      { result := .ok (), machine := m.written c w args.toList } :=
  write_apply c w (by rw [Vector.length_toList]; decide) b m

/-- A forwarded call is in flight, whatever was in flight before. -/
theorem forward_apply (args : Arguments) (sveHint : Bool) (origin : Origin)
    (hc : b.core = c.val) :
    forward args sveHint origin b m =
      { result := .ok (.eret .realm)
        machine := ((m.setInFlight c (some ⟨callCode args, args, origin⟩)).switched c
          .nonSecure .realm).written c .realm (hinted args sveHint).toList
        requests := [.saveSystem, .restoreSystem]
        notices := ((m.cpu c).inFlight.map fun call => .commandInFlight call.code).toList } := by
  rw [forward, bind_apply, core_eq hc, Outcome.andThen_mk_ok, bind_apply, cpu_apply,
    Outcome.andThen_mk_ok, Outcome.after_nil, Outcome.after_nil]
  cases (m.cpu c).inFlight <;>
    simp [switchWorld_apply, write_arguments, Machine.setInFlight]

/-- The machine after the call in flight was completed. -/
def Machine.completed (m : Machine) (c : Core) (call : PendingCall) (args : Arguments)
    (clock : Clock) : Machine :=
  let m := ((m.setInFlight c none).told (completionEvents call args.x1 clock)).switched c
    .realm .nonSecure
  match call.origin with
  | .host => m.written c .nonSecure (hostAnswer args)
  | .timer => m

section Completed
variable (m : Machine) (c d : Core) (call : PendingCall) (args : Arguments) (clock : Clock)

theorem Machine.tracker_completed : (m.completed c call args clock).tracker =
    m.tracker.evolve (completionEvents call args.x1 clock) := by
  obtain ⟨code, cargs, origin⟩ := call
  cases origin <;> simp [completed, tracker_told]

theorem Machine.inFlight_completed : ((m.completed c call args clock).cpu d).inFlight =
    if d = c then none else (m.cpu d).inFlight := by
  obtain ⟨code, cargs, origin⟩ := call
  cases origin <;> simp [completed]

end Completed

theorem complete_apply {call : PendingCall} (hc : b.core = c.val)
    (hcall : (m.cpu c).inFlight = some call) :
    let told := tellAll (completionEvents call args.x1 b.clock) b (m.setInFlight c none)
    complete args flags b m =
      { result := .ok (.eret .nonSecure)
        machine := m.completed c call args b.clock
        requests := told.requests ++ [.saveSystem, .restoreSystem]
        notices := .commandCompleted call.code args.x1 ::
          (completionNotices call args.x1 ++ told.notices) } := by
  have hanswer : (hostAnswer args).length ≤ generalCount :=
    show 5 ≤ generalCount by decide
  have hwrite (m : Machine) := write_apply c .nonSecure hanswer b m
  obtain ⟨code, cargs, origin⟩ := call
  cases origin <;>
    simp [complete, core_eq hc, hcall, noteCompletion_apply, Outcome.andThen_after,
      tellAll_andThen, switchWorld_apply, hwrite, Machine.completed, Machine.setInFlight,
      Machine.written]

/-- Without a call in flight there is nothing to complete. -/
theorem complete_refused (hc : b.core = c.val) (hcall : (m.cpu c).inFlight = none) :
    complete args flags b m =
      { result := .ok (.eret flags.world)
        machine := m.written c flags.world [unknownCall]
        notices := [.completionUnexpected] } := by
  simp [complete, core_eq hc, hcall, reject_apply flags hc]

/-! ## Calls -/

/-- Whether a call is handed to the realm manager. -/
def Forwards (m : Machine) (args : Arguments) (flags : CallFlags) : Prop :=
  m.bootFailed = false ∧ flags.world = .nonSecure ∧ Command.owns (callCode args) = true

/-- Whether a call says that the one in flight on the core was served. -/
def Completes (m : Machine) (args : Arguments) (flags : CallFlags) : Prop :=
  m.bootFailed = false ∧ flags.world = .realm ∧ callCode args = Command.requestComplete.code

/-- Whether a call asks to leave a synchronous entry. -/
def Leaves (args : Arguments) (flags : CallFlags) : Prop :=
  flags.world = .realm ∧ callCode args = Service.bootComplete.code

theorem handleCall_forwards (h : Forwards m args flags) :
    let told := tellAll (observedEvents args b.clock) b m
    handleCall args flags b m =
      (forward args flags.sveHint .host b (m.told (observedEvents args b.clock))).after
        told.requests (.commandObserved (callCode args) :: told.notices) := by
  obtain ⟨hboot, hworld, howns⟩ := h
  simp [handleCall, handleCommand, howns, hboot, hworld, observe_apply, tellAll_andThen]

theorem handleCall_completes (h : Completes m args flags) :
    handleCall args flags b m = complete args flags b m := by
  obtain ⟨hboot, hworld, hcode⟩ := h
  have howns : Command.owns Command.requestComplete.code = true := by decide
  simp [handleCall, handleCommand, hcode, howns, hboot, hworld]

/-- Once a boot has failed no call is served, from whatever world it comes. -/
theorem handleCall_failed (args : Arguments) (flags : CallFlags) (h : m.bootFailed = true)
    (hc : b.core = c.val) :
    ∃ notice, notice.isMismatch = false ∧ handleCall args flags b m =
      { result := .ok (.eret flags.world)
        machine := m.written c flags.world [unknownCall]
        notices := [notice] } := by
  unfold handleCall handleCommand handleService
  by_cases hcommand : Command.owns (callCode args) = true
  · exact ⟨.commandIgnored, rfl, by simp [hcommand, h, reject_apply flags hc]⟩
  · by_cases hservice : Service.owns (callCode args) = true
    · exact ⟨.serviceIgnored, rfl, by simp [hcommand, hservice, h, reject_apply flags hc]⟩
    · exact ⟨.unownedCall (callCode args), rfl,
        by simp [hcommand, hservice, reject_apply flags hc]⟩

theorem handleCall_of_failed (args : Arguments) (flags : CallFlags) (h : m.bootFailed = true)
    (hc : b.core = c.val) :
    ∃ notice, handleCall args flags b m =
      { result := .ok (.eret flags.world)
        machine := m.written c flags.world [unknownCall]
        notices := [notice] } := by
  obtain ⟨notice, -, hrefused⟩ := handleCall_failed args flags h hc
  exact ⟨notice, hrefused⟩

theorem leaveEntry_of_pending (value : UInt64) (hc : b.core = c.val)
    (hpending : (m.slot c).pending = true) :
    leaveEntry value b m = { result := .ok (.resume (m.slot c).stack value), machine := m } := by
  simp [leaveEntry, core_eq hc, hpending]

theorem leaveEntry_of_idle (value : UInt64) (hc : b.core = c.val)
    (hidle : ¬ (m.slot c).pending = true) :
    leaveEntry value b m = { result := .error .exitUnmatched, machine := m } := by
  simp [leaveEntry, core_eq hc, hidle, Step.halt, Outcome.andThen]

/-- Either way the machine stays as it is. -/
theorem machine_leaveEntry (value : UInt64) (hc : b.core = c.val) :
    (leaveEntry value b m).machine = m := by
  by_cases hpending : (m.slot c).pending = true
  · rw [leaveEntry_of_pending value hc hpending]
  · rw [leaveEntry_of_idle value hc hpending]

/-- To leave a synchronous entry is all that a report of the end of the boot does. -/
theorem handleCall_of_leaves (hboot : m.bootFailed = false) (h : Leaves args flags) :
    handleCall args flags b m = (leaveEntry args.x1 b m).after []
      [.serviceCalled (callCode args) args.x1 args.x2 args.x3, .entryLeft] := by
  obtain ⟨hworld, hcode⟩ := h
  have hforeign : Command.owns Service.bootComplete.code = false := by decide
  have howns : Service.owns Service.bootComplete.code = true := by decide
  have hservice : b.service? Service.bootComplete.code = some .bootComplete := by
    rw [Board.service?, Service.ofCode?_code]
    rfl
  simp [handleCall, handleService, hcode, hforeign, howns, hboot, hworld, hservice]

/-! ## Services -/

/-- The step delivers a few registers, leaves the machine as it is and reports no
mismatch. -/
def Delivers (x : Step (List UInt64)) : Prop :=
  ∀ b m, ∃ values requests notices,
    x b m = { result := .ok values, machine := m, requests := requests, notices := notices } ∧
      values.length ≤ 3 ∧ notices.any Notice.isMismatch = false

theorem Delivers.pure {values : List UInt64} (h : values.length ≤ 3) :
    Delivers (Pure.pure values) := by
  intro b m
  exact ⟨values, [], [], rfl, h, rfl⟩

theorem Delivers.request {x : Step (List UInt64)} (h : Delivers x) (r : Request) :
    Delivers (do
      Step.request r
      x) := by
  intro b m
  obtain ⟨values, requests, notices, hx, hlen, hquiet⟩ := h b m
  exact ⟨values, r :: requests, notices, by simp [hx], hlen, hquiet⟩

theorem Delivers.notify {x : Step (List UInt64)} (h : Delivers x) {n : Notice}
    (hn : n.isMismatch = false) :
    Delivers (do
      Step.notify n
      x) := by
  intro b m
  obtain ⟨values, requests, notices, hx, hlen, hquiet⟩ := h b m
  exact ⟨values, requests, n :: notices, by simp [hx], hlen, isMismatch_cons hn hquiet⟩

theorem Delivers.board {f : Board → Step (List UInt64)} (h : ∀ b, Delivers (f b)) :
    Delivers (Step.board >>= f) := by
  intro b m
  simpa using h b b m

theorem delivers_granuleAnswer (service : Service) (address : UInt64)
    (result : Except GranuleFault Unit) : Delivers (granuleAnswer service address result) := by
  cases result with
  | ok => exact .pure (by simp)
  | error fault => exact .notify (.pure (by simp)) rfl

theorem delivers_perform (service : Option Service) (args : Arguments) :
    Delivers (perform service args) := by
  refine .board fun b => ?_
  cases service with
  | none => exact .notify (.pure (by simp)) rfl
  | some service =>
      cases service with
      | delegate | undelegate => exact .request (delivers_granuleAnswer _ _ _) _
      | features =>
          refine .pure ?_
          cases featureRegister b.signsTokens args.x1 <;> simp [featureAnswer]
      | platformToken => exact .request (.pure (by simp [tokenAnswer])) _
      | realmKey | tokenSign => exact .request (.pure (by simp [lengthAnswer])) _
      | bootComplete => exact .notify (.pure (by simp)) rfl

theorem service_of_bootComplete (h : b.service? (callCode args) = some .bootComplete) :
    callCode args = Service.bootComplete.code :=
  (Service.code_of_ofCode? (Option.filter_eq_some_iff.mp h).1).symm

/-! ## Interrupts -/

theorem canIssue_apply (interrupted : World) (hc : b.core = c.val) :
    canIssue interrupted b m =
      { result := .ok (interrupted = .nonSecure && (m.cpu c).inFlight.isNone)
        machine := m } := by
  unfold canIssue
  by_cases hworld : interrupted = .nonSecure
  · simp [hworld, core_eq hc]
  · simp [hworld]

/-- Another interrupt than the one of the timer is ended and goes back. -/
theorem handleInterrupt_foreign (interrupted : World) (h : b.interrupt ≠ timerInterrupt) :
    handleInterrupt interrupted b m =
      { result := .ok (.eret interrupted)
        machine := m
        requests := [.acknowledge, .endOfInterrupt b.interrupt]
        notices := [.foreignInterrupt b.interrupt] } := by
  simp [handleInterrupt, h]

/-- The timer, told to the tracker, forwards the call the tracker answers with. -/
theorem handleInterrupt_timer (interrupted : World) (hc : b.core = c.val)
    (h : b.interrupt = timerInterrupt) :
    let issue := interrupted = .nonSecure && (m.cpu c).inFlight.isNone
    let events := [.timerFired b.clock issue, .timerReprogrammed]
    let told := tellAll events b m
    handleInterrupt interrupted b m =
      ((m.tracker.fire b.clock issue).2.2.elim
        { result := .ok (.eret interrupted), machine := m.told events }
        fun call => (forward call.args false .timer b (m.told events)).after []
          [.callIssued call.command.code call.rd]).after
        (.acknowledge :: .endOfInterrupt b.interrupt :: told.requests) told.notices := by
  intro issue events told
  have hfire : fireTimer issue b m =
      { told with result := .ok (m.tracker.fire b.clock issue).2.2 } := fireTimer_apply b m issue
  simp only [handleInterrupt, bind_apply, board_apply, request_apply, h, ne_eq, not_true,
    if_false, canIssue_apply interrupted hc, Outcome.andThen_mk_ok]
  have hmachine : told.machine = m.told events := machine_tellAll b m events
  rw [hfire, Outcome.andThen_mk_ok, hmachine]
  cases (m.tracker.fire b.clock issue).2.2 with
  | none => simp
  | some call => simp

end RealmDispatch
