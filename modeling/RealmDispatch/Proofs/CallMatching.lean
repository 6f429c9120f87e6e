import RealmDispatch.Proofs.FailedBoot
import RealmDispatch.Proofs.TimerProgramming

/-!
# Forwarded calls and their completions

A core keeps one call in flight. A call that is forwarded takes its place, even if
another one is there, and a completion that is accepted empties it. So a completion is
accepted exactly if a call was forwarded on the core since the last one that was, and
then it belongs to the call that was forwarded last. Calls of other cores have nothing
to do with it, nor do the registers of the completion, apart from the status.

Only the host can replace a call in flight. The timer waits until there is none.
-/
namespace RealmDispatch
open Step

/-! ## What a completion tells the tracker -/

/-- The one thing the tracker learns from the completion of a call, if it learns anything.
The realm manager completes a question for the retention with the retention. -/
def PendingCall.notification? (call : PendingCall) (status : UInt64) (clock : Clock) :
    Option TrackerEvent :=
  match Command.ofCode? call.code with
  | some .realmCreate => some (.creationCompleted call.args.x1 status clock)
  | some .retentionGet => some (.retentionCompleted call.args.x1 status clock)
  | some .realmDestroy => some (.destructionCompleted call.args.x1 status)
  | _ => none

section Notification
variable (m : Machine) (call : PendingCall) (status : UInt64) (clock : Clock)

/-- The timer is brought in line with the tracker after a notification. -/
theorem completionEvents_eq : completionEvents call status clock =
    (call.notification? status clock).elim [] fun n => [n, .timerReprogrammed] := by
  unfold completionEvents PendingCall.notification?
  cases Command.ofCode? call.code with
  | none => rfl
  | some command => cases command <;> rfl

theorem tracker_told_completion : (m.told (completionEvents call status clock)).tracker =
    (call.notification? status clock).elim m.tracker fun n =>
      (m.tracker.handle n).1.reprogram.1 := by
  rw [completionEvents_eq]
  cases call.notification? status clock <;> rfl

theorem armed_told_completion : (m.told (completionEvents call status clock)).armed =
    (call.notification? status clock).elim m.armed fun n =>
      (m.tracker.handle n).1.reprogram.2.elim m.armed TimerUpdate.armed? := by
  rw [completionEvents_eq]
  unfold PendingCall.notification?
  cases Command.ofCode? call.code with
  | none => rfl
  | some command => cases command <;> rfl

end Notification

/-! ## The call in flight -/

namespace Episode
variable {e : Episode} {m : Machine} {c : Core}

/-- The realm manager completes a call, and the core goes back to the host. -/
def Accepts (e : Episode) (m : Machine) : Prop :=
  match e.activity with
  | .operation (.call args flags) =>
      flags.world = .realm ∧ callCode args = Command.requestComplete.code ∧
        (handleCall args flags e.board m).result = .ok (.eret .nonSecure)
  | _ => False

theorem accepts_call {args : Arguments} {flags : CallFlags}
    (h : e.activity = .operation (.call args flags)) :
    e.Accepts m ↔ flags.world = .realm ∧ callCode args = Command.requestComplete.code ∧
      (handleCall args flags e.board m).result = .ok (.eret .nonSecure) := by
  rw [Accepts, h]

/-- The calls that are completed are those that were in flight. -/
theorem accepts_iff : e.Accepts m ↔ (e.completed? m).isSome := by
  cases hactivity : e.activity with
  | software live => simp [Accepts, completed?, hactivity]
  | comeback entry status => simp [Accepts, completed?, hactivity]
  | operation op =>
      cases op with
      | call args flags =>
          rw [accepts_call hactivity, completed?_call hactivity]
          by_cases hcompletes : Completes m args flags
          · rw [if_pos hcompletes, handleCall_completes hcompletes]
            cases hcall : (m.cpu e.core).inFlight with
            | none => simp [complete_refused e.here hcall, hcompletes.2.1]
            | some call => simp [complete_apply e.here hcall, hcompletes.2.1, hcompletes.2.2]
          · rw [if_neg hcompletes]
            simp only [Option.isSome_none, Bool.false_eq_true, iff_false]
            rintro ⟨hworld, hcode, hresult⟩
            have hfailed : m.bootFailed = true := by
              by_contra hserved
              exact hcompletes ⟨by simpa using hserved, hworld, hcode⟩
            obtain ⟨notice, hrefused⟩ := handleCall_of_failed args flags hfailed e.here
            rw [hrefused, hworld] at hresult
            cases hresult
      | _ => simp [Accepts, completed?, hactivity]

/-- The timer never replaces a call. -/
theorem inFlight_interrupted {interrupted : World} {call : PendingCall}
    (h : e.activity = .operation (.interrupt interrupted))
    (hcall : (m.cpu c).inFlight = some call) : ((e.next m).cpu c).inFlight = some call := by
  rcases e.inFlight_next m c with
    ⟨call', ⟨hc, hforwarded⟩, -⟩ | ⟨-, ⟨-, hcompleted⟩, -⟩ | ⟨-, -, hsame⟩
  · rw [forwarded?, h] at hforwarded
    obtain ⟨issued, hissued, -⟩ := Option.map_eq_some_iff.mp hforwarded
    have hidle := idle_of_issued hissued
    rw [hc, hcall] at hidle
    cases hidle
  · rw [completed?, h] at hcompleted
    cases hcompleted
  · rw [hsame, hcall]

end Episode

/-- A call is forwarded on `c`, at the end of a run. -/
def ForwardedOn (c : Core) (run : List Episode) (e : Episode) : Prop :=
  e.core = c ∧ (e.forwarded? (({} : Machine).after run)).isSome

/-- A completion is accepted on `c`, at the end of a run. -/
def AcceptedOn (c : Core) (run : List Episode) (e : Episode) : Prop :=
  e.core = c ∧ e.Accepts (({} : Machine).after run)

instance (e : Episode) (m : Machine) : Decidable (e.Accepts m) :=
  decidable_of_iff _ Episode.accepts_iff.symm

instance (c : Core) (run : List Episode) (e : Episode) : Decidable (ForwardedOn c run e) :=
  inferInstanceAs (Decidable (_ ∧ _))

instance (c : Core) (run : List Episode) (e : Episode) : Decidable (AcceptedOn c run e) :=
  inferInstanceAs (Decidable (_ ∧ _))

/-- The call that was forwarded last on `c`. -/
def LastForwarded (c : Core) (call : PendingCall) (run : List Episode) : Prop :=
  Since (fun before e => e.core = c ∧ e.forwarded? (({} : Machine).after before) = some call)
    (ForwardedOn c) run

section Matching
variable {run : List Episode} {c : Core} {call : PendingCall}

/-- A core has a call in flight exactly if one was forwarded since the last was completed. -/
theorem inFlight_isSome_iff (run : List Episode) (c : Core) :
    ((({} : Machine).after run).cpu c).inFlight.isSome ↔
      Since (ForwardedOn c) (AcceptedOn c) run := by
  induction run using List.reverseRecOn with
  | nil =>
      have hidle : (({} : Machine).cpu c).inFlight = none := by simp [Machine.cpu]
      simp [Machine.after, hidle, not_since_nil]
  | append_singleton run e ih =>
      rw [Machine.after_snoc, since_snoc, ← ih]
      unfold ForwardedOn AcceptedOn
      rw [Episode.accepts_iff]
      rcases e.inFlight_next (({} : Machine).after run) c with
        ⟨call, ⟨hc, hforwarded⟩, hnext⟩ | ⟨hforwarded, hcompleted, hnext⟩ |
          ⟨hforwarded, hcompleted, hnext⟩
      · simp [hnext, hc, hforwarded]
      · rw [hnext]
        constructor
        · intro hcall
          cases hcall
        · rintro (hagain | ⟨-, hnot⟩)
          · exact absurd hagain hforwarded
          · exact absurd hcompleted hnot
      · simp [hnext, hforwarded, hcompleted]

/-- The call in flight is the one that was forwarded last. -/
theorem lastForwarded_of_inFlight
    (h : ((({} : Machine).after run).cpu c).inFlight = some call) : LastForwarded c call run := by
  induction run using List.reverseRecOn with
  | nil =>
      have hidle : (({} : Machine).cpu c).inFlight = none := by simp [Machine.cpu]
      rw [Machine.after, List.foldl_nil, hidle] at h
      cases h
  | append_singleton run e ih =>
      rw [Machine.after_snoc] at h
      rcases e.inFlight_next (({} : Machine).after run) c with
        ⟨call', hforwarded, hnext⟩ | ⟨-, -, hnext⟩ | ⟨hforwarded, -, hnext⟩
      · cases h.symm.trans hnext
        exact since_snoc.mpr (Or.inl hforwarded)
      · cases h.symm.trans hnext
      · exact since_snoc.mpr (Or.inr ⟨ih (hnext ▸ h), hforwarded⟩)

end Matching

/-! ## Completions -/

section Completion
variable {m : Machine} {b : Board} {c : Core} {args : Arguments} {flags : CallFlags}

/-- With nothing in flight, only a register of the realm manager is written. -/
theorem completion_refused (h : Completes m args flags) (hc : b.core = c.val)
    (hcall : (m.cpu c).inFlight = none) :
    handleCall args flags b m =
      { result := .ok (.eret .realm)
        machine := m.written c .realm [unknownCall]
        notices := [.completionUnexpected] } := by
  rw [handleCall_completes h, complete_refused hc hcall, h.2.1]

theorem completion_accepted {call : PendingCall} (h : Completes m args flags)
    (hc : b.core = c.val) (hcall : (m.cpu c).inFlight = some call) :
    (handleCall args flags b m).result = .ok (.eret .nonSecure) ∧
      (handleCall args flags b m).machine = m.completed c call args b.clock := by
  rw [handleCall_completes h, complete_apply hc hcall]
  exact ⟨rfl, rfl⟩

end Completion

/-- As long as no boot has failed, a completion from the realm manager is accepted on a core
exactly if a call was forwarded there since the last completion that was accepted. It belongs
to the call that was forwarded there last, and tells the tracker one thing at most, of which
the call and the status are all that matters. The timer is brought in line afterwards. Any
other completion is refused, and changes nothing but a register of the realm manager. The
timer leaves a call that is in flight where it is. -/
theorem completion_accepted_iff_forwarded (run : List Episode) {b : Board} {c : Core}
    (args : Arguments) (flags : CallFlags)
    (hboot : (({} : Machine).after run).bootFailed = false) (hc : b.core = c.val)
    (hworld : flags.world = .realm) (hcode : callCode args = Command.requestComplete.code) :
    let m := ({} : Machine).after run
    let outcome := handleCall args flags b m
    let m' := outcome.machine
    (outcome.result = .ok (.eret .nonSecure) ↔ Since (ForwardedOn c) (AcceptedOn c) run) ∧
      (Since (ForwardedOn c) (AcceptedOn c) run → ∃ call, LastForwarded c call run ∧
        m'.tracker = (call.notification? args.x1 b.clock).elim m.tracker
          (fun n => (m.tracker.handle n).1.reprogram.1) ∧
        m'.armed = (call.notification? args.x1 b.clock).elim m.armed
          (fun n => (m.tracker.handle n).1.reprogram.2.elim m.armed TimerUpdate.armed?) ∧
        ∀ d, (m'.cpu d).inFlight = if d = c then none else (m.cpu d).inFlight) ∧
      (¬ Since (ForwardedOn c) (AcceptedOn c) run →
        outcome = { result := .ok (.eret .realm), machine := m.written c .realm [unknownCall],
                    notices := [.completionUnexpected] } ∧
          m'.tracker = m.tracker ∧ m'.armed = m.armed ∧
          ∀ d, m'.context d .nonSecure = m.context d .nonSecure) ∧
      ∀ (e : Episode) interrupted d call, e.activity = .operation (.interrupt interrupted) →
        (m.cpu d).inFlight = some call → ((e.next m).cpu d).inFlight = some call := by
  intro m outcome m'
  have hcompletes : Completes m args flags := ⟨hboot, hworld, hcode⟩
  have hsince : (m.cpu c).inFlight.isSome ↔ Since (ForwardedOn c) (AcceptedOn c) run :=
    inFlight_isSome_iff run c
  have htimer (e : Episode) interrupted d call
      (h : e.activity = .operation (.interrupt interrupted))
      (hcall : (m.cpu d).inFlight = some call) : ((e.next m).cpu d).inFlight = some call :=
    Episode.inFlight_interrupted h hcall
  cases hcall : (m.cpu c).inFlight with
  | none =>
      have hnot : ¬ Since (ForwardedOn c) (AcceptedOn c) run := by
        rw [← hsince, hcall]
        exact Bool.false_ne_true
      have hrefused := completion_refused (b := b) hcompletes hc hcall
      have hmachine : m' = m.written c .realm [unknownCall] := congrArg Outcome.machine hrefused
      refine ⟨?_, fun h => absurd h hnot, fun _ => ⟨hrefused, ?_⟩, htimer⟩
      · have hresult : outcome.result = .ok (.eret .realm) := congrArg Outcome.result hrefused
        rw [hresult]
        simp [hnot]
      · rw [hmachine]
        refine ⟨rfl, rfl, ?_⟩
        intro d
        simp
  | some call =>
      have hyes : Since (ForwardedOn c) (AcceptedOn c) run := by
        rw [← hsince, hcall]
        rfl
      obtain ⟨hresult, hmachine⟩ := completion_accepted (b := b) hcompletes hc hcall
      have hmachine : m' = m.completed c call args b.clock := hmachine
      refine ⟨iff_of_true hresult hyes, fun _ => ⟨call, lastForwarded_of_inFlight hcall, ?_⟩,
        fun h => absurd hyes h, htimer⟩
      rw [hmachine]
      refine ⟨?_, ?_, ?_⟩
      · rw [Machine.tracker_completed, ← Machine.tracker_told, tracker_told_completion]
      · rw [Machine.armed_completed, armed_told_completion]
      · intro d
        exact m.inFlight_completed c d call args b.clock

namespace Scenario

/-- The host hands a call on from each of two cores, and on the first of them another one
before the realm manager has completed the call. -/
def replacedCall : List Episode :=
  [episode 0 0 (.operation .setup), hostCall 0 0 .realmCreate 0x1000,
    hostCall 1 0 .realmCreate 0x2000, hostCall 0 0 .realmDestroy 0x1000]

end Scenario

open Scenario in
/-- The first core has handed on two calls and completed none. -/
theorem completion_accepted_of_replacedCall :
    (handleCall (Arguments.ofList [Command.requestComplete.code.toUInt64, 0, 5, 6])
      ⟨CallFlags.nonSecureBit ||| CallFlags.realmBit⟩ (completion 0 1 0).board
      (({} : Machine).after replacedCall)).result = .ok (.eret .nonSecure) := by
  have hforwarded : Since (ForwardedOn 0) (AcceptedOn 0) replacedCall := by decide
  have haccepted := completion_accepted_iff_forwarded replacedCall
    (Arguments.ofList [Command.requestComplete.code.toUInt64, 0, 5, 6])
    ⟨CallFlags.nonSecureBit ||| CallFlags.realmBit⟩ (by decide) (completion 0 1 0).here
    (by decide) (by decide)
  exact haccepted.1.mpr hforwarded

end RealmDispatch
