import RealmDispatch.Proofs.StepEvaluation
import RealmDispatch.Proofs.TrackerRefinement

/-!
# Realms that were asked for their retention

Between the question for the retention and the answer a realm has no deadline, so
nothing but the answer moves it on, unless it is created anew or destroyed. Only
the timer makes the tracker take a realm for asked, and it then answers with the
question. What the dispatcher tells the tracker of other calls never does so, and
the completion of a question makes the tracker take its realm for asked no longer.
-/
namespace RealmDispatch

/-- The call asks the realm for its retention. -/
def PendingCall.Asks (call : PendingCall) (rd : Descriptor) : Prop :=
  call.code = Command.retentionGet.code ∧ call.args.x1 = rd

theorem PendingCall.Asks.ofCode? {call : PendingCall} {rd : Descriptor} (h : call.Asks rd) :
    Command.ofCode? call.code = some .retentionGet := Command.ofCode?_eq_some_iff.mpr h.1

theorem PendingCall.not_asks_of_ofCode? {call : PendingCall} {rd : Descriptor} {command : Command}
    (h : Command.ofCode? call.code = some command) (hne : command ≠ .retentionGet) :
    ¬ call.Asks rd := by
  intro hasks
  rw [hasks.ofCode?] at h
  exact hne (Option.some.inj h).symm

namespace Tracker
open RealmCourse

/-- The tracker takes the realm for asked for its retention. -/
def Asked (t : Tracker) (rd : Descriptor) : Prop :=
  t.phase? rd = some (.awaitingRetention true)

variable {t : Tracker} {rd : Descriptor} {clock : Clock}

theorem Follows.asked_iff {s : Option RealmCourse} (h : t.Follows rd s) :
    t.Asked rd ↔ s.map RealmCourse.stage = some .retentionAsked := by
  rw [Asked, h.phase?]
  cases s with
  | none => simp
  | some c =>
      obtain ⟨stage, hint⟩ := c
      cases stage <;> simp [RealmStage.phase]

/-- A realm is taken for asked after an event if it was so before, and has not
answered, or if it has just been served with the question. -/
theorem asked_of_advance {s : Option RealmCourse} {ev : RealmEvent}
    (h : (advance s ev).map RealmCourse.stage = some .retentionAsked) :
    s.map RealmCourse.stage = some .retentionAsked ∧
        (∀ retention clock, ev ≠ .retentionReported retention clock) ∨
      ev = .served ∧ ∃ c, s = some c ∧ c.stage.phase = .awaitingRetention false := by
  cases s with
  | none => cases ev <;> cases h
  | some c =>
      obtain ⟨stage, hint⟩ := c
      cases ev with
      | created => cases h
      | creationCompleted status clock =>
          cases stage with
          | idle =>
              unfold advance next at h
              by_cases hstatus : status = 0
              · simp [hstatus] at h
              · simp [hstatus] at h
          | retentionAsked => exact Or.inl ⟨rfl, by simp⟩
          | _ => cases h
      | activated clock =>
          cases stage with
          | retentionAsked => exact Or.inl ⟨rfl, by simp⟩
          | _ => cases h
      | retentionReported retention clock => cases stage <;> cases h
      | destructionCompleted status =>
          by_cases hstatus : status = 0
          · simp [advance, next, hstatus] at h
          · simpa [advance, next, hstatus] using h
      | served =>
          cases stage with
          | retentionDue due => exact Or.inr ⟨rfl, _, rfl, rfl⟩
          | retentionAsked => exact Or.inl ⟨rfl, by simp⟩
          | _ => cases h

/-- A realm the tracker takes for asked was so before the event, and has not
answered, or the event is the timer that answers with the question. -/
theorem Consistent.asked_of_handle (h : t.Consistent) {e : TrackerEvent}
    (hasked : (t.handle e).1.Asked rd) :
    t.Asked rd ∧ (∀ retention clock, e ≠ .retentionCompleted rd retention clock) ∨
      (t.handle e).2.2 = .issued (some (.askRetention rd)) := by
  obtain ⟨s, hs⟩ := h.follows rd
  rw [(h.handle_follows hs e).asked_iff] at hasked
  rw [hs.asked_iff]
  cases hnews : t.news rd e with
  | none =>
      rw [hnews] at hasked
      refine Or.inl ⟨hasked, ?_⟩
      intro retention clock he
      rw [he] at hnews
      simp at hnews
  | some ev =>
      rw [hnews] at hasked
      rcases asked_of_advance hasked with ⟨hbefore, hev⟩ | ⟨rfl, c, rfl, hphase⟩
      · refine Or.inl ⟨hbefore, ?_⟩
        intro retention clock he
        rw [he] at hnews
        exact hev retention clock (by simpa using hnews.symm)
      · right
        cases e with
        | timerFired clock issue =>
            cases hcall : (t.fire clock issue).2.2 with
            | none => simp [hcall] at hnews
            | some call =>
                have hrd : call.rd = rd := by simpa [hcall] using hnews
                subst hrd
                obtain ⟨c', due, hc', -, -, hstage, -⟩ := h.fire_call clock issue hcall
                obtain rfl : c = c' := Option.some.inj (hs.unique hc')
                obtain ⟨stage, hint⟩ := c
                simp only [handle, hcall]
                cases stage <;> cases hphase
                exact congrArg (fun call => TrackerReply.issued (some call))
                  (Option.some.inj hstage).symm
        | _ => simp at hnews

/-- An event that issues no call asks no realm. -/
theorem Consistent.asked_of_silent (h : t.Consistent) {e : TrackerEvent}
    (hreply : ∀ call, (t.handle e).2.2 ≠ .issued call) (hasked : (t.handle e).1.Asked rd) :
    t.Asked rd ∧ ∀ retention clock, e ≠ .retentionCompleted rd retention clock :=
  (h.asked_of_handle hasked).resolve_right (hreply _)

/-- The timer answers with a call only if it may issue one. -/
theorem issue_of_fire {issue : Bool} {call : AutomaticCall}
    (hcall : (t.fire clock issue).2.2 = some call) : issue = true := by
  cases issue with
  | true => rfl
  | false =>
      rw [(fire_none clock false fun hissue => nomatch hissue).1] at hcall
      cases hcall

/-- To program the timer says nothing about any realm. -/
theorem asked_evolve_pair (e : TrackerEvent) :
    (t.evolve [e, .timerReprogrammed]).Asked rd ↔ (t.handle e).1.Asked rd := by
  have hregistry : (t.evolve [e, .timerReprogrammed]).registry = (t.handle e).1.registry :=
    (t.handle e).1.reprogram_registry
  rw [Asked, Asked, phase?, phase?, hregistry]

/-- No command on its way makes a realm one that was asked. -/
theorem Consistent.asked_of_observed (h : t.Consistent) {args : Arguments}
    (hasked : (t.evolve (observedEvents args clock)).Asked rd) : t.Asked rd := by
  unfold observedEvents at hasked
  split at hasked
  · exact (h.asked_of_silent (by simp [handle]) hasked).1
  · rw [asked_evolve_pair] at hasked
    exact (h.asked_of_silent (by simp [handle]) hasked).1
  · exact hasked

/-- A realm that is still taken for asked after a completion was asked before it,
and not by the completed call. -/
theorem Consistent.asked_of_completion (h : t.Consistent) {call : PendingCall} {status : UInt64}
    (hasked : (t.evolve (completionEvents call status clock)).Asked rd) :
    t.Asked rd ∧ ¬ call.Asks rd := by
  unfold completionEvents at hasked
  split at hasked
  · rename_i hcode
    rw [asked_evolve_pair] at hasked
    exact ⟨(h.asked_of_silent (by simp [handle]) hasked).1,
      PendingCall.not_asks_of_ofCode? hcode (by decide)⟩
  · rw [asked_evolve_pair] at hasked
    obtain ⟨hbefore, hunanswered⟩ := h.asked_of_silent (by simp [handle]) hasked
    refine ⟨hbefore, ?_⟩
    intro hasks
    exact hunanswered status clock (by rw [hasks.2])
  · rename_i hcode
    rw [asked_evolve_pair] at hasked
    exact ⟨(h.asked_of_silent (by simp [handle]) hasked).1,
      PendingCall.not_asks_of_ofCode? hcode (by decide)⟩
  · rename_i hother _
    exact ⟨hasked, fun hasks => hother hasks.ofCode?⟩

/-- After the timer, a realm is taken for asked if it was so before, or if the timer
answers with the question. -/
theorem Consistent.asked_of_fired (h : t.Consistent) {issue : Bool}
    (hasked : (t.evolve [.timerFired clock issue, .timerReprogrammed]).Asked rd) :
    t.Asked rd ∨ (t.fire clock issue).2.2 = some (.askRetention rd) := by
  rw [asked_evolve_pair] at hasked
  rcases h.asked_of_handle hasked with ⟨hbefore, -⟩ | hcall
  · exact Or.inl hbefore
  · exact Or.inr (by simpa [handle] using hcall)

end Tracker

end RealmDispatch
