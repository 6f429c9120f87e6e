import RealmDispatch.Proofs.RunHistory

/-!
# Which realms automatic calls are for

A realm is alive when its creation has succeeded and it was not destroyed since. The timer does
not look at that before it issues a call. It relies on the course of the realm, and a course can
begin to wait in two ways: with a creation that has succeeded, or with an activation that finds
the realm idle. An activation counts as soon as it is seen, before the realm manager has answered
it, and whether the realm is alive or not.

So a realm that is asked for its retention is always alive. A destroyed realm is no longer a
target for a call that waited, but the host can make it one again: its data is destroyed once
more exactly if it was activated after its destruction and found idle.
-/
namespace RealmDispatch
open RealmCourse

/-! ## Where a waiting realm comes from -/

/-- A realm waits with a call because it did so before, because its creation succeeded,
because it was activated, or because it was asked for its retention. -/
theorem calls_of_advance {rd : Descriptor} {s : Option RealmCourse} {ev : RealmEvent}
    {c : RealmCourse} {call : AutomaticCall} (h : advance s ev = some c)
    (hcall : c.stage.call? rd = some call) :
    (∃ c₀, s = some c₀ ∧ c₀.stage.call? rd = some call) ∨
      (∃ clock, ev = .creationCompleted 0 clock ∧ call = .askRetention rd) ∨
      (∃ clock c₀, ev = .activated clock ∧ s = some c₀ ∧ c₀.stage = .idle ∧
        call = .destroyData rd) ∨
      ∃ c₀, s = some c₀ ∧ c₀.stage.call? rd = some (.askRetention rd) ∧
        call = .destroyData rd := by
  cases s with
  | none =>
      cases ev with
      | created =>
          cases h
          cases hcall
      | _ => cases h
  | some c₀ =>
      have hsame (heq : advance (some c₀) ev = some c₀) : c₀.stage.call? rd = some call := by
        rw [heq] at h
        rw [Option.some.inj h, hcall]
      obtain ⟨stage, hint⟩ := c₀
      cases ev with
      | created =>
          cases h
          cases hcall
      | creationCompleted status clock =>
          cases stage with
          | idle =>
              by_cases hstatus : status = 0
              · subst hstatus
                cases h
                exact Or.inr (Or.inl ⟨clock, rfl, (Option.some.inj hcall).symm⟩)
              · cases hsame (by simp [advance, next, hstatus])
          | _ => exact Or.inl ⟨_, rfl, hsame rfl⟩
      | activated clock =>
          cases stage with
          | idle =>
              cases h
              exact Or.inr (Or.inr (Or.inl ⟨clock, _, rfl, rfl, rfl, (Option.some.inj hcall).symm⟩))
          | _ => exact Or.inl ⟨_, rfl, hsame rfl⟩
      | retentionReported retention clock =>
          cases stage with
          | retentionDue _ | retentionAsked =>
              cases h
              exact Or.inr (Or.inr (Or.inr ⟨_, rfl, rfl, (Option.some.inj hcall).symm⟩))
          | _ => exact Or.inl ⟨_, rfl, hsame rfl⟩
      | destructionCompleted status =>
          by_cases hstatus : status = 0
          · subst hstatus
            cases h
            cases hcall
          · exact Or.inl ⟨_, rfl, hsame (by simp [advance, next, hstatus])⟩
      | served =>
          cases stage with
          | retentionDue _ | retentionAsked =>
              cases h
              exact Or.inl ⟨_, rfl, hcall⟩
          | _ =>
              cases h
              cases hcall

/-! ## Realms that are alive -/

/-- The realm was created, and not destroyed since. -/
def Alive (rd : Descriptor) (run : List Episode) : Prop :=
  Since (Finished .realmCreate rd 0) (Finished .realmDestroy rd 0) run

/-- The realm was destroyed, and not created since. -/
def Destroyed (rd : Descriptor) (run : List Episode) : Prop :=
  Since (Finished .realmDestroy rd 0) (Finished .realmCreate rd 0) run

def CreatedOrDestroyed (rd : Descriptor) (run : List Episode) (e : Episode) : Prop :=
  Finished .realmCreate rd 0 run e ∨ Finished .realmDestroy rd 0 run e

/-- The host activates a realm that is idle. -/
def ActivatedIdle (rd : Descriptor) (run : List Episode) (e : Episode) : Prop :=
  Observed .realmActivate rd run e ∧ (({} : Machine).after run).tracker.phase? rd = some .idle

section
variable {rd : Descriptor} {run : List Episode} {e : Episode}

instance : Decidable (Destroyed rd run) := inferInstanceAs (Decidable (Since ..))

theorem Alive.not_destroyed (h : Alive rd run) : ¬ Destroyed rd run := by
  intro hdestroyed
  obtain ⟨before, x, hcreate, hdestroy⟩ :=
    Since.meet h hdestroyed (fun _ _ hx => hx) (fun _ _ hx => hx)
  have hsame := Episode.Finishes.command_unique hcreate hdestroy
  cases hsame

theorem ActivatedIdle.not_createdOrDestroyed (h : ActivatedIdle rd run e) :
    ¬ CreatedOrDestroyed rd run e :=
  not_or.mpr ⟨Episode.not_finishes_of_observes h.1, Episode.not_finishes_of_observes h.1⟩

theorem alive_snoc_iff (h : ¬ CreatedOrDestroyed rd run e) :
    Alive rd (run ++ [e]) ↔ Alive rd run :=
  since_snoc_of_not (not_or.mp h).1 (not_or.mp h).2

theorem destroyed_snoc_iff (h : ¬ CreatedOrDestroyed rd run e) :
    Destroyed rd (run ++ [e]) ↔ Destroyed rd run :=
  since_snoc_of_not (not_or.mp h).2 (not_or.mp h).1

end

/-! ## Calls that the run justifies -/

/-- The realm begins to wait for the timer. -/
def Begun (rd : Descriptor) (run : List Episode) (e : Episode) : Prop :=
  Finished .realmCreate rd 0 run e ∨ ActivatedIdle rd run e

/-- What the run must contain for the call to be issued. -/
def AutomaticCall.JustifiedBy (run : List Episode) : AutomaticCall → Prop
  | askRetention rd => Alive rd run
  | destroyData rd => Since (Begun rd) (Finished .realmDestroy rd 0) run

section
variable {rd : Descriptor} {run : List Episode} {e : Episode} {call : AutomaticCall}

theorem AutomaticCall.JustifiedBy.snoc (h : call.JustifiedBy run)
    (he : ¬ Finished .realmDestroy call.rd 0 run e) : call.JustifiedBy (run ++ [e]) := by
  cases call with
  | askRetention rd =>
      have halive : Alive rd run := h
      exact since_snoc.mpr (Or.inr ⟨halive, he⟩)
  | destroyData rd =>
      have hsince : Since (Begun rd) (Finished .realmDestroy rd 0) run := h
      exact since_snoc.mpr (Or.inr ⟨hsince, he⟩)

/-- What justifies the question justifies the destruction that follows it. -/
theorem AutomaticCall.justified_of_asked (h : (askRetention rd).JustifiedBy run) :
    (destroyData rd).JustifiedBy run := by
  obtain ⟨i, hcreated, hlater⟩ := h
  exact ⟨i, Or.inl hcreated, hlater⟩

/-- A realm waits only with a call that the run justifies. -/
theorem justified_of_waits (run : List Episode) : ∀ c call, courseAfter rd run = some c →
    c.stage.call? rd = some call → call.JustifiedBy run := by
  induction run using List.reverseRecOn with
  | nil =>
      intro c call hc
      cases hc
  | append_singleton run e ih =>
      intro c call hc hcall
      have hrd : call.rd = rd := RealmStage.rd_of_call? hcall
      by_cases hdestroyed : Finished .realmDestroy rd 0 run e
      · -- A realm that was destroyed waits for nothing.
        rw [courseAfter_snoc, Episode.news_of_destroyed hdestroyed, Option.elim_some] at hc
        cases hs : courseAfter rd run with
        | none =>
            rw [hs] at hc
            cases hc
        | some c₀ =>
            rw [hs] at hc
            cases hc
            cases hcall
      · have hkept (call : AutomaticCall) (hrd : call.rd = rd) (h : call.JustifiedBy run) :
            call.JustifiedBy (run ++ [e]) := by
          subst hrd
          exact h.snoc hdestroyed
        rw [courseAfter_snoc] at hc
        cases hnews : e.news (({} : Machine).after run) rd with
        | none =>
            rw [hnews] at hc
            exact hkept call hrd (ih c call hc hcall)
        | some ev =>
            rw [hnews, Option.elim_some] at hc
            rcases calls_of_advance hc hcall with ⟨c₀, hc₀, hcall₀⟩ | ⟨clock, hev, hask⟩ |
              ⟨clock, c₀, hev, hc₀, hidle, hdestroy⟩ | ⟨c₀, hc₀, hcall₀, hdestroy⟩
            · exact hkept call hrd (ih c₀ call hc₀ hcall₀)
            · subst hev hask
              exact since_snoc.mpr (Or.inl (Episode.finishes_of_creationCompleted hnews))
            · subst hev hdestroy
              have hphase : (({} : Machine).after run).tracker.phase? rd = some .idle := by
                rw [(follows_courseAfter rd run).phase?, hc₀, Option.map_some, hidle]
                rfl
              have hbegun : Begun rd run e :=
                Or.inr ⟨Episode.observes_of_activated hnews, hphase⟩
              exact since_snoc.mpr (Or.inl hbegun)
            · subst hdestroy
              exact hkept _ hrd (AutomaticCall.justified_of_asked (ih c₀ _ hc₀ hcall₀))

/-- The timer issues only calls that the run justifies. -/
theorem justified_of_issued (h : e.issued? (({} : Machine).after run) = some call) :
    call.JustifiedBy run := by
  unfold Episode.issued? at h
  split at h
  · rw [Option.ite_none_right_eq_some] at h
    obtain ⟨c, due, hc, -, -, hcall, -⟩ := (consistent_after run).fire_call _ _ h.2
    have hcourse : courseAfter call.rd run = some c := (follows_courseAfter call.rd run).unique hc
    exact justified_of_waits run c call hcourse hcall
  · cases h

/-- A call for a realm that is not alive goes back to an activation. -/
theorem AutomaticCall.JustifiedBy.activated (h : call.JustifiedBy run)
    (hdead : ¬ Alive call.rd run) :
    Since (ActivatedIdle call.rd) (CreatedOrDestroyed call.rd) run := by
  cases call with
  | askRetention rd => exact absurd h hdead
  | destroyData rd => exact Since.resolve_left h hdead

/-- A realm that is asked for its retention is alive. Any other call is for a live realm unless
the host has activated the realm when it was idle and not alive, and it was neither created nor
destroyed since; and it is for a destroyed realm exactly if the realm was destroyed already when
the host activated it. -/
theorem issued_call_for_live_realm_iff
    (h : e.issued? (({} : Machine).after run) = some call) :
    (∀ rd, call = .askRetention rd → Alive rd run) ∧
      (Alive call.rd run ↔
        ¬ Since (fun before x => ActivatedIdle call.rd before x ∧ ¬ Alive call.rd before)
          (CreatedOrDestroyed call.rd) run) ∧
      (Destroyed call.rd run ↔
        Since (fun before x => ActivatedIdle call.rd before x ∧ Destroyed call.rd before)
          (CreatedOrDestroyed call.rd) run) := by
  have hjustified : call.JustifiedBy run := justified_of_issued h
  have hactivated (before : List Episode) (x : Episode) (hx : ActivatedIdle call.rd before x) :
      ¬ CreatedOrDestroyed call.rd before x := hx.not_createdOrDestroyed
  refine ⟨?_, ?_, ?_⟩
  · rintro rd rfl
    exact hjustified
  · rw [since_and_iff hactivated fun _ _ hx => not_congr (alive_snoc_iff hx)]
    constructor
    · rintro halive ⟨-, hdead⟩
      exact hdead halive
    · intro hnone
      by_contra hdead
      exact hnone ⟨hjustified.activated hdead, hdead⟩
  · rw [since_and_iff hactivated fun _ _ hx => destroyed_snoc_iff hx]
    constructor
    · intro hdestroyed
      have hdead : ¬ Alive call.rd run := fun halive => halive.not_destroyed hdestroyed
      exact ⟨hjustified.activated hdead, hdestroyed⟩
    · exact And.right

end

namespace Scenario

/-- A realm is created and destroyed, and the host activates it after that. -/
def activatedDestroyed : List Episode :=
  [hostCall 0 0 .realmCreate 0x1000, completion 0 0 0, hostCall 0 1 .realmDestroy 0x1000,
    completion 0 1 0, hostCall 0 1 .realmActivate 0x1000, completion 0 1 1]

end Scenario

open Scenario in
/-- A realm is asked on core 2 after it was created on core 0. The data of a destroyed realm is
destroyed again, because the host has activated it. -/
theorem issued_call_for_live_realm_iff_of_creation :
    let created := [hostCall 0 0 .realmCreate 0x1000, completion 0 0 0]
    ((timerInterruptsHost 2 2).issued? (({} : Machine).after created) =
          some (.askRetention 0x1000) ∧
        Alive 0x1000 created) ∧
      (timerInterruptsHost 0 31).issued? (({} : Machine).after activatedDestroyed) =
          some (.destroyData 0x1000) ∧
        Since (fun before x => ActivatedIdle 0x1000 before x ∧ Destroyed 0x1000 before)
          (CreatedOrDestroyed 0x1000) activatedDestroyed := by
  intro created
  have hasked : (timerInterruptsHost 2 2).issued? (({} : Machine).after created) =
      some (.askRetention 0x1000) := by decide
  have hissued : (timerInterruptsHost 0 31).issued? (({} : Machine).after activatedDestroyed) =
      some (.destroyData 0x1000) := by decide
  have hdestroyed : Destroyed 0x1000 activatedDestroyed := by decide
  exact ⟨⟨hasked, (issued_call_for_live_realm_iff hasked).1 _ rfl⟩,
    hissued, (issued_call_for_live_realm_iff hissued).2.2.mp hdestroyed⟩

open Scenario in
/-- The timer destroys the data of a realm that was destroyed and not created since. -/
theorem destroyed_realm_called :
    (¬ ∀ (run : List Episode) (e : Episode) (call : AutomaticCall),
      e.issued? (({} : Machine).after run) = some call → Alive call.rd run) ∧
    ¬ ∀ (run : List Episode) (e : Episode) (call : AutomaticCall),
      e.issued? (({} : Machine).after run) = some call → ¬ Destroyed call.rd run := by
  have hissued : (timerInterruptsHost 0 31).issued? (({} : Machine).after activatedDestroyed) =
      some (.destroyData 0x1000) := by decide
  have hdestroyed : Destroyed 0x1000 activatedDestroyed := by decide
  constructor
  · intro hclaim
    exact (hclaim _ _ _ hissued).not_destroyed hdestroyed
  · intro hclaim
    exact hclaim _ _ _ hissued hdestroyed

end RealmDispatch
