import RealmDispatch.Proofs.TimerProgramming

/-!
# A timer that waits for nothing

The timer is meant to wait for the head of the agenda, or for the end of a deferral
if that comes later. Whatever changes the head brings the timer in line in the same
step, with one exception. A creation that is observed on its way takes away the
deadline of a realm that was tracked before, and nobody tells the timer. If this
was the deadline the timer waits for, the timer is armed too early from then on, or
armed for nothing, until the tracker programs it again.

The timer is stale in no other case: between the episodes of a run it is set exactly
for the head of the agenda unless a creation has stranded it since it was
programmed last.
-/
namespace RealmDispatch

/-- The values a timer can be set for are those of the earliest deadlines. -/
theorem Tracker.target?_eq_some_iff {t : Tracker} (h : t.agenda.Orderly) {value : UInt64} :
    t.target? = some value ↔
      ∃ d ∈ t.agenda.entries, (∀ d' ∈ t.agenda.entries, d.due ≤ d'.due) ∧
        value = max d.due t.notBefore := by
  unfold target?
  constructor
  · intro htarget
    obtain ⟨due, hdue, hvalue⟩ := Option.map_eq_some_iff.mp htarget
    obtain ⟨d, hhead, rfl⟩ := Option.map_eq_some_iff.mp hdue
    refine ⟨d, Agenda.mem_of_head? hhead, ?_, hvalue.symm⟩
    intro d' hd'
    obtain ⟨due', hearliest, hle⟩ := h.earliest?_le hd'
    rw [hdue] at hearliest
    exact Option.some.inj hearliest ▸ hle
  · rintro ⟨d, hd, hleast, rfl⟩
    obtain ⟨due, hearliest, hle⟩ := h.earliest?_le hd
    obtain ⟨head, hhead, rfl⟩ := Option.map_eq_some_iff.mp hearliest
    have hsame : head.due = d.due :=
      UInt64.le_antisymm hle (hleast head (Agenda.mem_of_head? hhead))
    rw [hearliest, Option.map_some, hsame]

/-- The timer is set for the earliest deadline, and not set without one. -/
def Machine.TimerExact (m : Machine) : Prop := m.armed = m.tracker.target?

instance (m : Machine) : Decidable m.TimerExact := inferInstanceAs (Decidable (_ = _))

theorem Machine.TimerSet.exact_iff {m : Machine} (h : m.TimerSet)
    (ht : m.tracker.agenda.Orderly) :
    m.TimerExact ↔
      (∀ value, m.armed = some value →
        ∃ d ∈ m.tracker.agenda.entries, (∀ d' ∈ m.tracker.agenda.entries, d.due ≤ d'.due) ∧
          value = max d.due m.tracker.notBefore) ∧
      (m.tracker.agenda.entries = [] → m.armed = none) := by
  unfold TimerExact
  constructor
  · intro hexact
    constructor
    · intro value harmed
      exact (Tracker.target?_eq_some_iff ht).mp (hexact ▸ harmed)
    · intro hempty
      rw [hexact, Tracker.target?, Agenda.earliest?, Agenda.head?, hempty]
      rfl
  · intro hclaim
    cases harmed : m.armed with
    | some value => exact ((Tracker.target?_eq_some_iff ht).mpr (hclaim.1 value harmed)).symm
    | none =>
        cases htarget : m.tracker.target? with
        | none => rfl
        | some target =>
            -- A deadline nobody waits for would be missed.
            obtain ⟨v, hv, -⟩ := h.inTime target htarget
            rw [harmed] at hv
            cases hv

/-! ## What strands the timer -/

/-- A timer that is right after a deadline was taken away was right before, since what is
left falls due no earlier. -/
theorem Machine.TimerSet.target?_of_created {m : Machine} (h : m.TimerSet)
    (ht : m.tracker.agenda.Orderly) {rd : Descriptor}
    (hexact : m.armed = (m.tracker.observeCreation rd).1.target?) :
    (m.tracker.observeCreation rd).1.target? = m.tracker.target? := by
  have hlater {target : UInt64} (hleft : (m.tracker.observeCreation rd).1.target? = some target) :=
    Tracker.target?_observeCreation ht rd hleft
  cases htarget : m.tracker.target? with
  | none =>
      cases hleft : (m.tracker.observeCreation rd).1.target? with
      | none => rfl
      | some target =>
          obtain ⟨before, hbefore, -⟩ := hlater hleft
          rw [htarget] at hbefore
          cases hbefore
  | some target =>
      obtain ⟨v, harmed, hle⟩ := h.inTime target htarget
      have hleft : (m.tracker.observeCreation rd).1.target? = some v := hexact ▸ harmed
      obtain ⟨before, hbefore, hle'⟩ := hlater hleft
      rw [htarget] at hbefore
      cases hbefore
      rw [hleft, UInt64.le_antisymm hle hle']

theorem Episode.told_of_created {e : Episode} {m : Machine} {rd : Descriptor}
    (h : e.Observes m .realmCreate rd) : e.told m = [.creationObserved rd] := by
  obtain ⟨call, hforwarded, hhost, hcode, hrd⟩ := h
  obtain ⟨hcall, htold⟩ := told_of_observed hforwarded hhost
  have hcommand : Command.ofCode? (callCode call.args) = some .realmCreate :=
    Command.ofCode?_eq_some_iff.mpr (hcall ▸ hcode)
  rw [htold, observedEvents, hcommand, ← hrd]

/-- A creation takes away what the timer waits for. -/
def Strands (run : List Episode) (e : Episode) : Prop :=
  (∃ rd, Observed .realmCreate rd run e) ∧
    (({} : Machine).after (run ++ [e])).tracker.target? ≠
      (({} : Machine).after run).tracker.target?

/-- The timer is brought in line with the agenda. -/
def Reprogrammed (run : List Episode) (e : Episode) : Prop :=
  .timerReprogrammed ∈ e.told (({} : Machine).after run)

section
variable {run : List Episode} {e : Episode}

theorem not_strands_of_target? (h : (({} : Machine).after (run ++ [e])).tracker.target? =
    (({} : Machine).after run).tracker.target?) : ¬ Strands run e := fun hstrands => hstrands.2 h

theorem exact_created_iff {rd : Descriptor}
    (h : e.Observes (({} : Machine).after run) .realmCreate rd) :
    (({} : Machine).after (run ++ [e])).TimerExact ↔
      ¬ Strands run e ∧ (({} : Machine).after run).TimerExact := by
  have htold := Episode.told_of_created h
  have harmed : (({} : Machine).after (run ++ [e])).armed = (({} : Machine).after run).armed := by
    rw [Machine.after_snoc, e.armed_next, htold]
    rfl
  have htracker : (({} : Machine).after (run ++ [e])).tracker =
      ((({} : Machine).after run).tracker.observeCreation rd).1 := by
    rw [Machine.after_snoc, e.tracker_next, htold]
    rfl
  have hset := Machine.TimerSet.after run
  have horderly := (consistent_after run).agenda
  have hcreated : ∃ rd, Observed .realmCreate rd run e := ⟨rd, h⟩
  unfold Strands Machine.TimerExact
  rw [and_iff_right hcreated, not_ne_iff, harmed, htracker]
  constructor
  · intro hexact
    have hsame := hset.target?_of_created horderly hexact
    exact ⟨hsame, hexact.trans hsame⟩
  · rintro ⟨hsame, hexact⟩
    exact hexact.trans hsame.symm

theorem exact_snoc_iff :
    (({} : Machine).after (run ++ [e])).TimerExact ↔
      ¬ Strands run e ∧ (Reprogrammed run e ∨ (({} : Machine).after run).TimerExact) := by
  have htracker : (({} : Machine).after (run ++ [e])).tracker =
      (({} : Machine).after run).tracker.evolve (e.told (({} : Machine).after run)) := by
    rw [Machine.after_snoc, e.tracker_next]
  have harmed : (({} : Machine).after (run ++ [e])).armed =
      ((({} : Machine).after run).told (e.told (({} : Machine).after run))).armed := by
    rw [Machine.after_snoc, e.armed_next]
  rcases e.told_cases (({} : Machine).after run) with htold | ⟨rd, hcreated, htold⟩ | ⟨x, hx, htold⟩
  · have hreprogrammed : ¬ Reprogrammed run e := by simp [Reprogrammed, htold]
    rw [htold] at htracker harmed
    have hsame : (({} : Machine).after (run ++ [e])).tracker.target? =
        (({} : Machine).after run).tracker.target? := congrArg _ htracker
    have hexact : (({} : Machine).after (run ++ [e])).TimerExact ↔
        (({} : Machine).after run).TimerExact := by
      unfold Machine.TimerExact
      rw [harmed, hsame]
      rfl
    simp [hexact, hreprogrammed, not_strands_of_target? hsame]
  · have hreprogrammed : ¬ Reprogrammed run e := by simp [Reprogrammed, htold]
    simp [exact_created_iff hcreated, hreprogrammed]
  · have hreprogrammed : Reprogrammed run e := by simp [Reprogrammed, htold]
    have hstrands : ¬ Strands run e := by
      rintro ⟨⟨rd, hcreated⟩, -⟩
      have hsingle := Episode.told_of_created hcreated
      rw [htold] at hsingle
      cases hsingle
    have hexact : (({} : Machine).after (run ++ [e])).TimerExact := by
      have hprogrammed := (Machine.told_reprogrammed (Machine.TimerSet.after run).believes hx).2
      unfold Machine.TimerExact
      rw [harmed, htracker, htold, ← Machine.tracker_told]
      exact hprogrammed
    simp [hexact, hreprogrammed, hstrands]

end

theorem exact_after_iff (run : List Episode) :
    (({} : Machine).after run).TimerExact ↔ ¬ Since Strands Reprogrammed run := by
  induction run using List.reverseRecOn with
  | nil => exact iff_of_true rfl not_since_nil
  | append_singleton run e ih =>
      rw [exact_snoc_iff, since_snoc, ih]
      tauto

/-- Between the episodes of a run the timer is armed only for a deadline that is pending,
and set for the earliest one, unless a creation took that deadline away and the timer was
not programmed since. -/
theorem timer_exact_iff (run : List Episode) :
    let t := (({} : Machine).after run).tracker
    let armed := armedBy (({} : Machine).requested run)
    ((∀ v, armed = some v →
        ∃ d ∈ t.agenda.entries, (∀ d' ∈ t.agenda.entries, d.due ≤ d'.due) ∧
          v = max d.due t.notBefore) ∧
      (t.agenda.entries = [] → armed = none)) ↔ ¬ Since Strands Reprogrammed run := by
  intro t armed
  have harmed : (({} : Machine).after run).armed = armed := armed_after run
  have hexact := (Machine.TimerSet.after run).exact_iff (consistent_after run).agenda
  rw [harmed] at hexact
  exact hexact.symm.trans (exact_after_iff run)

namespace Scenario

/-- A realm is created and created again, before the timer has asked for its retention. -/
def createdTwice : List Episode :=
  [hostCall 0 0 .realmCreate 0x1000, completion 0 0 0, hostCall 0 0 .realmCreate 0x1000]

end Scenario

open Scenario in
/-- The second creation takes away the only deadline, and the timer stays armed. -/
theorem timer_armed_for_nothing :
    ¬ ∀ run : List Episode, (({} : Machine).after run).tracker.agenda.entries = [] →
      armedBy (({} : Machine).requested run) = none := by
  intro hclaim
  have hdisarmed := hclaim createdTwice (by decide)
  revert hdisarmed
  decide

end RealmDispatch
