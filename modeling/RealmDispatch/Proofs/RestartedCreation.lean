import RealmDispatch.Proofs.RunHistory

/-!
# Creating a realm that is tracked already

The tracker keeps one record for each descriptor and never evicts it. When the
host creates a realm whose descriptor is known, the record starts again on the
way in, before the realm manager has had a say, and the deadline goes with it. If
the realm manager refuses the creation, nothing is put back: the refusal itself
changes nothing at all, and the realm stays at its beginning until a creation
succeeds or the host activates it.
-/
namespace RealmDispatch
open Tracker

/-- The realm is tracked as if it had just been registered. -/
structure Tracker.Fresh (t : Tracker) (rd : Descriptor) : Prop where
  record : t.registry.lookup? rd = some { rd }
  deadline : t.agenda.find? rd = none

instance (t : Tracker) (rd : Descriptor) : Decidable (t.Fresh rd) :=
  decidable_of_iff (_ ∧ _) ⟨fun h => ⟨h.1, h.2⟩, fun h => ⟨h.record, h.deadline⟩⟩

/-- The host creates a realm that is tracked already. -/
def Recreated (rd : Descriptor) (run : List Episode) (e : Episode) : Prop :=
  Observed .realmCreate rd run e ∧
    ((({} : Machine).after run).tracker.registry.lookup? rd).isSome

section
variable {rd : Descriptor} {run : List Episode} {e : Episode} {status : UInt64}

instance : Decidable (Recreated rd run e) := inferInstanceAs (Decidable (_ ∧ _))

theorem fresh_of_courseAfter (h : courseAfter rd run = some {}) :
    (({} : Machine).after run).tracker.Fresh rd := by
  have hfollows := follows_courseAfter rd run
  rw [h] at hfollows
  exact ⟨hfollows.record, hfollows.deadline⟩

/-- Nothing but a renewal ends the beginning of a realm that was created again. -/
theorem fresh_of_since_recreated (h : Since (Recreated rd) (Renewed rd) run) :
    courseAfter rd run = some {} := by
  induction run using List.reverseRecOn with
  | nil => exact absurd h not_since_nil
  | append_singleton run e ih =>
      rcases since_snoc.mp h with ⟨hobserved, htracked⟩ | ⟨hsince, hrenewed⟩
      · exact fresh_of_recreated hobserved htracked
      · exact fresh_snoc (ih hsince) hrenewed

/-- A creation that is seen means nothing to other realms. -/
theorem agreesOn_of_observed (h : Observed .realmCreate rd run e) {rd' : Descriptor}
    (hne : rd' ≠ rd) : (({} : Machine).after run).tracker.AgreesOn
      (({} : Machine).after (run ++ [e])).tracker rd' := by
  obtain ⟨call, hforwarded, hhost, hcode, hrd⟩ := h
  have hother : call.args.x1 ≠ rd' := by
    rw [hrd]
    exact hne.symm
  rw [agreesOn_next_iff, courseAfter_snoc, Episode.news_of_observed hforwarded hhost,
    if_neg hother, Option.elim_none]

/-- The tracker lets a refused creation pass. -/
theorem tracker_of_refused (h : Finished .realmCreate rd status run e) (hstatus : status ≠ 0) :
    (({} : Machine).after (run ++ [e])).tracker =
      (({} : Machine).after run).tracker.reprogram.1 := by
  obtain ⟨call, hcompleted, hcode, hrd⟩ := h
  have htold := Episode.told_of_completed hcompleted
  rw [completionEvents, Command.ofCode?_eq_some_iff.mpr hcode] at htold
  rw [Machine.after_snoc, Episode.tracker_next, htold]
  simp [Tracker.evolve, Tracker.handle, Tracker.completeCreation, hstatus]

/-- A creation restarts a realm that is tracked, whatever it waits for, and no other. A
creation that the realm manager refuses changes no record and no deadline, and leaves the
realm restarted unless it was renewed in between. -/
theorem refused_creation_leaves_restarted (rd : Descriptor) (run : List Episode) (e : Episode) :
    let before := (({} : Machine).after run).tracker
    let after := (({} : Machine).after (run ++ [e])).tracker
    (Recreated rd run e → after.Fresh rd ∧ ∀ rd', rd' ≠ rd → before.AgreesOn after rd') ∧
      ∀ status, status ≠ 0 → Finished .realmCreate rd status run e →
        after.registry = before.registry ∧ after.agenda = before.agenda ∧
          (Since (Recreated rd) (Renewed rd) run → after.Fresh rd) := by
  intro before after
  constructor
  · intro hrecreated
    obtain ⟨hobserved, htracked⟩ := hrecreated
    constructor
    · exact fresh_of_courseAfter (fresh_of_recreated hobserved htracked)
    · intro rd' hne
      exact agreesOn_of_observed hobserved hne
  · intro status hstatus hfinished
    have htracker : after = before.reprogram.1 := tracker_of_refused hfinished hstatus
    have hregistry : after.registry = before.registry := by
      rw [htracker, reprogram_registry]
    have hagenda : after.agenda = before.agenda := by
      rw [htracker, reprogram_agenda]
    refine ⟨hregistry, hagenda, ?_⟩
    intro hsince
    have hfresh : before.Fresh rd := fresh_of_courseAfter (fresh_of_since_recreated hsince)
    constructor
    · rw [hregistry, hfresh.record]
    · rw [hagenda, hfresh.deadline]

end

namespace Scenario

/-- A realm has reported its retention, and its data is to be destroyed at 62. -/
def retentionReported : List Episode :=
  [hostCall 0 0 .realmCreate 0x1000, completion 0 0 0, timerInterruptsHost 0 2, completion 0 2 60]

/-- The host creates the realm again, and the timer and another core go on meanwhile. -/
def createdOnceMore : List Episode :=
  retentionReported ++ [hostCall 1 3 .realmCreate 0x1000, timerInterruptsHost 0 4,
    hostCall 0 4 .realmCreate 0x2000, completion 0 4 0]

end Scenario

open Scenario in
/-- A creation on core 1 is refused after core 0 has created another realm. -/
theorem refused_creation_leaves_restarted_of_retentionReported :
    ((({} : Machine).after (retentionReported ++ [hostCall 1 3 .realmCreate 0x1000])).tracker.Fresh
      0x1000) ∧
    ((({} : Machine).after (createdOnceMore ++ [completion 1 5 1])).tracker.Fresh 0x1000) := by
  have hrecreated : Recreated 0x1000 retentionReported (hostCall 1 3 .realmCreate 0x1000) := by
    decide
  have hrefused : Finished .realmCreate 0x1000 1 createdOnceMore (completion 1 5 1) := by decide
  have hsince : Since (Recreated 0x1000) (Renewed 0x1000) createdOnceMore := by decide
  constructor
  · exact ((refused_creation_leaves_restarted 0x1000 _ _).1 hrecreated).1
  · exact ((refused_creation_leaves_restarted 0x1000 _ _).2 1 (by decide) hrefused).2.2 hsince

open Scenario in
/-- A creation that is refused can do away with the deadline of a realm. -/
theorem refused_creation_changes_realm :
    ¬ ∀ (run : List Episode) (create refuse : Episode) (rd : Descriptor) (status : UInt64),
      let before := ({} : Machine).after run
      (∃ phase, before.tracker.phase? rd = some phase ∧ phase ≠ .idle) →
      (before.cpu create.core).inFlight = none → Observed .realmCreate rd run create →
      refuse.core = create.core → status ≠ 0 →
      Finished .realmCreate rd status (run ++ [create]) refuse →
      before.tracker.AgreesOn (({} : Machine).after (run ++ [create, refuse])).tracker rd := by
  intro hclaim
  have hwaits : ∃ phase, (({} : Machine).after retentionReported).tracker.phase? 0x1000 =
      some phase ∧ phase ≠ .idle := ⟨.awaitingDestruction 62, by decide⟩
  have hsame := hclaim retentionReported (hostCall 1 3 .realmCreate 0x1000) (completion 1 3 1)
    0x1000 1 hwaits (by decide) (by decide) rfl (by decide) (by decide)
  revert hsame
  decide

end RealmDispatch
