import RealmDispatch.Proofs.TrackerRefinement

/-!
# What every history of the tracker leaves behind

The statements of this module hold of the tracker after any history that begins
with nothing tracked, whatever the clocks say and in whatever order the events
of different realms come. The first compares records with deadlines, the second
compares the tracker with one independent course per realm.
-/
namespace RealmDispatch

namespace Tracker
open RealmCourse
variable {t : Tracker} {rd : Descriptor}

/-- Records and pending deadlines that fit each other. A realm that is about to
be asked has a deadline nobody else remembers; the deadline of a destruction is
remembered by the record as well. -/
structure Matched (t : Tracker) : Prop where
  distinct : (t.registry.records.map Record.rd).Nodup
  nonzero : ∀ x ∈ t.registry.records, x.rd ≠ 0
  bounded : t.registry.records.length ≤ realmCapacity
  sorted : t.agenda.entries.Pairwise fun d e => d.due ≤ e.due
  single : (t.agenda.entries.map Deadline.rd).Nodup
  queued : ∀ d ∈ t.agenda.entries, ∃ x ∈ t.registry.records, x.rd = d.rd ∧
    (x.phase = .awaitingRetention false ∨ x.phase = .awaitingDestruction d.due)
  awaitingRetention : ∀ x ∈ t.registry.records, x.phase = .awaitingRetention false →
    ∃ due, { due, rd := x.rd } ∈ t.agenda.entries
  awaitingDestruction : ∀ x ∈ t.registry.records, ∀ due, x.phase = .awaitingDestruction due →
    { due, rd := x.rd } ∈ t.agenda.entries
  count : ∀ x ∈ t.registry.records,
    (t.agenda.entries.filter fun d => d.rd == x.rd).length =
      if x.phase = .idle ∨ x.phase = .awaitingRetention true then 0 else 1

theorem Consistent.course_of_record (h : t.Consistent) {x : Record}
    (hx : x ∈ t.registry.records) :
    ∃ c : RealmCourse, t.Follows x.rd (some c) ∧ c.record x.rd = x := by
  obtain ⟨s, hs⟩ := h.follows x.rd
  have hlookup := h.registry.lookup?_of_mem hx
  rw [hs.record, Option.map_eq_some_iff] at hlookup
  obtain ⟨c, rfl, hc⟩ := hlookup
  exact ⟨c, hs, hc⟩

theorem Consistent.mem_of_due (h : t.Consistent) {c : RealmCourse} {due : UInt64}
    (hc : t.Follows rd (some c)) (hdue : c.stage.due? = some due) :
    { due, rd } ∈ t.agenda.entries := by
  have hfind : t.agenda.find? rd = some { due, rd } := by
    rw [hc.deadline, Option.bind_some, RealmCourse.deadline?, hdue]
    rfl
  exact (h.agenda.find?_eq_some_iff.mp hfind).1

theorem Consistent.matched (h : t.Consistent) : t.Matched where
  distinct := h.registry.distinct
  nonzero := h.registry.nonzero
  bounded := h.registry.bounded
  sorted := h.agenda.sorted
  single := h.agenda.distinct
  queued := by
    intro d hd
    obtain ⟨c, hc, hdue⟩ := h.waits_of_queued hd
    refine ⟨c.record d.rd, Registry.mem_of_lookup? hc.record, rfl, ?_⟩
    obtain ⟨stage, hint⟩ := c
    cases stage with
    | idle | retentionAsked => cases hdue
    | retentionDue due => exact Or.inl rfl
    | destructionDue due =>
        cases hdue
        exact Or.inr rfl
  awaitingRetention := by
    intro x hx hphase
    obtain ⟨⟨stage, hint⟩, hc, hrecord⟩ := h.course_of_record hx
    rw [← hrecord] at hphase
    cases stage with
    | retentionDue due => exact ⟨due, h.mem_of_due hc rfl⟩
    | _ => cases hphase
  awaitingDestruction := by
    intro x hx due hphase
    obtain ⟨⟨stage, hint⟩, hc, hrecord⟩ := h.course_of_record hx
    rw [← hrecord] at hphase
    cases stage with
    | destructionDue due' =>
        cases hphase
        exact h.mem_of_due hc rfl
    | _ => cases hphase
  count := by
    intro x hx
    obtain ⟨⟨stage, hint⟩, hc, hrecord⟩ := h.course_of_record hx
    rw [h.agenda.filter_eq_toList, hc.deadline, ← hrecord]
    cases stage <;>
      simp [RealmCourse.record, RealmCourse.deadline?, RealmStage.phase, RealmStage.due?]

/-- Registry and agenda fit each other after every history. -/
theorem evolve_matched (events : List TrackerEvent) : (({} : Tracker).evolve events).Matched :=
  (consistent_evolve consistent_empty events).matched

/-! ## One course per realm -/

theorem Consistent.observeCreation_isOk_iff (h : t.Consistent) :
    (t.observeCreation rd).2.isOk = true ↔ t.registry.Admits rd := by
  constructor
  · intro hok
    by_contra hrd
    obtain ⟨s, hs⟩ := h.follows rd
    rw [(h.turns_refused hrd hs).1] at hok
    cases hok
  · intro hrd
    exact (h.turns_observeCreation hrd).1

/-- At every realm the tracker shows exactly the course that the history makes of
the realm: its record, its only deadline, and the call the timer serves it with.
A creation is part of the course if it is registered, which depends on the
course being under way already or on the number of realms tracked. -/
theorem evolve_shows_course (rd : Descriptor) (events : List TrackerEvent) :
    let t := ({} : Tracker).evolve events
    let s := course rd events
    t.registry.lookup? rd = s.map (RealmCourse.record rd) ∧
      (t.agenda.entries.filter fun d => d.rd == rd) =
        (s.bind (RealmCourse.deadline? rd)).toList ∧
      ((t.observeCreation rd).2.isOk = true ↔
        rd ≠ 0 ∧ (s.isSome ∨ t.registry.records.length < realmCapacity)) ∧
      ∀ clock issue call, (t.fire clock issue).2.2 = some call → call.rd = rd →
        s.bind (fun c => c.stage.call? rd) = some call := by
  intro t s
  have h : t.Consistent := consistent_evolve consistent_empty events
  have hs : t.Follows rd s := evolve_follows_course rd events
  refine ⟨hs.record, ?_, ?_, ?_⟩
  · rw [h.agenda.filter_eq_toList, hs.deadline]
  · rw [h.observeCreation_isOk_iff, Registry.Admits, hs.record, Option.isSome_map]
    rfl
  · intro clock issue call hcall hrd
    obtain ⟨c, due, hc, -, -, hstage, -⟩ := h.fire_call clock issue hcall
    subst hrd
    rw [hs.unique hc, Option.bind_some, hstage]

/-- The course `rd` would have if every creation observed began one and every
firing of the timer served the realm. -/
def ungrantedCourse (rd : Descriptor) (events : List TrackerEvent) : Option RealmCourse :=
  (events.filterMap (TrackerEvent.about rd)).foldl advance none

/-- The replies cannot be left out of account: descriptor 0 and a realm beyond the
capacity are not tracked, and a timer that is early serves no one. -/
theorem ungrantedCourse_not_followed :
    ¬ (({} : Tracker).evolve [.creationObserved 0]).Follows 0
        (ungrantedCourse 0 [.creationObserved 0]) ∧
      ¬ (({} : Tracker).evolve
          ([1, 2, 3, 4, 5, 6, 7, 8, 9, 10, 11].map TrackerEvent.creationObserved)).Follows 11
        (ungrantedCourse 11
          ([1, 2, 3, 4, 5, 6, 7, 8, 9, 10, 11].map TrackerEvent.creationObserved)) ∧
      ¬ (({} : Tracker).evolve
          [.creationObserved 1, .creationCompleted 1 0 ⟨0, 1⟩, .timerFired ⟨0, 1⟩ true]).Follows 1
        (ungrantedCourse 1
          [.creationObserved 1, .creationCompleted 1 0 ⟨0, 1⟩, .timerFired ⟨0, 1⟩ true]) := by
  refine ⟨fun h => ?_, fun h => ?_, fun h => ?_⟩
  · exact absurd h.record (by decide)
  · exact absurd h.record (by decide)
  · exact absurd h.record (by decide)

end Tracker

end RealmDispatch
