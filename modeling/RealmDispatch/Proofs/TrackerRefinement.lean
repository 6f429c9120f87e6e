import Mathlib.Data.List.Induction
import Mathlib.Data.List.Perm.Subperm
import RealmDispatch.Proofs.AgendaOrder
import RealmDispatch.Proofs.RealmCourse
import RealmDispatch.Proofs.RegistryRecords

/-!
# The tracker follows one course per realm

A tracker follows a course at a realm if its record and its pending deadline of
that realm are those of the course. A consistent tracker has a sound registry and
an orderly agenda, and it follows some course at every realm. This says all that
ties the two together: what is queued, and for whom.

Every event turns at most one realm of a consistent tracker, and that realm makes
the step its course makes. There is always room for the deadline to be scheduled,
since every other queued realm has a record beside the one that is turned. That
the head of the agenda belongs to a realm waiting for it is the other fact that
keeps the branches of the timer for unknown and idle realms from being taken.
-/
namespace RealmDispatch

theorem Clock.afterSeconds_eq_exactly (c : Clock) (seconds : UInt64) :
    c.afterSeconds seconds = c.exactly seconds.toNat := by
  rw [← UInt64.toNat_inj, afterSeconds, exactly, Counter.toNat_add, Counter.toNat_mul,
    Counter.toNat_clamp]
  omega

namespace Tracker
open RealmCourse
variable {t t' : Tracker} {rd rd' : Descriptor} {s s' : Option RealmCourse} {c : RealmCourse}

structure Follows (t : Tracker) (rd : Descriptor) (s : Option RealmCourse) : Prop where
  record : t.registry.lookup? rd = s.map (RealmCourse.record rd)
  deadline : t.agenda.find? rd = s.bind (RealmCourse.deadline? rd)

structure Consistent (t : Tracker) : Prop where
  registry : t.registry.Sound
  agenda : t.agenda.Orderly
  follows : ∀ rd, ∃ s, t.Follows rd s

theorem consistent_empty : ({} : Tracker).Consistent :=
  ⟨Registry.sound_empty, Agenda.orderly_empty, fun _ => ⟨none, rfl, rfl⟩⟩

theorem Follows.phase? (h : t.Follows rd s) : t.phase? rd = s.map fun c => c.stage.phase := by
  rw [Tracker.phase?, h.record, Option.map_map]
  rfl

theorem Follows.unique (h : t.Follows rd s) (h' : t.Follows rd s') : s = s' := by
  have hrecord := h.record.symm.trans h'.record
  have hdeadline := h.deadline.symm.trans h'.deadline
  cases s with
  | none =>
      cases s' with
      | none => rfl
      | some c' => cases hrecord
  | some c =>
      cases s' with
      | none => cases hrecord
      | some c' => exact congrArg some (eq_of_record (Option.some.inj hrecord) hdeadline)

/-- Only `rd` is told apart by the two trackers, and there the second follows `s'`. -/
structure Turns (t t' : Tracker) (rd : Descriptor) (s' : Option RealmCourse) : Prop where
  registry : t'.registry.Sound
  agenda : t'.agenda.Orderly
  here : t'.Follows rd s'
  record : ∀ rd', rd' ≠ rd → t'.registry.lookup? rd' = t.registry.lookup? rd'
  deadline : ∀ rd', rd' ≠ rd → t'.agenda.find? rd' = t.agenda.find? rd'

theorem Turns.follows_other (h : t.Turns t' rd s') (hne : rd' ≠ rd) (hs : t.Follows rd' s) :
    t'.Follows rd' s :=
  ⟨(h.record rd' hne).trans hs.record, (h.deadline rd' hne).trans hs.deadline⟩

theorem Turns.consistent (h : t.Consistent) (ht : t.Turns t' rd s') : t'.Consistent where
  registry := ht.registry
  agenda := ht.agenda
  follows := by
    intro rd'
    by_cases hrd : rd' = rd
    · exact ⟨s', hrd ▸ ht.here⟩
    · obtain ⟨s, hs⟩ := h.follows rd'
      exact ⟨s, ht.follows_other hrd hs⟩

/-! ## The ways in which a realm is turned -/

theorem Consistent.turns_of_eq (h : t.Consistent) (hs : t.Follows rd s)
    (hr : t'.registry = t.registry) (ha : t'.agenda = t.agenda) : t.Turns t' rd s where
  registry := hr ▸ h.registry
  agenda := ha ▸ h.agenda
  here := ⟨hr ▸ hs.record, ha ▸ hs.deadline⟩
  record := by simp [hr]
  deadline := by simp [ha]

/-- A realm that changes its record and has no deadline any more. -/
theorem Consistent.turns_of_remove (h : t.Consistent) {f : Record → Record}
    (hs : t.Follows rd (some c)) {c' : RealmCourse}
    (hr : t'.registry = t.registry.update rd f) (ha : t'.agenda = t.agenda.remove rd)
    (hf : ∀ x, x.rd = rd → (f x).rd = rd) (hc : f (c.record rd) = c'.record rd)
    (hdue : c'.stage.due? = none) : t.Turns t' rd (some c') where
  registry := hr ▸ h.registry.update hf
  agenda := ha ▸ h.agenda.remove rd
  here := by
    constructor
    · rw [hr, Registry.lookup?_update hf, if_pos rfl, hs.record, Option.map_some, Option.map_some,
        hc, Option.map_some]
    · rw [ha, h.agenda.find?_remove, if_pos rfl, Option.bind_some, deadline?, hdue]
      rfl
  record := by
    intro rd' hne
    rw [hr, Registry.lookup?_update hf, if_neg hne]
  deadline := by
    intro rd' hne
    rw [ha, h.agenda.find?_remove, if_neg hne]

/-- A realm that changes its record and waits for a new deadline. -/
theorem Consistent.turns_of_reschedule (h : t.Consistent) {f : Record → Record} {due : UInt64}
    (hs : t.Follows rd (some c)) {c' : RealmCourse}
    (hr : t'.registry = t.registry.update rd f)
    (ha : t'.agenda = (t.agenda.remove rd).place { due, rd })
    (hf : ∀ x, x.rd = rd → (f x).rd = rd) (hc : f (c.record rd) = c'.record rd)
    (hdue : c'.stage.due? = some due) : t.Turns t' rd (some c') where
  registry := hr ▸ h.registry.update hf
  agenda := ha ▸ h.agenda.reschedule
  here := by
    constructor
    · rw [hr, Registry.lookup?_update hf, if_pos rfl, hs.record, Option.map_some, Option.map_some,
        hc, Option.map_some]
    · rw [ha, h.agenda.find?_reschedule, if_pos rfl, Option.bind_some, deadline?, hdue]
      rfl
  record := by
    intro rd' hne
    rw [hr, Registry.lookup?_update hf, if_neg hne]
  deadline := by
    intro rd' hne
    rw [ha, h.agenda.find?_reschedule, if_neg hne]

/-! ## Room on the agenda -/

/-- A queued realm has a record that waits for the timer. -/
theorem Consistent.waits_of_queued (h : t.Consistent) {d : Deadline} (hd : d ∈ t.agenda.entries) :
    ∃ c : RealmCourse, t.Follows d.rd (some c) ∧ c.stage.due? = some d.due := by
  obtain ⟨s, hs⟩ := h.follows d.rd
  have hfind : t.agenda.find? d.rd = some d := h.agenda.find?_eq_some_iff.mpr ⟨hd, rfl⟩
  rw [hs.deadline, Option.bind_eq_some_iff] at hfind
  obtain ⟨c, rfl, hc⟩ := hfind
  obtain ⟨due, hdue, hd⟩ := Option.map_eq_some_iff.mp hc
  exact ⟨c, hs, by rw [hdue, ← hd]⟩

theorem Follows.mem_rds (h : t.Follows rd (some c)) : rd ∈ t.registry.records.map Record.rd := by
  have hx : t.registry.lookup? rd = some (c.record rd) := h.record
  exact List.mem_map.mpr ⟨_, Registry.mem_of_lookup? hx, rfl⟩

/-- The other queued realms have records beside the one of `rd`. -/
theorem Consistent.room (h : t.Consistent) (hs : t.Follows rd (some c)) :
    (t.agenda.remove rd).size < realmCapacity := by
  have hrd : rd ∉ (t.agenda.remove rd).entries.map Deadline.rd := by
    intro hmem
    obtain ⟨d, hd, hdrd⟩ := List.mem_map.mp hmem
    exact (h.agenda.mem_remove.mp hd).2 hdrd
  have hnodup : (rd :: (t.agenda.remove rd).entries.map Deadline.rd).Nodup :=
    List.nodup_cons.mpr ⟨hrd, (h.agenda.remove rd).distinct⟩
  have hsub : rd :: (t.agenda.remove rd).entries.map Deadline.rd ⊆
      t.registry.records.map Record.rd := by
    intro rd' hmem
    rcases List.mem_cons.mp hmem with rfl | hmem
    · exact hs.mem_rds
    · obtain ⟨d, hd, rfl⟩ := List.mem_map.mp hmem
      obtain ⟨c', hc', -⟩ := h.waits_of_queued (h.agenda.mem_remove.mp hd).1
      exact hc'.mem_rds
  have hlen := (hnodup.subperm hsub).length_le
  rw [List.length_cons, List.length_map, List.length_map] at hlen
  exact Nat.lt_of_lt_of_le (Nat.lt_of_succ_le hlen) h.registry.bounded

/-- A schedule for a tracked realm is never refused. -/
theorem Consistent.schedule_eq (h : t.Consistent) (hs : t.Follows rd (some c)) (t' : Tracker)
    {due : UInt64} (ha : t'.agenda = t.agenda) :
    t'.schedule rd due =
      ({ t' with agenda := (t.agenda.remove rd).place { due, rd } }, []) := by
  unfold Tracker.schedule
  rw [ha, Agenda.schedule_of_room (h.room hs)]

/-! ## The events -/

theorem Consistent.turns_observeCreation (h : t.Consistent) (hrd : t.registry.Admits rd) :
    (t.observeCreation rd).2.isOk = true ∧
      t.Turns (t.observeCreation rd).1 rd (some {}) := by
  obtain ⟨r', handle, hr, hsound, hlookup⟩ := h.registry.register_accepted hrd
  unfold observeCreation
  rw [hr]
  refine ⟨rfl, hsound, h.agenda.remove rd, ⟨?_, ?_⟩, ?_, ?_⟩
  · exact (hlookup rd).trans (if_pos rfl)
  · exact h.agenda.find?_remove.trans (if_pos rfl)
  · intro rd' hne
    exact (hlookup rd').trans (if_neg hne)
  · intro rd' hne
    exact h.agenda.find?_remove.trans (if_neg hne)

/-- An unknown realm is not queued. -/
theorem Follows.find?_of_untracked (h : t.Follows rd none) : t.agenda.find? rd = none := h.deadline

theorem Follows.eq_none (hs : t.Follows rd s) (h : t.registry.lookup? rd = none) : s = none := by
  rw [hs.record, Option.map_eq_none_iff] at h
  exact h

/-- A refused creation leaves even the agenda alone. -/
theorem Consistent.turns_refused (h : t.Consistent) (hrd : ¬ t.registry.Admits rd)
    (hs : t.Follows rd s) :
    (t.observeCreation rd).2.isOk = false ∧ t.Turns (t.observeCreation rd).1 rd s := by
  obtain ⟨cause, hr⟩ := Registry.register_refused hrd
  obtain rfl : s = none := hs.eq_none (h.registry.lookup?_of_refused hrd)
  unfold observeCreation
  rw [hr]
  exact ⟨rfl, h.turns_of_eq hs rfl (Agenda.remove_of_find?_eq_none hs.find?_of_untracked)⟩

theorem Consistent.turns_completeCreation (h : t.Consistent) (hs : t.Follows rd s)
    (status : UInt64) (clock : Clock) :
    t.Turns (t.completeCreation rd status clock).1 rd
      (advance s (.creationCompleted status clock)) := by
  unfold completeCreation
  rw [hs.phase?]
  by_cases hstatus : status = 0
  · cases s with
    | none => simpa [hstatus, advance] using h.turns_of_eq hs rfl rfl
    | some c =>
        obtain ⟨stage, hint⟩ := c
        cases stage with
        | idle =>
            simp only [hstatus, RealmStage.phase, Option.map_some, ne_eq, not_true, if_false]
            rw [h.schedule_eq hs (t.setPhase rd _) rfl]
            refine h.turns_of_reschedule hs rfl rfl (fun _ hx => hx) rfl ?_
            simp [next, RealmStage.due?, Clock.afterSeconds_eq_exactly, retentionGuardSeconds]
        | _ => simpa [hstatus, advance, next, RealmStage.phase] using h.turns_of_eq hs rfl rfl
  · have hsame : advance s (.creationCompleted status clock) = s := by
      cases s with
      | none => rfl
      | some c =>
          obtain ⟨stage, hint⟩ := c
          cases stage <;> simp [advance, next, hstatus]
    rw [hsame, if_pos hstatus]
    exact h.turns_of_eq hs rfl rfl

theorem Consistent.turns_observeActivation (h : t.Consistent) (hs : t.Follows rd s)
    (clock : Clock) :
    t.Turns (t.observeActivation rd clock).1 rd (advance s (.activated clock)) := by
  unfold observeActivation
  rw [hs.phase?]
  cases s with
  | none => exact h.turns_of_eq hs rfl rfl
  | some c =>
      obtain ⟨stage, hint⟩ := c
      cases stage with
      | idle =>
          simp only [RealmStage.phase, Option.map_some]
          rw [h.schedule_eq hs (t.setPhase rd _) rfl]
          refine h.turns_of_reschedule hs rfl rfl (fun _ hx => hx) ?_ ?_
          · simp [next, RealmCourse.record, RealmStage.phase, Clock.afterSeconds_eq_exactly,
              defaultRetentionSeconds]
          · simp [next, RealmStage.due?, Clock.afterSeconds_eq_exactly, defaultRetentionSeconds]
      | _ => exact h.turns_of_eq hs rfl rfl

theorem registry_setRetention_setPhase (t : Tracker) (rd : Descriptor) (retention : UInt64)
    (phase : Phase) : ((t.setRetention rd retention).setPhase rd phase).registry =
      t.registry.update rd fun x => { x with retention, phase } :=
  Registry.update_update fun _ hx => hx

theorem toNat_retentionSeconds (retention : UInt64) :
    (retentionSeconds retention).toNat = if retention = 0 then 30 else retention.toNat := by
  unfold retentionSeconds
  split_ifs <;> rfl

theorem Consistent.turns_completeRetention (h : t.Consistent) (hs : t.Follows rd s)
    (retention : UInt64) (clock : Clock) :
    t.Turns (t.completeRetention rd retention clock).1 rd
      (advance s (.retentionReported retention clock)) := by
  unfold completeRetention
  rw [hs.phase?]
  cases s with
  | none => exact h.turns_of_eq hs rfl rfl
  | some c =>
      obtain ⟨stage, hint⟩ := c
      cases stage with
      | idle | destructionDue due => exact h.turns_of_eq hs rfl rfl
      | retentionDue due | retentionAsked =>
          simp only [RealmStage.phase, Option.map_some]
          rw [h.schedule_eq hs ((t.setRetention rd retention).setPhase rd _) rfl]
          change t.Turns _ rd (some ⟨.destructionDue (clock.exactly
            (if retention = 0 then 30 else retention.toNat)), retention⟩)
          rw [← toNat_retentionSeconds, ← Clock.afterSeconds_eq_exactly]
          exact h.turns_of_reschedule hs (registry_setRetention_setPhase t rd _ _) rfl
            (fun _ hx => hx) rfl rfl

theorem Consistent.turns_completeDestruction (h : t.Consistent) (hs : t.Follows rd s)
    (status : UInt64) :
    t.Turns (t.completeDestruction rd status).1 rd
      (advance s (.destructionCompleted status)) := by
  unfold completeDestruction
  by_cases hstatus : status = 0
  · cases s with
    | none =>
        have hunknown : t.registry.lookup? rd = none := hs.record
        simp only [hstatus, ne_eq, not_true, if_false]
        exact h.turns_of_eq hs (Registry.update_of_unknown hunknown)
          (Agenda.remove_of_find?_eq_none hs.find?_of_untracked)
    | some c =>
        simp only [hstatus, ne_eq, not_true, if_false, advance, next, Option.map_some, if_true]
        exact h.turns_of_remove hs rfl rfl (fun _ hx => hx) rfl rfl
  · have hsame : advance s (.destructionCompleted status) = s := by
      cases s <;> simp [advance, next, hstatus]
    rw [hsame, if_pos hstatus]
    exact h.turns_of_eq hs rfl rfl

/-! ## The timer -/

/-- A timer that finds nothing due only has to be programmed again. -/
theorem fire_early {clock : Clock} (h : ¬ ∃ d, t.agenda.head? = some d ∧ d.due ≤ clock.now)
    (issue : Bool) : t.fire clock issue = ({ t with timer := .fired }, [.nothingDue], none) := by
  have hnone := Agenda.filter_head?_of_early h
  simp [fire, hnone]

/-- A due head that cannot be served is put off. -/
theorem fire_deferred {clock : Clock} {d : Deadline} (hd : t.agenda.head? = some d)
    (hdue : d.due ≤ clock.now) :
    t.fire clock false =
      ({ t with timer := .fired, notBefore := clock.afterMilliseconds retryMilliseconds },
        [.deadlineDeferred d.rd], none) := by
  have hsome := Agenda.filter_head?_of_due hd hdue
  simp [fire, hsome]

/-- A due head is served when a call can be issued. -/
theorem fire_issuing {clock : Clock} {d : Deadline} (hd : t.agenda.head? = some d)
    (hdue : d.due ≤ clock.now) :
    t.fire clock true = Tracker.serve { t with timer := .fired } d clock.now := by
  have hsome := Agenda.filter_head?_of_due hd hdue
  simp [fire, hsome]

/-- A timer that finds nothing due, or cannot issue a call, leaves every realm alone. -/
theorem fire_none (clock : Clock) (issue : Bool)
    (h : issue = true → (t.agenda.head?.filter fun d => d.due ≤ clock.now) = none) :
    (t.fire clock issue).2.2 = none ∧ (t.fire clock issue).1.registry = t.registry ∧
      (t.fire clock issue).1.agenda = t.agenda := by
  by_cases hhead : ∃ d, t.agenda.head? = some d ∧ d.due ≤ clock.now
  · obtain ⟨d, hd, hdue⟩ := hhead
    cases issue with
    | false =>
        rw [fire_deferred hd hdue]
        exact ⟨rfl, rfl, rfl⟩
    | true =>
        rw [Agenda.filter_head?_of_due hd hdue] at h
        cases h rfl
  · rw [fire_early hhead]
    exact ⟨rfl, rfl, rfl⟩

/-- A timer that finds the head due, and can issue a call, serves the realm of the head. -/
theorem Consistent.fire_some (h : t.Consistent) (clock : Clock) {d : Deadline}
    (hd : t.agenda.head? = some d) (hdue : d.due ≤ clock.now) :
    ∃ c call, t.Follows d.rd (some c) ∧ c.stage.due? = some d.due ∧
      c.stage.call? d.rd = some call ∧ (t.fire clock true).2.2 = some call ∧
      t.Turns (t.fire clock true).1 d.rd (advance (some c) .served) := by
  obtain ⟨c, hc, hstage⟩ := h.waits_of_queued (Agenda.mem_of_head? hd)
  have hpop : (t.agenda.popDue clock.now).1 = t.agenda.remove d.rd := by
    rw [Agenda.popDue_of_head? hd hdue]
  have hphase : Tracker.phase?
      { t with agenda := t.agenda.remove d.rd, timer := .fired, notBefore := 0 } d.rd =
        some c.stage.phase := hc.phase?
  rw [fire_issuing hd hdue]
  unfold serve
  simp only [hpop, hphase]
  obtain ⟨stage, hint⟩ := c
  cases stage with
  | idle | retentionAsked => cases hstage
  | retentionDue due | destructionDue due =>
      exact ⟨_, _, hc, hstage, rfl, rfl, h.turns_of_remove hc rfl rfl (fun _ hx => hx) rfl rfl⟩

/-- What a call answered by the timer says about the realm it is for. -/
theorem Consistent.fire_call (h : t.Consistent) (clock : Clock) (issue : Bool)
    {call : AutomaticCall} (hcall : (t.fire clock issue).2.2 = some call) :
    ∃ c due, t.Follows call.rd (some c) ∧ c.stage.due? = some due ∧ due ≤ clock.now ∧
      c.stage.call? call.rd = some call ∧
      t.Turns (t.fire clock issue).1 call.rd (advance (some c) .served) := by
  by_cases hhead : issue = true ∧ (t.agenda.head?.filter fun d => d.due ≤ clock.now) ≠ none
  · obtain ⟨rfl, hne⟩ := hhead
    obtain ⟨d, hd⟩ := Option.ne_none_iff_exists'.mp hne
    obtain ⟨hd, hdue⟩ := Option.filter_eq_some_iff.mp hd
    have hdue : d.due ≤ clock.now := by simpa using hdue
    obtain ⟨c, call', hc, hstage, hcall', hfire, hturns⟩ := h.fire_some clock hd hdue
    rw [hfire, Option.some.injEq] at hcall
    subst hcall
    rw [RealmStage.rd_of_call? hcall']
    exact ⟨c, d.due, hc, hstage, hdue, hcall', hturns⟩
  · rw [(fire_none clock issue fun hissue => by_contra fun hne => hhead ⟨hissue, hne⟩).1] at hcall
    cases hcall

theorem Consistent.fire_quiet (h : t.Consistent) (clock : Clock) (issue : Bool)
    (hcall : (t.fire clock issue).2.2 = none) :
    (t.fire clock issue).1.registry = t.registry ∧
      (t.fire clock issue).1.agenda = t.agenda := by
  refine (fire_none clock issue ?_).2
  intro hissue
  by_contra hne
  obtain ⟨d, hd⟩ := Option.ne_none_iff_exists'.mp hne
  obtain ⟨hd, hdue⟩ := Option.filter_eq_some_iff.mp hd
  obtain ⟨c, call, -, -, -, hfire, -⟩ := h.fire_some clock hd (by simpa using hdue)
  rw [hissue, hfire] at hcall
  cases hcall

theorem reprogram_registry (t : Tracker) : t.reprogram.1.registry = t.registry := by
  unfold reprogram
  split <;> split_ifs <;> rfl

theorem reprogram_agenda (t : Tracker) : t.reprogram.1.agenda = t.agenda := by
  unfold reprogram
  split <;> split_ifs <;> rfl

/-! ## Histories -/

theorem turns_of_news {e : TrackerEvent} {ev : RealmEvent}
    (hnews : ∀ rd', t.news rd' e = if rd = rd' then some ev else none)
    (hturns : ∀ s, t.Follows rd s → t.Turns (t.handle e).1 rd (advance s ev)) :
    ∃ rd, (∀ s, t.Follows rd s → t.Turns (t.handle e).1 rd ((t.news rd e).elim s (advance s))) ∧
      ∀ rd', rd' ≠ rd → t.news rd' e = none := by
  refine ⟨rd, fun s hs => ?_, fun rd' hne => ?_⟩
  · simpa [hnews] using hturns s hs
  · simp [hnews, Ne.symm hne]

theorem turns_of_no_news {e : TrackerEvent} (h : t.Consistent) (hnews : ∀ rd, t.news rd e = none)
    (hr : (t.handle e).1.registry = t.registry) (ha : (t.handle e).1.agenda = t.agenda) :
    ∃ rd, (∀ s, t.Follows rd s → t.Turns (t.handle e).1 rd ((t.news rd e).elim s (advance s))) ∧
      ∀ rd', rd' ≠ rd → t.news rd' e = none := by
  refine ⟨0, fun s hs => ?_, fun rd' _ => hnews rd'⟩
  rw [hnews]
  exact h.turns_of_eq hs hr ha

/-- The one realm an event turns makes the step of its course; no other realm has
news from the event. -/
theorem Consistent.handle_turns (h : t.Consistent) (e : TrackerEvent) :
    ∃ rd, (∀ s, t.Follows rd s → t.Turns (t.handle e).1 rd ((t.news rd e).elim s (advance s))) ∧
      ∀ rd', rd' ≠ rd → t.news rd' e = none := by
  cases e with
  | creationObserved rd =>
      refine ⟨rd, fun s hs => ?_, fun rd' hne => ?_⟩
      · by_cases hrd : t.registry.Admits rd
        · obtain ⟨hok, hturns⟩ := h.turns_observeCreation hrd
          simpa [handle, hok, advance] using hturns
        · obtain ⟨hok, hturns⟩ := h.turns_refused hrd hs
          simpa [handle, hok] using hturns
      · simp [Ne.symm hne]
  | activationObserved rd clock =>
      exact turns_of_news (fun _ => rfl) fun s hs => h.turns_observeActivation hs clock
  | creationCompleted rd status clock =>
      exact turns_of_news (fun _ => rfl) fun s hs => h.turns_completeCreation hs status clock
  | retentionCompleted rd retention clock =>
      exact turns_of_news (fun _ => rfl) fun s hs => h.turns_completeRetention hs retention clock
  | destructionCompleted rd status =>
      exact turns_of_news (fun _ => rfl) fun s hs => h.turns_completeDestruction hs status
  | timerFired clock issue =>
      cases hcall : (t.fire clock issue).2.2 with
      | none =>
          obtain ⟨hr, ha⟩ := h.fire_quiet clock issue hcall
          exact turns_of_no_news h (fun rd => by simp [hcall]) hr ha
      | some call =>
          obtain ⟨c, due, hc, -, -, -, hturns⟩ := h.fire_call clock issue hcall
          refine ⟨call.rd, fun s hs => ?_, fun rd' hne => ?_⟩
          · rw [hs.unique hc]
            simpa [handle, hcall] using hturns
          · simp [hcall, Ne.symm hne]
  | timerReprogrammed =>
      exact turns_of_no_news h (fun _ => rfl) t.reprogram_registry t.reprogram_agenda

theorem consistent_handle (h : t.Consistent) (e : TrackerEvent) :
    (t.handle e).1.Consistent := by
  obtain ⟨rd, hturns, -⟩ := h.handle_turns e
  obtain ⟨s, hs⟩ := h.follows rd
  exact (hturns s hs).consistent h

theorem Consistent.handle_follows (h : t.Consistent) (hs : t.Follows rd s) (e : TrackerEvent) :
    (t.handle e).1.Follows rd ((t.news rd e).elim s (advance s)) := by
  obtain ⟨rd', hturns, hnews⟩ := h.handle_turns e
  by_cases hrd : rd = rd'
  · subst hrd
    exact (hturns s hs).here
  · obtain ⟨s', hs'⟩ := h.follows rd'
    rw [hnews rd hrd]
    exact (hturns s' hs').follows_other hrd hs

theorem evolve_snoc (t : Tracker) (es : List TrackerEvent) (e : TrackerEvent) :
    t.evolve (es ++ [e]) = ((t.evolve es).handle e).1 := t.evolve_append es [e]

theorem consistent_evolve (h : t.Consistent) (events : List TrackerEvent) :
    (t.evolve events).Consistent := by
  induction events using List.reverseRecOn with
  | nil => exact h
  | append_singleton es e ih =>
      rw [evolve_snoc]
      exact consistent_handle ih e

/-- A tracker follows, at every realm, the course that its history makes of the realm. -/
theorem evolve_follows_course (rd : Descriptor) (events : List TrackerEvent) :
    (({} : Tracker).evolve events).Follows rd (course rd events) := by
  induction events using List.reverseRecOn with
  | nil => exact ⟨rfl, rfl⟩
  | append_singleton es e ih =>
      rw [evolve_snoc, course_snoc]
      exact (consistent_evolve consistent_empty es).handle_follows ih e

end Tracker

end RealmDispatch
