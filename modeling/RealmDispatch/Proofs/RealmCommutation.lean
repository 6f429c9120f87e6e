import RealmDispatch.Proofs.TimerProgramming

/-!
# Events of different realms commute

An event that names a realm reads and changes what is kept for this realm only. The registry
and the agenda are shared by all realms, but the record of a tracked realm stays in its place,
there is always room for its deadline, and no other realm notices either. So two events that
name different tracked realms may come in any order: the records are the same, the pending
deadlines are the same, and the timer is programmed alike.

One trace is left of the order. Deadlines that fall due together are queued in the order in which
they were scheduled, so two realms that tie may have changed places.

Nothing of this holds of realms that are not tracked. They compete for the last record.
-/
namespace RealmDispatch

/-! ## The realm of an event -/

namespace TrackerEvent
variable {e : TrackerEvent} {rd rd' : Descriptor}

/-- The realm the event names. The timer names none. -/
def realm? : TrackerEvent → Option Descriptor
  | creationObserved rd | activationObserved rd _ | creationCompleted rd _ _
  | retentionCompleted rd _ _ | destructionCompleted rd _ => some rd
  | timerFired .. | timerReprogrammed => none

theorem about_of_ne (h : e.realm? = some rd) (hne : rd ≠ rd') : e.about rd' = none := by
  cases e <;> simp_all [realm?, about]

end TrackerEvent

/-! ## Agendas that differ in the order of ties -/

namespace Agenda
variable {a a' : Agenda}

/-- The same deadlines fall due at the same places, so only those that fall due together may
have changed places. -/
structure AgreesButTies (a a' : Agenda) : Prop where
  perm : a.entries.Perm a'.entries
  dues : a.entries.map Deadline.due = a'.entries.map Deadline.due

theorem AgreesButTies.earliest? (h : a.AgreesButTies a') : a.earliest? = a'.earliest? := by
  rw [Agenda.earliest?, Agenda.earliest?, head?, head?, ← List.head?_map, ← List.head?_map, h.dues]

/-- Two orderly agendas that find the same deadline for every realm. -/
theorem Orderly.agreesButTies (h : a.Orderly) (h' : a'.Orderly)
    (hfind : ∀ rd, a.find? rd = a'.find? rd) : a.AgreesButTies a' := by
  have hperm : a.entries.Perm a'.entries := by
    refine (List.perm_ext_iff_of_nodup h.distinct.of_map h'.distinct.of_map).mpr ?_
    intro d
    have hmem : a.find? d.rd = some d ↔ d ∈ a.entries := by simp [h.find?_eq_some_iff]
    have hmem' : a'.find? d.rd = some d ↔ d ∈ a'.entries := by simp [h'.find?_eq_some_iff]
    rw [← hmem, ← hmem', hfind]
  have hsorted {a : Agenda} (h : a.Orderly) : (a.entries.map Deadline.due).Pairwise (· ≤ ·) :=
    List.pairwise_map.mpr h.sorted
  refine ⟨hperm, (hperm.map Deadline.due).eq_of_pairwise ?_ (hsorted h) (hsorted h')⟩
  exact fun _ _ _ _ hle hge => UInt64.le_antisymm hle hge

end Agenda

/-! ## Records in the same places -/

/-- A registry is determined by the order of its descriptors and by what is found for each. -/
theorem Registry.Sound.eq_of_lookup? {r r' : Registry} (h : r.Sound) (h' : r'.Sound)
    (hrds : r.records.map Record.rd = r'.records.map Record.rd)
    (hlookup : ∀ rd, r.lookup? rd = r'.lookup? rd) : r = r' := by
  have hfound {r : Registry} (h : r.Sound) :
      r.records.map some = (r.records.map Record.rd).map r.lookup? := by
    rw [List.map_map]
    exact List.map_congr_left fun x hx => (h.lookup?_of_mem hx).symm
  have hsome : r.records.map some = r'.records.map some := by
    rw [hfound h, hfound h', hrds, funext hlookup]
  have hrecords := List.map_injective_iff.mpr (Option.some_injective Record) hsome
  obtain ⟨records⟩ := r
  exact congrArg Registry.mk hrecords

namespace Tracker
open RealmCourse
variable {t t' : Tracker} {e f g : TrackerEvent} {es fs : List TrackerEvent}
  {a b rd rd' : Descriptor} {s : Option RealmCourse}

/-- The event names a realm that is tracked. -/
def Knows (t : Tracker) (e : TrackerEvent) : Prop :=
  ∃ rd, e.realm? = some rd ∧ (t.registry.lookup? rd).isSome

/-- A schedule is no business of the registry. -/
theorem registry_schedule (t : Tracker) (rd : Descriptor) (due : UInt64) :
    (t.schedule rd due).1.registry = t.registry := by
  unfold schedule
  split <;> rfl

theorem rds_setPhase (t : Tracker) (rd : Descriptor) (phase : Phase) :
    (t.setPhase rd phase).registry.records.map Record.rd = t.registry.records.map Record.rd :=
  Registry.map_rd_update fun _ hx => hx

theorem Consistent.admits_of_known (h : t.Consistent) (hknown : (t.registry.lookup? rd).isSome) :
    t.registry.Admits rd := by
  by_contra hnot
  rw [h.registry.lookup?_of_refused hnot] at hknown
  cases hknown

/-- An event of a tracked realm leaves the descriptors where they are. -/
theorem Consistent.rds_handle (h : t.Consistent) (he : t.Knows e) :
    (t.handle e).1.registry.records.map Record.rd = t.registry.records.map Record.rd := by
  obtain ⟨rd, hrd, hknown⟩ := he
  cases e with
  | creationObserved d =>
      obtain rfl : d = rd := Option.some.inj hrd
      obtain ⟨handle, hregister⟩ :=
        Registry.register_known (h.admits_of_known hknown).1 hknown
      simp only [Tracker.handle, observeCreation, hregister]
      exact Registry.map_rd_update (f := fun _ => { rd := d }) fun _ _ => rfl
  | activationObserved d clock =>
      simp only [handle, observeActivation]
      split
      · rfl
      · rw [registry_schedule, rds_setPhase]
      · rfl
  | creationCompleted d status clock =>
      simp only [handle, completeCreation]
      split
      · rfl
      · split
        · rfl
        · rw [registry_schedule, rds_setPhase]
        · rfl
  | retentionCompleted d retention clock =>
      simp only [handle, completeRetention]
      split
      · rfl
      · rw [registry_schedule, rds_setPhase]
        exact Registry.map_rd_update fun _ hx => hx
      · rfl
  | destructionCompleted d status =>
      simp only [handle, completeDestruction]
      split
      · rfl
      · exact t.rds_setPhase d .idle
  | timerFired clock issue => cases hrd
  | timerReprogrammed => cases hrd

/-- A creation of a tracked realm is never refused, so an event of a tracked realm means to
every realm what it says. -/
theorem Consistent.news_eq_about (h : t.Consistent) (he : t.Knows e) (rd' : Descriptor) :
    t.news rd' e = e.about rd' := by
  obtain ⟨rd, hrd, hknown⟩ := he
  cases e with
  | creationObserved d =>
      obtain rfl : d = rd := Option.some.inj hrd
      have hok := (h.turns_observeCreation (h.admits_of_known hknown)).1
      rw [news_creationObserved, if_pos hok]
      rfl
  | timerFired clock issue => cases hrd
  | timerReprogrammed => cases hrd
  | _ => rfl

theorem Consistent.knows_handle (h : t.Consistent) (he : t.Knows e) (hf : t.Knows f) :
    (t.handle e).1.Knows f := by
  obtain ⟨rd, hrd, hknown⟩ := hf
  have hmem {r : Registry} : (r.lookup? rd).isSome ↔ rd ∈ r.records.map Record.rd := by
    rw [Registry.lookup?_isSome_iff, List.mem_map]
  refine ⟨rd, hrd, ?_⟩
  rw [hmem, h.rds_handle he, ← hmem]
  exact hknown

theorem Knows.timerKept (he : t.Knows e) : t.TimerKept (t.handle e).1 := by
  obtain ⟨rd, hrd, -⟩ := he
  refine timerKept_handle ?_ ?_
  · rintro clock issue rfl
    cases hrd
  · rintro rfl
    cases hrd

/-! ## Histories of tracked realms -/

/-- What a history of tracked realms leaves behind: the descriptors in their places, what is
remembered of the timer, and of each realm what its own events have made of it. -/
structure Separates (t t' : Tracker) (es : List TrackerEvent) : Prop where
  consistent : t'.Consistent
  rds : t'.registry.records.map Record.rd = t.registry.records.map Record.rd
  timer : t.TimerKept t'
  follows : ∀ rd s, t.Follows rd s →
    t'.Follows rd ((es.filterMap (TrackerEvent.about rd)).foldl advance s)

theorem Consistent.separates (h : t.Consistent) (hes : ∀ e ∈ es, t.Knows e) :
    t.Separates (t.evolve es) es := by
  induction es generalizing t with
  | nil => exact ⟨h, rfl, ⟨rfl, rfl⟩, fun _ _ hs => hs⟩
  | cons e es ih =>
      have he : t.Knows e := hes e List.mem_cons_self
      have hrest : ∀ f ∈ es, (t.handle e).1.Knows f := fun f hf =>
        h.knows_handle he (hes f (List.mem_cons_of_mem e hf))
      have hnext := ih (consistent_handle h e) hrest
      refine ⟨hnext.consistent, hnext.rds.trans (h.rds_handle he), ?_, ?_⟩
      · exact ⟨hnext.timer.timer.trans he.timerKept.timer,
          hnext.timer.notBefore.trans he.timerKept.notBefore⟩
      · intro rd s hs
        have hhere := h.handle_follows hs e
        rw [h.news_eq_about he] at hhere
        have hfold : ((e :: es).filterMap (TrackerEvent.about rd)).foldl advance s =
            (es.filterMap (TrackerEvent.about rd)).foldl advance
              ((e.about rd).elim s (advance s)) := by
          rw [List.filterMap_cons]
          cases e.about rd <;> rfl
        rw [hfold]
        exact hnext.follows rd _ hhere

/-- Nothing but ties tells the trackers apart. -/
structure AgreesButTies (t t' : Tracker) : Prop where
  registry : t.registry = t'.registry
  agenda : t.agenda.AgreesButTies t'.agenda
  timer : t.timer = t'.timer
  notBefore : t.notBefore = t'.notBefore

/-- Of two histories of tracked realms only the order matters in which the events of each single
realm come. -/
theorem Consistent.agreesButTies (h : t.Consistent) (hes : ∀ e ∈ es, t.Knows e)
    (hfs : ∀ f ∈ fs, t.Knows f)
    (hsame : ∀ rd, es.filterMap (TrackerEvent.about rd) = fs.filterMap (TrackerEvent.about rd)) :
    (t.evolve es).AgreesButTies (t.evolve fs) := by
  have hleft := h.separates hes
  have hright := h.separates hfs
  have hfollows (rd : Descriptor) :
      ∃ s, (t.evolve es).Follows rd s ∧ (t.evolve fs).Follows rd s := by
    obtain ⟨s, hs⟩ := h.follows rd
    exact ⟨_, hleft.follows rd s hs, hsame rd ▸ hright.follows rd s hs⟩
  constructor
  · refine hleft.consistent.registry.eq_of_lookup? hright.consistent.registry
      (hleft.rds.trans hright.rds.symm) fun rd => ?_
    obtain ⟨s, hs, hs'⟩ := hfollows rd
    rw [hs.record, hs'.record]
  · refine hleft.consistent.agenda.agreesButTies hright.consistent.agenda fun rd => ?_
    obtain ⟨s, hs, hs'⟩ := hfollows rd
    rw [hs.deadline, hs'.deadline]
  · rw [hleft.timer.timer, hright.timer.timer]
  · rw [hleft.timer.notBefore, hright.timer.notBefore]

theorem AgreesButTies.reprogram (h : t.AgreesButTies t') :
    t.reprogram.2 = t'.reprogram.2 ∧ t.reprogram.1.AgreesButTies t'.reprogram.1 := by
  have htarget : t.target? = t'.target? := by
    rw [target?, target?, h.agenda.earliest?, h.notBefore]
  constructor
  · unfold Tracker.reprogram
    rw [h.agenda.earliest?, h.notBefore, h.timer]
    split <;> split_ifs <;> rfl
  · constructor
    · rw [reprogram_registry, reprogram_registry, h.registry]
    · rw [reprogram_agenda, reprogram_agenda]
      exact h.agenda
    · rw [reprogram_timer, reprogram_timer, htarget]
    · rw [reprogram_notBefore, reprogram_notBefore, h.notBefore]

/-- Two events that name different tracked realms may come in any order. The records are the
same and stand in the same places, and the pending deadlines are the same but for the places of
those that fall due together. So the timer is programmed alike. -/
theorem events_of_two_realms_commute (events : List TrackerEvent) (hne : a ≠ b)
    (ha : ((({} : Tracker).evolve events).registry.lookup? a).isSome)
    (hb : ((({} : Tracker).evolve events).registry.lookup? b).isSome)
    (hf : f.realm? = some a) (hg : g.realm? = some b) :
    let t := ({} : Tracker).evolve events
    let fg := t.evolve [f, g]
    let gf := t.evolve [g, f]
    fg.registry.records = gf.registry.records ∧ fg.agenda.AgreesButTies gf.agenda ∧
      fg.reprogram.2 = gf.reprogram.2 ∧ fg.reprogram.1.AgreesButTies gf.reprogram.1 := by
  intro t fg gf
  have ht : t.Consistent := consistent_evolve consistent_empty events
  have hknows : ∀ e ∈ [f, g], t.Knows e := by
    intro e he
    rcases List.mem_pair.mp he with rfl | rfl
    · exact ⟨a, hf, ha⟩
    · exact ⟨b, hg, hb⟩
  have hknows' : ∀ e ∈ [g, f], t.Knows e := fun e he =>
    hknows e (List.mem_pair.mpr (List.mem_pair.mp he).symm)
  have hsame (rd : Descriptor) : [f, g].filterMap (TrackerEvent.about rd) =
      [g, f].filterMap (TrackerEvent.about rd) := by
    -- No realm is named by both events, so of the two at most one means something to it.
    by_cases hrd : a = rd
    · have hsilent : g.about rd = none := TrackerEvent.about_of_ne hg (hrd ▸ hne.symm)
      simp [List.filterMap_cons, hsilent]
    · have hsilent : f.about rd = none := TrackerEvent.about_of_ne hf hrd
      simp [List.filterMap_cons, hsilent]
  have hagree : fg.AgreesButTies gf := ht.agreesButTies hknows hknows' hsame
  exact ⟨congrArg Registry.records hagree.registry, hagree.agenda, hagree.reprogram⟩

/-- Two creations are completed at the same time. The deadlines tie, and the realm that is
completed first is served first. -/
theorem events_of_two_realms_commute_of_tie :
    let t := ({} : Tracker).evolve [.creationObserved 0x1000, .creationObserved 0x2000]
    let f : TrackerEvent := .creationCompleted 0x1000 0 ⟨7, 1⟩
    let g : TrackerEvent := .creationCompleted 0x2000 0 ⟨7, 1⟩
    (t.evolve [f, g]).registry.records = (t.evolve [g, f]).registry.records ∧
      (t.evolve [f, g]).agenda.AgreesButTies (t.evolve [g, f]).agenda ∧
      (t.evolve [f, g]).reprogram.2 = (t.evolve [g, f]).reprogram.2 ∧
      (t.evolve [f, g]).agenda.entries = [⟨9, 0x1000⟩, ⟨9, 0x2000⟩] ∧
      (t.evolve [g, f]).agenda.entries = [⟨9, 0x2000⟩, ⟨9, 0x1000⟩] := by
  intro t f g
  have hcommute := events_of_two_realms_commute (a := 0x1000) (b := 0x2000) (f := f) (g := g)
    [.creationObserved 0x1000, .creationObserved 0x2000] (by decide) (by decide) (by decide)
    rfl rfl
  exact ⟨hcommute.1, hcommute.2.1, hcommute.2.2.1, by decide, by decide⟩

end Tracker

end RealmDispatch
