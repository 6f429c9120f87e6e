import RealmDispatch.Proofs.CallProvenance
import RealmDispatch.Proofs.FiredTimer

/-!
# The order in which deadlines are served

Deadlines that fall due at different times are queued in that order, and those that
fall due together in the order in which they were scheduled last. An agenda keeps no
record of when its deadlines were scheduled, so this is a statement about histories:
of two realms, the one that was given its last deadline first is queued first.

A timer that fires serves one deadline, however many are due. It is programmed for
the next one at once, so as long as its counter stands still and calls can be issued
it fires again until everything that was due is served: one deadline per round, in
the order of the agenda, and nothing else is touched on the way.
-/
namespace RealmDispatch

namespace Tracker

/-! ## Which deadline was scheduled first -/

/-- Told after the history, the event gives `rd` a deadline. -/
def Schedules (rd : Descriptor) (before : List TrackerEvent) (e : TrackerEvent) : Prop :=
  ∃ call seconds start, (({} : Tracker).evolve before).Provokes e call seconds start ∧ call.rd = rd

/-- Of the deadlines the two realms were given last, the one of `rd` was given first. -/
def ScheduledBefore (rd rd' : Descriptor) (events : List TrackerEvent) : Prop :=
  Since (fun before e => Schedules rd' before e ∧ Happened (Schedules rd) before)
    (fun before e => Schedules rd before e ∨ Schedules rd' before e) events

/-- The deadline comes before the other one: it falls due earlier, or together with it
and was scheduled earlier. -/
def Precedes (events : List TrackerEvent) (d e : Deadline) : Prop :=
  d.due < e.due ∨ d.due = e.due ∧ ScheduledBefore d.rd e.rd events

variable {t : Tracker} {d : Deadline} {clock : Clock} {e : TrackerEvent}

theorem Provokes.rd_unique {call call' : AutomaticCall} {seconds seconds' : Nat}
    {start start' : Clock} (h : t.Provokes e call seconds start)
    (h' : t.Provokes e call' seconds' start') : call.rd = call'.rd := by
  cases h <;> cases h' <;> rfl

/-- There is room for the deadline of a realm that has a record. -/
theorem Consistent.agenda_schedule (h : t.Consistent) {rd : Descriptor} {phase : Phase}
    (hphase : t.phase? rd = some phase) (t' : Tracker) (due : UInt64)
    (ha : t'.agenda = t.agenda) :
    (t'.schedule rd due).1.agenda = (t.agenda.remove rd).place ⟨due, rd⟩ := by
  obtain ⟨s, hs⟩ := h.follows rd
  rw [hs.phase?] at hphase
  obtain ⟨c, rfl, -⟩ := Option.map_eq_some_iff.mp hphase
  rw [h.schedule_eq hs t' ha]

theorem Provokes.agenda_handle {call : AutomaticCall} {seconds : Nat} {start : Clock}
    (h : t.Provokes e call seconds start) (ht : t.Consistent) :
    (t.handle e).1.agenda = (t.agenda.remove call.rd).place ⟨start.exactly seconds, call.rd⟩ := by
  cases h with
  | creation hphase =>
      simp only [handle, completeCreation, hphase, ne_eq, not_true, if_false]
      rw [ht.agenda_schedule hphase, Clock.afterSeconds_eq_exactly] <;> rfl
  | retention hphase =>
      simp only [handle, completeRetention, hphase]
      rw [ht.agenda_schedule hphase, Clock.afterSeconds_eq_exactly,
        toNat_retentionSeconds] <;> rfl
  | activation hphase =>
      simp only [handle, observeActivation, hphase]
      rw [ht.agenda_schedule hphase, Clock.afterSeconds_eq_exactly] <;> rfl

/-- An event that provokes no call takes deadlines away, if it does anything to them. -/
theorem Consistent.agenda_handle_sublist (h : t.Consistent)
    (hnone : ∀ call seconds start, ¬ t.Provokes e call seconds start) :
    (t.handle e).1.agenda.entries.Sublist t.agenda.entries := by
  have hsame : t.agenda.entries.Sublist t.agenda.entries := List.Sublist.refl _
  cases e with
  | creationObserved rd => exact List.eraseP_sublist
  | activationObserved rd clock =>
      simp only [handle, observeActivation]
      split
      · exact hsame
      · exact absurd (.activation ‹_›) (hnone _ _ _)
      · exact hsame
  | creationCompleted rd status clock =>
      simp only [handle, completeCreation]
      split_ifs with hstatus
      · exact hsame
      · obtain rfl : status = 0 := not_not.mp hstatus
        split
        · exact hsame
        · exact absurd (.creation ‹_›) (hnone _ _ _)
        · exact hsame
  | retentionCompleted rd retention clock =>
      simp only [handle, completeRetention]
      split
      · exact hsame
      · exact absurd (.retention ‹_›) (hnone _ _ _)
      · exact hsame
  | destructionCompleted rd status =>
      change (t.completeDestruction rd status).1.agenda.entries.Sublist t.agenda.entries
      unfold completeDestruction
      by_cases hstatus : status ≠ 0
      · rw [if_pos hstatus]
      · rw [if_neg hstatus]
        exact List.eraseP_sublist
  | timerFired clock issue =>
      change (t.fire clock issue).1.agenda.entries.Sublist t.agenda.entries
      by_cases hdue : ∃ d, t.agenda.head? = some d ∧ d.due ≤ clock.now
      · obtain ⟨d, hd, hdue⟩ := hdue
        cases issue with
        | false => rw [fire_deferred hd hdue]
        | true =>
            obtain ⟨before, call, after, -, -, hserved⟩ := h.fire_served hd hdue
            rw [hserved]
            exact List.tail_sublist _
      · rw [fire_early hdue]
  | timerReprogrammed =>
      change t.reprogram.1.agenda.entries.Sublist t.agenda.entries
      rw [t.reprogram_agenda]

/-! ## What is queued, and in which order -/

section
variable {es : List TrackerEvent} {rd rd' : Descriptor}

theorem scheduledBefore_of_schedules (h : Schedules rd' es e) (hrd : Happened (Schedules rd) es) :
    ScheduledBefore rd rd' (es ++ [e]) := since_snoc.mpr (Or.inl ⟨h, hrd⟩)

/-- The order stays as it is until one of the two realms is given another deadline. -/
theorem Precedes.snoc {d d' : Deadline} (h : Precedes es d d') (hd : ¬ Schedules d.rd es e)
    (hd' : ¬ Schedules d'.rd es e) : Precedes (es ++ [e]) d d' := by
  refine h.imp_right fun htie => ⟨htie.1, since_snoc.mpr (Or.inr ⟨htie.2, ?_⟩)⟩
  rintro (hschedules | hschedules)
  · exact hd hschedules
  · exact hd' hschedules

end

/-- All that is queued was scheduled, and comes before what is queued behind it. -/
structure QueuedInOrder (events : List TrackerEvent) : Prop where
  scheduled : ∀ d ∈ (({} : Tracker).evolve events).agenda.entries,
    Happened (Schedules d.rd) events
  ordered : (({} : Tracker).evolve events).agenda.entries.Pairwise (Precedes events)

namespace QueuedInOrder
variable {es : List TrackerEvent}

/-- A new deadline goes behind those it ties with, which were all scheduled before. -/
theorem placed (h : QueuedInOrder es) {call : AutomaticCall} {seconds : Nat} {start : Clock}
    (hprovokes : (({} : Tracker).evolve es).Provokes e call seconds start) :
    QueuedInOrder (es ++ [e]) := by
  have ht : (({} : Tracker).evolve es).Consistent := consistent_evolve consistent_empty es
  have hagenda := hprovokes.agenda_handle ht
  have hschedules : Schedules call.rd es e := ⟨call, seconds, start, hprovokes, rfl⟩
  have hothers {rd : Descriptor} (hrd : rd ≠ call.rd) : ¬ Schedules rd es e := by
    rintro ⟨call', seconds', start', hprovokes', rfl⟩
    exact hrd (hprovokes'.rd_unique hprovokes)
  rw [← evolve_snoc] at hagenda
  constructor
  · intro d hd
    rw [hagenda, Agenda.mem_place, ht.agenda.mem_remove] at hd
    rcases hd with rfl | ⟨hd, -⟩
    · exact happened_snoc.mpr (Or.inr hschedules)
    · exact happened_snoc.mpr (Or.inl (h.scheduled d hd))
  · -- Only the realm that is turned was given a deadline, so the others are ordered as before.
    rw [hagenda]
    have hkept : ((({} : Tracker).evolve es).agenda.remove call.rd).entries.Pairwise
        (Precedes (es ++ [e])) := by
      refine (h.ordered.sublist List.eraseP_sublist).imp_of_mem ?_
      intro d d' hd hd' hprecedes
      exact hprecedes.snoc (hothers (ht.agenda.mem_remove.mp hd).2)
        (hothers (ht.agenda.mem_remove.mp hd').2)
    refine (ht.agenda.remove call.rd).pairwise_place hkept ?_ fun d hd hdue => Or.inl hdue
    intro d hd hdue
    rcases UInt64.lt_or_eq_of_le hdue with hlt | heq
    · exact Or.inl hlt
    · have hscheduled := h.scheduled d (ht.agenda.mem_remove.mp hd).1
      exact Or.inr ⟨heq, scheduledBefore_of_schedules hschedules hscheduled⟩

/-- What is left of the agenda keeps its order. -/
theorem thinned (h : QueuedInOrder es)
    (hnone : ∀ call seconds start,
      ¬ (({} : Tracker).evolve es).Provokes e call seconds start) :
    QueuedInOrder (es ++ [e]) := by
  have ht : (({} : Tracker).evolve es).Consistent := consistent_evolve consistent_empty es
  have hsub := ht.agenda_handle_sublist hnone
  have hothers (rd : Descriptor) : ¬ Schedules rd es e := by
    rintro ⟨call, seconds, start, hprovokes, -⟩
    exact hnone call seconds start hprovokes
  rw [← evolve_snoc] at hsub
  constructor
  · intro d hd
    exact happened_snoc.mpr (Or.inl (h.scheduled d (hsub.subset hd)))
  · refine (h.ordered.sublist hsub).imp ?_
    intro d d' hprecedes
    exact hprecedes.snoc (hothers d.rd) (hothers d'.rd)

end QueuedInOrder

theorem queuedInOrder_evolve (events : List TrackerEvent) : QueuedInOrder events := by
  induction events using List.reverseRecOn with
  | nil => exact ⟨fun _ hd => absurd hd List.not_mem_nil, List.Pairwise.nil⟩
  | append_singleton es e ih =>
      by_cases hprovokes : ∃ call seconds start,
          (({} : Tracker).evolve es).Provokes e call seconds start
      · obtain ⟨call, seconds, start, hprovokes⟩ := hprovokes
        exact ih.placed hprovokes
      · exact ih.thinned fun call seconds start h => hprovokes ⟨call, seconds, start, h⟩

/-! ## Rounds of the timer -/

/-- The timer fires when a call can be issued, and is programmed again. -/
def round (t : Tracker) (clock : Clock) : Tracker := (t.fire clock true).1.reprogram.1

/-- The tracker after `n` rounds at the same clock. -/
def rounds (t : Tracker) (clock : Clock) : Nat → Tracker
  | 0 => t
  | n + 1 => (t.rounds clock n).round clock

/-- The deadlines that have fallen due, in the order of the agenda. -/
def dueAt (t : Tracker) (clock : Clock) : List Deadline :=
  t.agenda.entries.filter fun d => d.due ≤ clock.now

/-- The deadlines that have not, in the same order. -/
def laterThan (t : Tracker) (clock : Clock) : List Deadline :=
  t.agenda.entries.filter fun d => clock.now < d.due

theorem due_of_mem_dueAt (hd : d ∈ t.dueAt clock) : d.due ≤ clock.now := by
  simpa using (List.mem_filter.mp hd).2

theorem lt_of_mem_laterThan (hd : d ∈ t.laterThan clock) : clock.now < d.due := by
  simpa using (List.mem_filter.mp hd).2

/-- What has fallen due stands in front of the rest. -/
theorem Consistent.entries_eq (h : t.Consistent) (clock : Clock) :
    t.agenda.entries = t.dueAt clock ++ t.laterThan clock := by
  have hsorted := h.agenda.sorted
  unfold dueAt laterThan
  revert hsorted
  induction t.agenda.entries with
  | nil => exact fun _ => rfl
  | cons d ds ih =>
      intro hsorted
      rw [List.pairwise_cons] at hsorted
      by_cases hdue : d.due ≤ clock.now
      · have hnot : ¬ clock.now < d.due := UInt64.not_lt.mpr hdue
        simpa [hdue, hnot] using ih hsorted.2
      · -- The counter is behind the first deadline, and so it is behind all the others.
        have hlt : clock.now < d.due := UInt64.not_le.mp hdue
        have hrest (d' : Deadline) (hd' : d' ∈ ds) : clock.now < d'.due :=
          UInt64.lt_of_lt_of_le hlt (hsorted.1 d' hd')
        have hnone : ds.filter (fun d => d.due ≤ clock.now) = [] := by
          rw [List.filter_eq_nil_iff]
          intro d' hd'
          simpa using hrest d' hd'
        have hall : ds.filter (fun d => clock.now < d.due) = ds := by
          rw [List.filter_eq_self]
          simpa using hrest
        simp [hdue, hlt, hnone, hall]

theorem Consistent.round (h : t.Consistent) (clock : Clock) : (t.round clock).Consistent :=
  consistent_evolve h [.timerFired clock true, .timerReprogrammed]

/-- A round with nothing due. -/
theorem round_early (h : ¬ ∃ d, t.agenda.head? = some d ∧ d.due ≤ clock.now) :
    (t.round clock).agenda = t.agenda ∧ (t.round clock).registry = t.registry := by
  unfold Tracker.round
  rw [reprogram_agenda, reprogram_registry, fire_early h]
  exact ⟨rfl, rfl⟩

/-- A round takes the head of the agenda, if it is due, and changes the record of its realm. -/
theorem Consistent.round_due (h : t.Consistent) (hd : t.agenda.head? = some d)
    (hdue : d.due ≤ clock.now) :
    (t.round clock).agenda.entries = t.agenda.entries.tail ∧
      ∀ rd, rd ≠ d.rd → (t.round clock).registry.lookup? rd = t.registry.lookup? rd := by
  obtain ⟨before, call, after, -, -, hserved⟩ := h.fire_served hd hdue
  unfold Tracker.round
  rw [reprogram_agenda, reprogram_registry, hserved]
  refine ⟨rfl, fun rd hrd => ?_⟩
  exact (t.lookup?_served d after rd).trans (if_neg hrd)

/-- After `n` rounds the first `n` of the due deadlines are gone, and no record but those of
their realms has changed. -/
structure Progress (t : Tracker) (clock : Clock) (n : Nat) : Prop where
  consistent : (t.rounds clock n).Consistent
  left : (t.rounds clock n).agenda.entries = (t.dueAt clock).drop n ++ t.laterThan clock
  kept : ∀ rd, (∀ d ∈ (t.dueAt clock).take n, d.rd ≠ rd) →
    (t.rounds clock n).registry.lookup? rd = t.registry.lookup? rd

namespace Progress
variable {n : Nat}

/-- The deadline that is next in turn is the head of the agenda. -/
theorem head?_eq (h : t.Progress clock n) (hd : (t.dueAt clock)[n]? = some d) :
    (t.rounds clock n).agenda.head? = some d := by
  rw [Agenda.head?, h.left, List.head?_append, List.head?_drop, hd, Option.some_or]

theorem tail_eq (h : t.Progress clock n) (hn : n < (t.dueAt clock).length) :
    (t.rounds clock n).agenda.entries.tail =
      (t.dueAt clock).drop (n + 1) ++ t.laterThan clock := by
  rw [h.left, List.drop_eq_getElem_cons hn]
  rfl

/-- When all that was due is served, nothing else is. -/
theorem early_of_le (h : t.Progress clock n) (hn : (t.dueAt clock).length ≤ n) :
    ¬ ∃ d, (t.rounds clock n).agenda.head? = some d ∧ d.due ≤ clock.now := by
  rintro ⟨d, hd, hdue⟩
  rw [Agenda.head?, h.left, List.drop_of_length_le hn, List.nil_append] at hd
  exact UInt64.not_le.mpr (lt_of_mem_laterThan (List.mem_of_head? hd)) hdue

theorem step (h : t.Progress clock n) : t.Progress clock (n + 1) := by
  by_cases hn : n < (t.dueAt clock).length
  · have hget : (t.dueAt clock)[n]? = some (t.dueAt clock)[n] := List.getElem?_eq_getElem hn
    have hdue := due_of_mem_dueAt (List.getElem_mem hn)
    obtain ⟨hagenda, hrecords⟩ := h.consistent.round_due (h.head?_eq hget) hdue
    refine ⟨h.consistent.round clock, hagenda.trans (h.tail_eq hn), ?_⟩
    intro rd hrd
    rw [List.take_add_one, hget, List.forall_mem_append] at hrd
    obtain ⟨hbefore, hlast⟩ := hrd
    have hother : rd ≠ (t.dueAt clock)[n].rd := (hlast _ (List.mem_singleton_self _)).symm
    exact (hrecords rd hother).trans (h.kept rd hbefore)
  · have hn := Nat.not_lt.mp hn
    obtain ⟨hagenda, hrecords⟩ := round_early (h.early_of_le hn)
    refine ⟨h.consistent.round clock, ?_, ?_⟩
    · change ((t.rounds clock n).round clock).agenda.entries = _
      rw [hagenda, h.left, List.drop_of_length_le hn, List.drop_of_length_le (by omega)]
    · intro rd hrd
      rw [List.take_of_length_le (by omega)] at hrd
      change ((t.rounds clock n).round clock).registry.lookup? rd = _
      rw [hrecords]
      exact h.kept rd (by rwa [List.take_of_length_le hn])

theorem of_consistent (h : t.Consistent) (clock : Clock) (n : Nat) : t.Progress clock n := by
  induction n with
  | zero => exact ⟨h, h.entries_eq clock, fun _ _ => rfl⟩
  | succ n ih => exact ih.step

/-- The records of the realms that are still queued are as they were. -/
theorem kept_of_left (h : t.Progress clock n) (ht : t.Consistent)
    (hd : d ∈ (t.dueAt clock).drop n ++ t.laterThan clock) :
    (t.rounds clock n).registry.lookup? d.rd = t.registry.lookup? d.rd := by
  have hentries : t.agenda.entries =
      (t.dueAt clock).take n ++ ((t.dueAt clock).drop n ++ t.laterThan clock) := by
    rw [← List.append_assoc, List.take_append_drop]
    exact ht.entries_eq clock
  exact h.kept d.rd fun d' hd' => ht.agenda.rd_ne_of_append hentries hd' hd

/-- The fire that a due deadline has to wait for. -/
theorem fire_next (h : t.Progress clock n) (ht : t.Consistent)
    (hd : (t.dueAt clock)[n]? = some d) :
    ∃ before call after, t.phase? d.rd = some before ∧ d.Issues before call after ∧
      (t.rounds clock n).fire clock true =
        ((t.rounds clock n).served d after, [], some call) := by
  obtain ⟨hn, hget⟩ := List.getElem?_eq_some_iff.mp hd
  have hdue : d.due ≤ clock.now := due_of_mem_dueAt (hget ▸ List.getElem_mem hn)
  obtain ⟨before, call, after, hphase, hissues, hserved⟩ :=
    h.consistent.fire_served (h.head?_eq hd) hdue
  have hmem : d ∈ (t.dueAt clock).drop n ++ t.laterThan clock := by
    rw [List.drop_eq_getElem_cons hn, hget]
    exact List.mem_cons_self
  have hsame : (t.rounds clock n).phase? d.rd = t.phase? d.rd :=
    congrArg (Option.map Record.phase) (h.kept_of_left ht hmem)
  exact ⟨before, call, after, hsame ▸ hphase, hissues, hserved⟩

end Progress

/-- As long as calls can be issued, a timer whose counter stands still serves what is due,
one deadline per fire and no deadline twice: in the order in which the deadlines fall due,
and in the order in which they were scheduled where they fall due together. After each
call it is armed for the next of them, which is due already, and after the last one for
the first that is not, if any. Nothing else changes, and no other call is issued. -/
theorem due_deadlines_served_in_order (events : List TrackerEvent) (clock : Clock) :
    let t := ({} : Tracker).evolve events
    let due := t.dueAt clock
    let later := t.laterThan clock
    due.Pairwise (Precedes events) ∧
      (∀ n d, due[n]? = some d →
        let fired := (t.rounds clock n).fire clock true
        (∃ before call after, t.phase? d.rd = some before ∧ d.Issues before call after ∧
          fired.2.2 = some call) ∧
        (∀ next, due[n + 1]? = some next →
          fired.1.reprogram.2 = some (.arm next.due) ∧ next.due ≤ clock.now) ∧
        (due.length = n + 1 →
          fired.1.reprogram.2 = some (.toward (later.head?.map Deadline.due)))) ∧
      (∀ n, due.length ≤ n → ((t.rounds clock n).fire clock true).2.2 = none) ∧
      ∀ n, (t.rounds clock n).agenda.entries = due.drop n ++ later ∧
        (∀ d ∈ due.drop n ++ later,
          (t.rounds clock n).registry.lookup? d.rd = t.registry.lookup? d.rd) ∧
        ∀ rd, (∀ d ∈ due.take n, d.rd ≠ rd) →
          (t.rounds clock n).registry.lookup? rd = t.registry.lookup? rd := by
  intro t due later
  have ht : t.Consistent := consistent_evolve consistent_empty events
  have hprogress (n : Nat) : t.Progress clock n := .of_consistent ht clock n
  refine ⟨(queuedInOrder_evolve events).ordered.sublist List.filter_sublist, ?_, ?_, ?_⟩
  · intro n d hd fired
    obtain ⟨before, call, after, hphase, hissues, hserved⟩ := (hprogress n).fire_next ht hd
    obtain ⟨hn, -⟩ := List.getElem?_eq_some_iff.mp hd
    have hupdate : fired.1.reprogram.2 =
        some (.toward ((due.drop (n + 1) ++ later).head?.map Deadline.due)) := by
      have hfired : fired.1 = (t.rounds clock n).served d after := congrArg Prod.fst hserved
      rw [hfired, reprogram_served, (hprogress n).tail_eq hn]
    refine ⟨⟨before, call, after, hphase, hissues, congrArg (·.2.2) hserved⟩, ?_, ?_⟩
    · intro next hnext
      rw [hupdate, List.head?_append, List.head?_drop, hnext]
      exact ⟨rfl, due_of_mem_dueAt (List.mem_of_getElem? hnext)⟩
    · intro hlength
      rw [hupdate, ← hlength, List.drop_length, List.nil_append]
  · intro n hn
    rw [fire_early ((hprogress n).early_of_le hn)]
  · intro n
    exact ⟨(hprogress n).left, fun d hd => (hprogress n).kept_of_left ht hd, (hprogress n).kept⟩

/-- Two realms tie, and the one that was scheduled first does not come first in the registry. -/
theorem due_deadlines_served_in_order_of_tie :
    let events : List TrackerEvent := [.creationObserved 0x1000, .creationObserved 0x2000,
      .creationObserved 0x3000, .creationCompleted 0x2000 0 ⟨0, 2⟩,
      .activationObserved 0x3000 ⟨0, 2⟩, .creationCompleted 0x1000 0 ⟨0, 2⟩]
    let t := ({} : Tracker).evolve events
    t.dueAt ⟨9, 2⟩ = [⟨4, 0x2000⟩, ⟨4, 0x1000⟩] ∧ ScheduledBefore 0x2000 0x1000 events ∧
      (t.fire ⟨9, 2⟩ true).2.2 = some (.askRetention 0x2000) ∧
      (t.fire ⟨9, 2⟩ true).1.reprogram.2 = some (.arm 4) ∧
      ((t.rounds ⟨9, 2⟩ 1).fire ⟨9, 2⟩ true).2.2 = some (.askRetention 0x1000) ∧
      ((t.rounds ⟨9, 2⟩ 1).fire ⟨9, 2⟩ true).1.reprogram.2 = some (.arm 60) ∧
      ∀ n, 2 ≤ n → ((t.rounds ⟨9, 2⟩ n).fire ⟨9, 2⟩ true).2.2 = none := by
  intro events t
  have hdue : t.dueAt ⟨9, 2⟩ = [⟨4, 0x2000⟩, ⟨4, 0x1000⟩] := by decide
  have hlater : t.laterThan ⟨9, 2⟩ = [⟨60, 0x3000⟩] := by decide
  obtain ⟨hordered, hserved, hnone, -⟩ := due_deadlines_served_in_order events ⟨9, 2⟩
  rw [hdue] at hordered hserved hnone
  rw [hlater] at hserved
  have htie : Precedes events ⟨4, 0x2000⟩ ⟨4, 0x1000⟩ := by simpa using hordered
  have hbefore : ScheduledBefore 0x2000 0x1000 events :=
    (htie.resolve_left (UInt64.lt_irrefl 4)).2
  have hphase : t.phase? 0x2000 = some (.awaitingRetention false) := by decide
  have hphase' : t.phase? 0x1000 = some (.awaitingRetention false) := by decide
  obtain ⟨⟨before, call, after, hfound, hissues, hcall⟩, hnext, -⟩ := hserved 0 _ rfl
  obtain ⟨⟨before', call', after', hfound', hissues', hcall'⟩, -, hlast⟩ := hserved 1 _ rfl
  obtain rfl : before = .awaitingRetention false := Option.some.inj (hfound.symm.trans hphase)
  obtain rfl : before' = .awaitingRetention false := Option.some.inj (hfound'.symm.trans hphase')
  cases hissues
  cases hissues'
  exact ⟨hdue, hbefore, hcall, (hnext _ rfl).1, hcall', hlast rfl, hnone⟩

end Tracker

end RealmDispatch
