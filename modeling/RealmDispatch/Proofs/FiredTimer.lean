import RealmDispatch.Proofs.TimerProgramming

/-!
# What comes of a timer that has fired

A timer that fires finds the head of the agenda due or not. A due head is served
when a call can be issued, and put off otherwise; nothing else can happen to it,
because a queued realm waits for exactly the deadline that is queued for it. In
every case the timer has to be programmed again, so the next programming answers
with an update whatever the tracker remembered before.

A deadline that is put off waits for a later tick. The back-off is rounded down to
whole ticks and cut off at the end of the counter, but it is never empty, so a
counter of any frequency has to move on before the timer fires again. Once it does,
the same deadline is served, and nothing of the deferral is left.
-/
namespace RealmDispatch

/-- What a served deadline makes of its realm: the phase it finds the realm in, the
call it issues, and the phase it leaves the realm in. -/
inductive Deadline.Issues (d : Deadline) : Phase → AutomaticCall → Phase → Prop
  | question : d.Issues (.awaitingRetention false) (.askRetention d.rd) (.awaitingRetention true)
  | destruction : d.Issues (.awaitingDestruction d.due) (.destroyData d.rd) .idle

/-- The update that brings a timer to a value, or to rest. -/
def TimerUpdate.toward : Option UInt64 → TimerUpdate
  | none => .disarm
  | some value => .arm value

namespace Clock

theorem toNat_afterMilliseconds (c : Clock) (milliseconds : UInt64) :
    (c.afterMilliseconds milliseconds).toNat =
      min (c.now.toNat +
        max 1 (min (milliseconds.toNat * c.frequency.toNat) Counter.last.toNat / 1000))
        Counter.last.toNat := by
  have hticks : (Counter.mul milliseconds c.frequency / 1000).toNat =
      min (milliseconds.toNat * c.frequency.toNat) Counter.last.toNat / 1000 := by
    rw [UInt64.toNat_div, Counter.toNat_mul]
    rfl
  rw [afterMilliseconds, Counter.toNat_add, Counter.toNat_max, hticks, Nat.max_comm]
  rfl

/-- Waiting takes time, as long as there is any. -/
theorem lt_afterMilliseconds {c : Clock} (h : c.now < Counter.last) (milliseconds : UInt64) :
    c.now < c.afterMilliseconds milliseconds := by
  rw [UInt64.lt_iff_toNat_lt] at *
  rw [toNat_afterMilliseconds]
  omega

end Clock

namespace Tracker
variable {t : Tracker} {d : Deadline} {clock : Clock}

/-! ## Serving the head, and putting it off -/

/-- The tracker that has served the head of its agenda. -/
def served (t : Tracker) (d : Deadline) (phase : Phase) : Tracker :=
  { t.setPhase d.rd phase with
    agenda := ⟨t.agenda.entries.tail⟩, timer := .fired, notBefore := 0 }

/-- Serving a deadline changes the phase of its realm, and no other record. -/
theorem lookup?_served (t : Tracker) (d : Deadline) (phase : Phase) (rd : Descriptor) :
    (t.served d phase).registry.lookup? rd =
      if rd = d.rd then (t.registry.lookup? d.rd).map fun x => { x with phase }
      else t.registry.lookup? rd :=
  Registry.lookup?_update (f := fun x => { x with phase }) fun _ hx => hx

/-- The tracker that has put off what is due at the clock. -/
def deferred (t : Tracker) (clock : Clock) : Tracker :=
  { t with timer := .fired, notBefore := clock.afterMilliseconds retryMilliseconds }

/-- The realm of a due head waits for the timer, so the head becomes a call. -/
theorem Consistent.fire_served (h : t.Consistent) (hd : t.agenda.head? = some d)
    (hdue : d.due ≤ clock.now) :
    ∃ before call after, t.phase? d.rd = some before ∧ d.Issues before call after ∧
      t.fire clock true = (t.served d after, [], some call) := by
  obtain ⟨c, hc, hstage⟩ := h.waits_of_queued (Agenda.mem_of_head? hd)
  have hpop : (t.agenda.popDue clock.now).1 = ⟨t.agenda.entries.tail⟩ := by
    obtain ⟨entries, hentries⟩ : ∃ entries, t.agenda.entries = d :: entries :=
      List.head?_eq_some_iff.mp hd
    simp [Agenda.popDue, hentries, hdue]
  have hphase : t.phase? d.rd = some c.stage.phase := hc.phase?
  have hphase' : Tracker.phase?
      { t with agenda := ⟨t.agenda.entries.tail⟩, timer := .fired, notBefore := 0 } d.rd =
        some c.stage.phase := hphase
  rw [fire_issuing hd hdue]
  unfold serve
  simp only [hpop, hphase']
  obtain ⟨stage, hint⟩ := c
  cases stage with
  | idle | retentionAsked => cases hstage
  | retentionDue due => exact ⟨_, _, _, hphase, .question, rfl⟩
  | destructionDue due =>
      cases hstage
      exact ⟨_, _, _, hphase, .destruction, rfl⟩

/-! ## Programming a timer that has fired -/

theorem reprogram_of_fired (h : t.timer = .fired) :
    t.reprogram = ({ t with timer := .holding t.target? }, some (.toward t.target?)) := by
  unfold reprogram target?
  cases t.agenda.earliest? with
  | none => simp [h, TimerState.holding, TimerUpdate.toward]
  | some due => simp [h, TimerState.holding, TimerUpdate.toward]

theorem target?_of_notBefore (h : t.notBefore = 0) : t.target? = t.agenda.earliest? := by
  have hmax (due : UInt64) : max due 0 = due := by
    rw [← UInt64.toNat_inj, Counter.toNat_max]
    exact Nat.max_zero _
  simp [target?, h, hmax]

/-- After a deadline is served the timer waits for what was queued behind it. -/
theorem reprogram_served (t : Tracker) (d : Deadline) (phase : Phase) :
    (t.served d phase).reprogram.2 =
      some (.toward (t.agenda.entries.tail.head?.map Deadline.due)) := by
  rw [reprogram_of_fired rfl, target?_of_notBefore rfl]
  rfl

/-- After a deadline is put off the timer waits for the end of the deferral. -/
theorem target?_deferred (hd : t.agenda.head? = some d) (hdue : d.due ≤ clock.now)
    (hlast : clock.now < Counter.last) :
    (t.deferred clock).target? = some (clock.afterMilliseconds retryMilliseconds) := by
  have hpoint := Clock.lt_afterMilliseconds hlast retryMilliseconds
  have hmax : max d.due (clock.afterMilliseconds retryMilliseconds) =
      clock.afterMilliseconds retryMilliseconds :=
    if_pos (UInt64.le_trans hdue (UInt64.le_of_lt hpoint))
  have hearliest : t.agenda.earliest? = some d.due := by rw [Agenda.earliest?, hd, Option.map_some]
  simp [target?, deferred, hearliest, hmax]

/-! ## Deferrals -/

/-- A deadline that is due but cannot be served stays as it is, and the timer is armed
for a later tick, at least one and ten milliseconds if there are so many. From then on
the first chance to issue a call serves this deadline, and the timer goes back to
waiting for the deadlines alone. -/
theorem deferred_deadline_retried (events : List TrackerEvent) (clock : Clock) (d : Deadline)
    (hd : (({} : Tracker).evolve events).agenda.head? = some d) (hdue : d.due ≤ clock.now)
    (hlast : clock.now < Counter.last) :
    let t := ({} : Tracker).evolve events
    let fired := t.fire clock false
    let armed := fired.1.reprogram
    fired.2.2 = none ∧ fired.1.registry = t.registry ∧ fired.1.agenda = t.agenda ∧
      ∃ point, armed.2 = some (.arm point) ∧ clock.now < point ∧
        point.toNat = min (clock.now.toNat +
          max 1 (min (10 * clock.frequency.toNat) Counter.last.toNat / 1000))
          Counter.last.toNat ∧
        armed.1.registry = t.registry ∧ armed.1.agenda = t.agenda ∧
        ∀ later : Clock, point ≤ later.now →
          ∃ before call after, t.phase? d.rd = some before ∧ d.Issues before call after ∧
            (armed.1.fire later true).2.2 = some call ∧
            (armed.1.fire later true).1.agenda.entries = t.agenda.entries.tail ∧
            (armed.1.fire later true).1.notBefore = 0 ∧
            (armed.1.fire later true).1.reprogram.2 =
              some (.toward (t.agenda.entries.tail.head?.map Deadline.due)) := by
  intro t fired armed
  have hcons : t.Consistent := consistent_evolve consistent_empty events
  have hfired : fired = (t.deferred clock, [.deadlineDeferred d.rd], none) :=
    fire_deferred hd hdue
  have harmed : armed = ({ t.deferred clock with
      timer := .armed (clock.afterMilliseconds retryMilliseconds) },
      some (.arm (clock.afterMilliseconds retryMilliseconds))) := by
    have hreprogram := reprogram_of_fired (t := t.deferred clock) rfl
    rw [target?_deferred hd hdue hlast] at hreprogram
    change fired.1.reprogram = _
    rw [hfired]
    exact hreprogram
  have hwaiting : armed.1.Consistent :=
    consistent_evolve hcons [.timerFired clock false, .timerReprogrammed]
  have hpoint := Clock.lt_afterMilliseconds hlast retryMilliseconds
  rw [harmed] at hwaiting ⊢
  rw [hfired]
  refine ⟨rfl, rfl, rfl, _, rfl, hpoint, Clock.toNat_afterMilliseconds clock _, rfl, rfl, ?_⟩
  intro later hlater
  have hstill : d.due ≤ later.now :=
    UInt64.le_trans hdue (UInt64.le_trans (UInt64.le_of_lt hpoint) hlater)
  obtain ⟨before, call, after, hphase, hissues, hserved⟩ := hwaiting.fire_served hd hstill
  refine ⟨before, call, after, hphase, hissues, ?_⟩
  rw [hserved]
  exact ⟨rfl, rfl, rfl, reprogram_served _ d after⟩

/-- At two ticks per second ten milliseconds are no tick, so the retry takes a whole one. -/
theorem deferred_deadline_retried_of_slow_counter :
    let events : List TrackerEvent := [.creationObserved 0x1000, .creationCompleted 0x1000 0 ⟨0, 2⟩,
      .creationObserved 0x2000, .creationCompleted 0x2000 0 ⟨3, 2⟩, .timerReprogrammed]
    let t := ({} : Tracker).evolve events
    t.agenda.head? = some ⟨4, 0x1000⟩ ∧ (4 : UInt64) ≤ 5 ∧ (5 : UInt64) < Counter.last ∧
      ∃ point, (t.fire ⟨5, 2⟩ false).1.reprogram.2 = some (.arm point) ∧ point.toNat = 6 ∧
        ∀ later : Clock, point ≤ later.now →
          let retried := (t.fire ⟨5, 2⟩ false).1.reprogram.1.fire later true
          retried.2.2 = some (.askRetention 0x1000) ∧ retried.1.reprogram.2 = some (.arm 7) := by
  intro events t
  have hd : t.agenda.head? = some ⟨4, 0x1000⟩ := by decide
  have hdue : (4 : UInt64) ≤ 5 := by decide
  have hlast : (5 : UInt64) < Counter.last := by decide
  have hphase : t.phase? 0x1000 = some (.awaitingRetention false) := by decide
  obtain ⟨-, -, -, point, hpoint, -, hvalue, -, -, hretried⟩ :=
    deferred_deadline_retried events ⟨5, 2⟩ ⟨4, 0x1000⟩ hd hdue hlast
  refine ⟨hd, hdue, hlast, point, hpoint, hvalue, ?_⟩
  intro later hlater
  obtain ⟨before, call, after, hbefore, hissues, hcall, -, -, hnext⟩ := hretried later hlater
  obtain rfl : before = .awaitingRetention false := Option.some.inj (hbefore.symm.trans hphase)
  cases hissues
  exact ⟨hcall, hnext⟩

end Tracker

end RealmDispatch
