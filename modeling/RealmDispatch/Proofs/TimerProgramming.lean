import RealmDispatch.Proofs.RunHistory

/-!
# One timer for all deadlines

The tracker remembers how it has programmed the timer and only asks for a change
when it wants another one. So two things have to hold between the episodes of a
run. What the tracker remembers is what the timer was last told, which is found in
the requests of the run. And whenever a deadline is pending the timer is armed,
with a value that is no later than the deadline and the end of the last deferral.

The timer does not always wait for the head of the agenda. A creation that is
observed takes a deadline away and leaves the timer as it is, so a later head may
find the timer armed too early, but never too late.
-/
namespace RealmDispatch
open Step

/-! ## What the timer was told -/

/-- The value the timer is armed with after a request. -/
def Request.armed? (armed : Option UInt64) (r : Request) : Option UInt64 :=
  r.update?.elim armed TimerUpdate.armed?

/-- The value the timer is armed with after the requests, if it was never armed before. -/
def armedBy (rs : List Request) : Option UInt64 := rs.foldl Request.armed? none

/-- The armed timer is the one the requests have made of it. -/
def Law.timerRecorded : Law := fun m rs m' => m'.armed = rs.foldl Request.armed? m.armed

theorem Law.timerRecorded_entering (c : Core) : timerRecorded.Entering c where
  nothing _ := rfl
  chained := by
    intro m m' m'' rs rs' hfirst hsecond
    unfold timerRecorded at *
    rw [List.foldl_append, ← hfirst, hsecond]
  request := by
    intro m r hr
    simp [timerRecorded, Request.armed?, Request.update?_of_isOrdinary hr]
  context _ _ _ := rfl
  next _ _ := rfl
  live _ _ := rfl
  bootFailed _ := rfl
  entryPoint _ _ := rfl
  slot _ _ _ := rfl
  enterRealm _ := rfl

theorem Law.timerRecorded_trapping (c : Core) : timerRecorded.Trapping c where
  toBasic := (timerRecorded_entering c).toBasic
  inFlight _ _ := rfl
  tell := by
    intro m e
    unfold timerRecorded Machine.tell
    cases (m.tracker.handle e).2.2.update? with
    | none => rfl
    | some u => simp [Request.armed?]

/-- The timer of a run that begins with a dispatcher never used. -/
theorem armed_after (run : List Episode) :
    (({} : Machine).after run).armed = armedBy (({} : Machine).requested run) :=
  ({} : Machine).obeys_after Law.timerRecorded_entering Law.timerRecorded_trapping run

/-! ## What an episode makes of the timer -/

/-- Boots and synchronous entries have nothing to do with the timer. -/
theorem Law.armed_entering (c : Core) :
    Law.Entering (fun m _ m' => m'.armed = m.armed) c where
  nothing _ := rfl
  chained h h' := h'.trans h
  request _ _ _ := rfl
  context _ _ _ := rfl
  next _ _ := rfl
  live _ _ := rfl
  bootFailed _ := rfl
  entryPoint _ _ := rfl
  slot _ _ _ := rfl
  enterRealm _ := rfl

section
variable (m : Machine) (c : Core) (w source target : World) (values : List UInt64)

@[simp] theorem Machine.armed_written : (m.written c w values).armed = m.armed := rfl

@[simp] theorem Machine.armed_switched : (m.switched c source target).armed = m.armed := rfl

end

theorem Machine.armed_completed (m : Machine) (c : Core) (call : PendingCall)
    (args : Arguments) (clock : Clock) : (m.completed c call args clock).armed =
      (m.told (completionEvents call args.x1 clock)).armed := by
  -- The timer follows the tracker, which knows nothing of calls in flight.
  have htold (events : List TrackerEvent) (m m' : Machine) (ht : m.tracker = m'.tracker)
      (ha : m.armed = m'.armed) : (m.told events).armed = (m'.told events).armed := by
    induction events generalizing m m' with
    | nil => exact ha
    | cons e es ih =>
        apply ih
        · simp [Machine.tell, ht]
        · simp [Machine.tell, ht, ha]
  have hidle := htold (completionEvents call args.x1 clock) (m.setInFlight c none) m rfl rfl
  rw [← hidle]
  obtain ⟨code, cargs, origin⟩ := call
  cases origin <;> simp [completed]

/-- The timer follows what the tracker is told. -/
theorem Episode.armed_next (e : Episode) (m : Machine) :
    (e.next m).armed = (m.told (e.told m)).armed := by
  have heffect := e.effect m
  generalize hnext : e.next m = m' at heffect
  cases heffect with
  | forwards hforwarded hcompleted hcaller => rfl
  | completes hforwarded hcompleted hcaller htold =>
      rw [htold, Machine.armed_completed]
  | goesOn hforwarded hcompleted hcaller => rfl
  | untrapped hforwarded hcompleted hcaller htold hbeside =>
      rw [htold, ← hnext]
      exact e.obeys_of_untrapped (Law.armed_entering e.core) hcaller m

/-! ## Programming the timer -/

/-- What the tracker remembers of a timer that is in line with it. -/
def TimerState.holding : Option UInt64 → TimerState
  | none => .disarmed
  | some value => .armed value

namespace Tracker

/-- The value to arm the timer with, if a deadline is pending. -/
def target? (t : Tracker) : Option UInt64 := t.agenda.earliest?.map fun due => max due t.notBefore

variable (t : Tracker)

theorem reprogram_notBefore : t.reprogram.1.notBefore = t.notBefore := by
  unfold reprogram
  split <;> split_ifs <;> rfl

theorem reprogram_target? : t.reprogram.1.target? = t.target? := by
  rw [target?, target?, reprogram_agenda, reprogram_notBefore]

theorem reprogram_timer : t.reprogram.1.timer = .holding t.target? := by
  unfold reprogram target?
  cases t.agenda.earliest? with
  | none => by_cases htimer : t.timer = .disarmed <;> simp [htimer, TimerState.holding]
  | some due =>
      by_cases htimer : t.timer = .armed (max due t.notBefore) <;>
        simp [htimer, TimerState.holding]

/-- A tracker that remembers nothing wrong brings the timer in line with its deadlines. -/
theorem reprogram_armed {armed : Option UInt64}
    (h : t.timer = .fired ∨ t.timer = .holding armed) :
    t.reprogram.2.elim armed TimerUpdate.armed? = t.target? := by
  have hdisarmed (htimer : t.timer = .disarmed) : armed = none := by
    rw [htimer] at h
    cases armed <;> simp_all [TimerState.holding]
  have harmed (value : UInt64) (htimer : t.timer = .armed value) : armed = some value := by
    rw [htimer] at h
    cases armed <;> simp_all [TimerState.holding]
  unfold reprogram target?
  cases t.agenda.earliest? with
  | none =>
      by_cases htimer : t.timer = .disarmed
      · simp [htimer, hdisarmed htimer]
      · simp [htimer, TimerUpdate.armed?]
  | some due =>
      by_cases htimer : t.timer = .armed (max due t.notBefore)
      · simp [htimer, harmed _ htimer]
      · simp [htimer, TimerUpdate.armed?]

/-- The tracker takes the timer for what it took it for before, and puts nothing off. -/
structure TimerKept (t t' : Tracker) : Prop where
  timer : t'.timer = t.timer
  notBefore : t'.notBefore = t.notBefore

variable {t} {e : TrackerEvent}

theorem timerKept_schedule (t : Tracker) (rd : Descriptor) (due : UInt64) :
    t.TimerKept (t.schedule rd due).1 := by
  unfold schedule
  split
  · exact ⟨rfl, rfl⟩
  · exact ⟨rfl, rfl⟩

/-- Only the timer itself and its programming change what is remembered of it. -/
theorem timerKept_handle (hfired : ∀ clock issue, e ≠ .timerFired clock issue)
    (hprogrammed : e ≠ .timerReprogrammed) : t.TimerKept (t.handle e).1 := by
  have hscheduled {t' : Tracker} (rd : Descriptor) (due : UInt64) (h : t.TimerKept t') :
      t.TimerKept (t'.schedule rd due).1 := by
    have hschedule := timerKept_schedule t' rd due
    exact ⟨hschedule.timer.trans h.timer, hschedule.notBefore.trans h.notBefore⟩
  cases e with
  | creationObserved rd => exact ⟨rfl, rfl⟩
  | activationObserved rd clock =>
      unfold handle observeActivation
      dsimp only
      split
      · exact ⟨rfl, rfl⟩
      · exact hscheduled _ _ ⟨rfl, rfl⟩
      · exact ⟨rfl, rfl⟩
  | creationCompleted rd status clock =>
      unfold handle completeCreation
      dsimp only
      split_ifs
      · exact ⟨rfl, rfl⟩
      · split
        · exact ⟨rfl, rfl⟩
        · exact hscheduled _ _ ⟨rfl, rfl⟩
        · exact ⟨rfl, rfl⟩
  | retentionCompleted rd retention clock =>
      unfold handle completeRetention
      dsimp only
      split
      · exact ⟨rfl, rfl⟩
      · exact hscheduled _ _ ⟨rfl, rfl⟩
      · exact ⟨rfl, rfl⟩
  | destructionCompleted rd status =>
      unfold handle completeDestruction
      dsimp only
      split
      · exact ⟨rfl, rfl⟩
      · exact ⟨rfl, rfl⟩
  | timerFired clock issue => exact absurd rfl (hfired clock issue)
  | timerReprogrammed => exact absurd rfl hprogrammed

/-- A timer that has fired has to be programmed again, whatever came of it. -/
theorem fire_timer (t : Tracker) (clock : Clock) (issue : Bool) :
    (t.fire clock issue).1.timer = .fired := by
  unfold fire serve
  dsimp only
  split
  · rfl
  · split_ifs
    · split <;> rfl
    · rfl

theorem timer_handle (he : e ≠ .timerReprogrammed) :
    (t.handle e).1.timer = .fired ∨ (t.handle e).1.timer = t.timer := by
  by_cases hfired : ∃ clock issue, e = .timerFired clock issue
  · obtain ⟨clock, issue, rfl⟩ := hfired
    exact Or.inl (fire_timer t clock issue)
  · have hother (clock : Clock) (issue : Bool) : e ≠ .timerFired clock issue :=
      fun heq => hfired ⟨clock, issue, heq⟩
    exact Or.inr (timerKept_handle hother he).timer

theorem update?_handle (he : e ≠ .timerReprogrammed) : (t.handle e).2.2.update? = none := by
  cases e with
  | timerReprogrammed => exact absurd rfl he
  | _ => rfl

end Tracker

namespace Machine
variable {m : Machine} {x : TrackerEvent}

/-- The tracker remembers what the timer was told. -/
def Believes (m : Machine) : Prop := m.tracker.timer = .holding m.armed

/-- Whatever the tracker is told before, programming the timer brings it in line. -/
theorem told_reprogrammed (h : m.Believes) (hx : x ≠ .timerReprogrammed) :
    let m' := m.told [x, .timerReprogrammed]
    m'.Believes ∧ m'.armed = m'.tracker.target? := by
  intro m'
  have harmed : (m.tell x).armed = m.armed := by
    unfold tell
    rw [Tracker.update?_handle hx]
    rfl
  have htimer : (m.tell x).tracker.timer = .fired ∨
      (m.tell x).tracker.timer = .holding (m.tell x).armed := by
    rw [harmed, ← show m.tracker.timer = .holding m.armed from h]
    exact Tracker.timer_handle hx
  have htracker : m'.tracker = (m.tell x).tracker.reprogram.1 := rfl
  have htarget : m'.armed = m'.tracker.target? := by
    rw [htracker, Tracker.reprogram_target?]
    exact (m.tell x).tracker.reprogram_armed htimer
  refine ⟨?_, htarget⟩
  unfold Believes
  rw [htarget, htracker, Tracker.reprogram_target?, Tracker.reprogram_timer]

end Machine

/-! ## Deferrals -/

namespace Episode
variable {e : Episode} {m : Machine}

/-- The secure timer is taken on the core, where a call can be issued or not. -/
def Fires (e : Episode) (m : Machine) (issue : Bool) : Prop :=
  ∃ interrupted, e.activity = .operation (.interrupt interrupted) ∧
    e.board.interrupt = timerInterrupt ∧ e.mayIssue m interrupted = issue

/-- The head of the agenda has fallen due. -/
def FindsDue (e : Episode) (m : Machine) : Prop :=
  ∃ d, m.tracker.agenda.head? = some d ∧ d.due ≤ e.board.clock.now

/-- A deadline that has fallen due is put off. -/
def Defers (e : Episode) (m : Machine) : Prop := e.Fires m false ∧ e.FindsDue m

/-- A deadline that has fallen due is served. -/
def Serves (e : Episode) (m : Machine) : Prop := e.Fires m true ∧ e.FindsDue m

theorem told_of_fires {issue : Bool} (h : e.Fires m issue) :
    e.told m = [.timerFired e.board.clock issue, .timerReprogrammed] := by
  obtain ⟨interrupted, hactivity, htimer, hissue⟩ := h
  rw [told, hactivity]
  dsimp only
  rw [if_pos htimer, hissue]

theorem fires_of_mem_told {clock : Clock} {issue : Bool}
    (h : .timerFired clock issue ∈ e.told m) : e.Fires m issue := by
  cases hactivity : e.activity with
  | comeback entry status => simp [told, hactivity] at h
  | software live => simp [told, hactivity] at h
  | operation op =>
      cases op with
      | call args flags =>
          exfalso
          rw [told_call hactivity] at h
          split at h
          · unfold observedEvents at h
            split at h <;> simp at h
          · cases hcompleted : e.completed? m with
            | none => simp [hcompleted] at h
            | some done =>
                rw [hcompleted, Option.elim_some] at h
                unfold completionEvents at h
                split at h <;> simp at h
      | interrupt interrupted =>
          rw [told, hactivity] at h
          dsimp only at h
          rw [List.mem_ite_nil_right] at h
          obtain ⟨htimer, hmem⟩ := h
          have hissue : issue = e.mayIssue m interrupted := by simp_all
          exact ⟨interrupted, hactivity, htimer, hissue.symm⟩
      | _ => simp [told, hactivity] at h

end Episode

namespace Tracker
variable {t : Tracker} {clock : Clock} {issue : Bool}

theorem serve_notBefore (t : Tracker) (d : Deadline) (now : UInt64) :
    (t.serve d now).1.notBefore = 0 := by
  unfold serve
  dsimp only
  split <;> rfl

theorem fire_notBefore_of_early
    (h : ¬ ∃ d, t.agenda.head? = some d ∧ d.due ≤ clock.now) :
    (t.fire clock issue).1.notBefore = t.notBefore := by
  rw [fire_early h]

theorem fire_notBefore_of_due
    (h : ∃ d, t.agenda.head? = some d ∧ d.due ≤ clock.now) :
    (t.fire clock issue).1.notBefore =
      if issue then 0 else clock.afterMilliseconds retryMilliseconds := by
  obtain ⟨d, hd, hdue⟩ := h
  cases issue with
  | false => rw [fire_deferred hd hdue, if_neg Bool.false_ne_true]
  | true => rw [fire_issuing hd hdue, serve_notBefore, if_pos rfl]

/-- Nothing but the timer ends a deferral or begins one. -/
theorem evolve_notBefore {events : List TrackerEvent}
    (h : ∀ clock issue, .timerFired clock issue ∉ events) :
    (t.evolve events).notBefore = t.notBefore := by
  induction events generalizing t with
  | nil => rfl
  | cons x es ih =>
      have hrest : ((t.handle x).1.evolve es).notBefore = (t.handle x).1.notBefore :=
        ih fun clock issue hmem => h clock issue (List.mem_cons_of_mem x hmem)
      have hfirst : (t.handle x).1.notBefore = t.notBefore := by
        by_cases hprogrammed : x = .timerReprogrammed
        · subst hprogrammed
          exact t.reprogram_notBefore
        · have hfired (clock : Clock) (issue : Bool) : x ≠ .timerFired clock issue :=
            fun heq => h clock issue (heq ▸ List.mem_cons_self)
          exact (timerKept_handle hfired hprogrammed).notBefore
      exact hrest.trans hfirst

end Tracker

/-- Until when deadlines are put off after an episode. -/
theorem Episode.notBefore_next (e : Episode) (m : Machine) :
    (e.Defers m ∧ (e.next m).tracker.notBefore =
        e.board.clock.afterMilliseconds retryMilliseconds) ∨
      (e.Serves m ∧ (e.next m).tracker.notBefore = 0) ∨
      (¬ e.Defers m ∧ ¬ e.Serves m ∧ (e.next m).tracker.notBefore = m.tracker.notBefore) := by
  rw [e.tracker_next]
  by_cases hfires : ∃ issue, e.Fires m issue
  · obtain ⟨issue, hissue⟩ := hfires
    have hnotBefore : (m.tracker.evolve (e.told m)).notBefore =
        (m.tracker.fire e.board.clock issue).1.notBefore := by
      rw [told_of_fires hissue]
      exact Tracker.reprogram_notBefore _
    rw [hnotBefore]
    by_cases hdue : e.FindsDue m
    · rw [Tracker.fire_notBefore_of_due hdue]
      cases issue with
      | false => exact Or.inl ⟨⟨hissue, hdue⟩, rfl⟩
      | true => exact Or.inr (Or.inl ⟨⟨hissue, hdue⟩, rfl⟩)
    · rw [Tracker.fire_notBefore_of_early hdue]
      exact Or.inr (Or.inr ⟨fun h => hdue h.2, fun h => hdue h.2, rfl⟩)
  · have hquiet (clock : Clock) (issue : Bool) : .timerFired clock issue ∉ e.told m :=
      fun hmem => hfires ⟨issue, fires_of_mem_told hmem⟩
    rw [Tracker.evolve_notBefore hquiet]
    exact Or.inr (Or.inr ⟨fun h => hfires ⟨_, h.1⟩, fun h => hfires ⟨_, h.1⟩, rfl⟩)

/-- The deadline put off last was put off until `point`, and nothing was served since. -/
def PutOff (point : UInt64) (run : List Episode) : Prop :=
  Since
    (fun before e => e.Defers (({} : Machine).after before) ∧
      e.board.clock.afterMilliseconds retryMilliseconds = point)
    (fun before e => e.Defers (({} : Machine).after before) ∨
      e.Serves (({} : Machine).after before)) run

/-- Deadlines are put off by the deferral that came last, if at all. -/
theorem putOff_after (run : List Episode) :
    (({} : Machine).after run).tracker.notBefore = 0 ∨
      PutOff (({} : Machine).after run).tracker.notBefore run := by
  induction run using List.reverseRecOn with
  | nil => exact Or.inl rfl
  | append_singleton run e ih =>
      rw [Machine.after_snoc]
      rcases e.notBefore_next (({} : Machine).after run) with
        ⟨hdefers, hpoint⟩ | ⟨-, hzero⟩ | ⟨hdefers, hserves, hsame⟩
      · rw [hpoint]
        exact Or.inr (since_snoc.mpr (Or.inl ⟨hdefers, rfl⟩))
      · exact Or.inl hzero
      · rw [hsame]
        refine ih.imp_right fun hsince => ?_
        refine since_snoc.mpr (Or.inr ⟨hsince, ?_⟩)
        rintro (h | h)
        · exact hdefers h
        · exact hserves h

/-! ## Deadlines that are waited for -/

namespace Counter

theorem toNat_max (a b : UInt64) : (max a b).toNat = max a.toNat b.toNat := by
  by_cases h : a ≤ b
  · have hmax : max a b = b := if_pos h
    rw [hmax, Nat.max_eq_right (UInt64.le_iff_toNat_le.mp h)]
  · have hmax : max a b = a := if_neg h
    have hlt : b < a := UInt64.not_le.mp h
    rw [hmax, Nat.max_eq_left (Nat.le_of_lt (UInt64.lt_iff_toNat_lt.mp hlt))]

theorem max_le_max {a b : UInt64} (h : a ≤ b) (c : UInt64) : max a c ≤ max b c := by
  rw [UInt64.le_iff_toNat_le] at *
  rw [toNat_max, toNat_max]
  omega

end Counter

/-- A deadline taken away leaves a later target, or none. -/
theorem Tracker.target?_observeCreation {t : Tracker} (h : t.agenda.Orderly) (rd : Descriptor)
    {target : UInt64} (htarget : (t.observeCreation rd).1.target? = some target) :
    ∃ target', t.target? = some target' ∧ target' ≤ target := by
  have hremoved : (t.observeCreation rd).1.target? =
      (t.agenda.remove rd).earliest?.map fun due => max due t.notBefore := rfl
  rw [hremoved, Option.map_eq_some_iff] at htarget
  obtain ⟨due, hdue, rfl⟩ := htarget
  obtain ⟨due', hearliest, hle⟩ := h.earliest?_remove hdue
  refine ⟨max due' t.notBefore, ?_, Counter.max_le_max hle t.notBefore⟩
  rw [Tracker.target?, hearliest, Option.map_some]

/-- The tracker is right about the timer, and the timer fires in time for every deadline. -/
structure Machine.TimerSet (m : Machine) : Prop where
  believes : m.Believes
  inTime : ∀ target, m.tracker.target? = some target → ∃ v, m.armed = some v ∧ v ≤ target

namespace Machine.TimerSet
variable {m : Machine}

theorem of_eq {m' : Machine} (h : m.TimerSet) (htracker : m'.tracker = m.tracker)
    (harmed : m'.armed = m.armed) : m'.TimerSet where
  believes := by
    unfold Believes
    rw [htracker, harmed]
    exact h.believes
  inTime := by
    rw [htracker, harmed]
    exact h.inTime

theorem told_created (h : m.TimerSet) (ht : m.tracker.agenda.Orderly) (rd : Descriptor) :
    (m.told [.creationObserved rd]).TimerSet where
  believes := h.believes
  inTime := by
    intro target htarget
    obtain ⟨target', htarget', hle⟩ := Tracker.target?_observeCreation ht rd htarget
    obtain ⟨v, hv, hvle⟩ := h.inTime target' htarget'
    exact ⟨v, hv, UInt64.le_trans hvle hle⟩

theorem told_reprogrammed (h : m.TimerSet) {x : TrackerEvent} (hx : x ≠ .timerReprogrammed) :
    (m.told [x, .timerReprogrammed]).TimerSet := by
  obtain ⟨hbelieves, harmed⟩ := Machine.told_reprogrammed h.believes hx
  refine ⟨hbelieves, ?_⟩
  intro target htarget
  exact ⟨target, harmed.trans htarget, UInt64.le_refl target⟩

theorem next (h : m.TimerSet) (ht : m.tracker.Consistent) (e : Episode) :
    (e.next m).TimerSet := by
  have htold : (m.told (e.told m)).TimerSet := by
    rcases e.told_cases m with htold | ⟨rd, -, htold⟩ | ⟨x, hx, htold⟩
    · rw [htold]
      exact h
    · rw [htold]
      exact h.told_created ht.agenda rd
    · rw [htold]
      exact h.told_reprogrammed hx
  refine htold.of_eq ?_ (e.armed_next m)
  rw [e.tracker_next, Machine.tracker_told]

theorem after (run : List Episode) : (({} : Machine).after run).TimerSet := by
  induction run using List.reverseRecOn with
  | nil => exact ⟨rfl, fun _ htarget => nomatch htarget⟩
  | append_singleton run e ih =>
      rw [Machine.after_snoc]
      exact ih.next (consistent_after run) e

end Machine.TimerSet

/-- Between the episodes of a run the tracker knows how the timer was programmed last, and
the timer is armed in time for every pending deadline, unless deadlines were put off. They
are put off until the point that the last deferral has set. -/
theorem timer_armed_in_time (run : List Episode) :
    let t := (({} : Machine).after run).tracker
    let armed := armedBy (({} : Machine).requested run)
    (∀ v, t.timer = .armed v ↔ armed = some v) ∧ (t.timer = .disarmed ↔ armed = none) ∧
      (∀ d ∈ t.agenda.entries, ∃ v, armed = some v ∧ v ≤ max d.due t.notBefore) ∧
      (t.notBefore = 0 ∨ PutOff t.notBefore run) := by
  intro t armed
  have hset : (({} : Machine).after run).TimerSet := Machine.TimerSet.after run
  have harmed : (({} : Machine).after run).armed = armed := armed_after run
  have hbelieves : t.timer = .holding armed := harmed ▸ hset.believes
  refine ⟨?_, ?_, ?_, putOff_after run⟩
  · intro v
    rw [hbelieves]
    cases armed <;> simp [TimerState.holding]
  · rw [hbelieves]
    cases armed <;> simp [TimerState.holding]
  · intro d hd
    obtain ⟨due, hearliest, hle⟩ := (consistent_after run).agenda.earliest?_le hd
    have htarget : t.target? = some (max due t.notBefore) := by
      rw [Tracker.target?, hearliest, Option.map_some]
    obtain ⟨v, hv, hvle⟩ := hset.inTime _ htarget
    exact ⟨v, harmed ▸ hv, UInt64.le_trans hvle (Counter.max_le_max hle t.notBefore)⟩

end RealmDispatch
