import RealmDispatch.Proofs.TrackerRefinement

/-!
# Where automatic calls come from

Every call the timer answers with goes back to one event that set its deadline:
the completed creation of an idle realm, the retention a realm was asked for, or
the activation of an idle realm. The deadline is the exact point in time the
event asks for, cut off at the end of the counter, and the timer has reached it.
Since then nothing has taken the deadline back, and nothing was issued for the
realm. The clocks of the events need not agree with each other or with that of
the timer.

The proof carries along, for every realm whose course waits for the timer, the
event its deadline comes from. An event either leaves the course of a realm as it
is, and then it takes nothing back, or it begins the wait anew.
-/
namespace RealmDispatch

/-- An event that takes back the call, if it is waited for. -/
def TrackerEvent.Withdraws (call : AutomaticCall) : TrackerEvent → Prop
  | .creationObserved rd => rd = call.rd
  | .destructionCompleted rd status => rd = call.rd ∧ status = 0
  | .retentionCompleted rd _ _ => call = .askRetention rd
  | .activationObserved .. | .creationCompleted .. | .timerFired .. | .timerReprogrammed => False

namespace Tracker
open RealmCourse

/-- An event that makes the tracker wait with the call, and the time from its clock
until the call is due. -/
inductive Provokes (t : Tracker) : TrackerEvent → AutomaticCall → Nat → Clock → Prop
  | creation {rd : Descriptor} {clock : Clock} : t.phase? rd = some .idle →
      Provokes t (.creationCompleted rd 0 clock) (.askRetention rd) 2 clock
  | retention {rd : Descriptor} {issued : Bool} {retention : UInt64} {clock : Clock} :
      t.phase? rd = some (.awaitingRetention issued) →
      Provokes t (.retentionCompleted rd retention clock) (.destroyData rd)
        (if retention = 0 then 30 else retention.toNat) clock
  | activation {rd : Descriptor} {clock : Clock} : t.phase? rd = some .idle →
      Provokes t (.activationObserved rd clock) (.destroyData rd) 30 clock

/-- Told the event, the tracker answers with a call for `rd`. -/
def Serves (t : Tracker) (rd : Descriptor) (e : TrackerEvent) : Prop :=
  ∃ call, (t.handle e).2.2 = .issued (some call) ∧ call.rd = rd

/-- A history in which nothing takes the call back or is issued for its realm. -/
def Undisturbed (call : AutomaticCall) : Tracker → List TrackerEvent → Prop
  | _, [] => True
  | t, e :: es =>
      ¬ e.Withdraws call ∧ ¬ t.Serves call.rd e ∧ Undisturbed call (t.handle e).1 es

theorem undisturbed_snoc {call : AutomaticCall} {t : Tracker} {es : List TrackerEvent}
    {e : TrackerEvent} (h : Undisturbed call t es) (hw : ¬ e.Withdraws call)
    (hs : ¬ (t.evolve es).Serves call.rd e) : Undisturbed call t (es ++ [e]) := by
  induction es generalizing t with
  | nil => exact ⟨hw, hs, trivial⟩
  | cons x xs ih => exact ⟨h.1, h.2.1, ih h.2.2 hs⟩

/-- The history has an event that provoked the call for `due`, undisturbed since. -/
def Provoked (events : List TrackerEvent) (call : AutomaticCall) (due : UInt64) : Prop :=
  ∃ before e between seconds start, events = before ++ e :: between ∧
    (({} : Tracker).evolve before).Provokes e call seconds start ∧
    due = start.exactly seconds ∧
    Undisturbed call (({} : Tracker).evolve (before ++ [e])) between

variable {es : List TrackerEvent} {e : TrackerEvent} {rd : Descriptor} {call : AutomaticCall}
  {due : UInt64}

theorem Provoked.snoc (h : Provoked es call due) (hw : ¬ e.Withdraws call)
    (hs : ¬ (({} : Tracker).evolve es).Serves call.rd e) : Provoked (es ++ [e]) call due := by
  obtain ⟨before, x, between, seconds, start, rfl, hx, hdue, hbetween⟩ := h
  have hevolve : ({} : Tracker).evolve (before ++ x :: between) =
      (({} : Tracker).evolve (before ++ [x])).evolve between := by
    rw [← evolve_append, List.append_assoc]
    rfl
  rw [hevolve] at hs
  exact ⟨before, x, between ++ [e], seconds, start, by simp, hx, hdue,
    undisturbed_snoc hbetween hw hs⟩

theorem Provokes.provoked {seconds : Nat} {start : Clock}
    (h : (({} : Tracker).evolve es).Provokes e call seconds start) :
    Provoked (es ++ [e]) call (start.exactly seconds) :=
  ⟨es, e, [], seconds, start, rfl, h, rfl, trivial⟩

/-! ## What an event does to a realm that waits -/

theorem news_of_serves {t : Tracker} (h : t.Serves rd e) : t.news rd e = some .served := by
  obtain ⟨call, hreply, hrd⟩ := h
  cases e with
  | timerFired clock issue =>
      have hcall : (t.fire clock issue).2.2 = some call := by simpa [handle] using hreply
      simp [hcall, hrd]
  | _ => cases hreply

/-- A realm that is served waits for the timer no longer. -/
theorem due?_of_served {c c' : RealmCourse} (h : advance (some c) .served = some c') :
    c'.stage.due? = none := by
  obtain ⟨stage, hint⟩ := c
  cases stage <;> cases h <;> rfl

/-- An event that withdraws the call is news to the realm, and leaves it waiting
with another call at most. A creation of a tracked realm is never refused. -/
theorem Consistent.news_of_withdraws {t : Tracker} (h : t.Consistent) {c : RealmCourse}
    (hc : t.Follows call.rd (some c)) (hw : e.Withdraws call) :
    ∃ ev, t.news call.rd e = some ev ∧
      ∀ c', advance (some c) ev = some c' → c'.stage.call? call.rd ≠ some call := by
  obtain ⟨stage, hint⟩ := c
  cases e with
  | creationObserved rd =>
      obtain rfl : rd = call.rd := hw
      have hknown : t.registry.lookup? call.rd = some _ := hc.record
      have hadmits : t.registry.Admits call.rd :=
        ⟨h.registry.nonzero _ (Registry.mem_of_lookup? hknown), Or.inl (by simp [hknown])⟩
      have hok := (h.turns_observeCreation hadmits).1
      refine ⟨.created, by simp [hok], ?_⟩
      intro c' hc'
      cases hc'
      exact fun hcall => nomatch hcall
  | destructionCompleted rd status =>
      obtain ⟨rfl, rfl⟩ : rd = call.rd ∧ status = 0 := hw
      refine ⟨.destructionCompleted 0, by simp, ?_⟩
      intro c' hc'
      cases hc'
      exact fun hcall => nomatch hcall
  | retentionCompleted rd retention clock =>
      obtain rfl : call = .askRetention rd := hw
      refine ⟨.retentionReported retention clock, by simp [AutomaticCall.rd], ?_⟩
      intro c' hc'
      cases stage <;> cases hc' <;> exact fun hcall => nomatch hcall
  | _ => exact hw.elim

/-- The event of the tracker that says this about `rd`. The timer names no realm. -/
def source? (rd : Descriptor) : RealmEvent → Option TrackerEvent
  | .created => some (.creationObserved rd)
  | .creationCompleted status clock => some (.creationCompleted rd status clock)
  | .activated clock => some (.activationObserved rd clock)
  | .retentionReported retention clock => some (.retentionCompleted rd retention clock)
  | .destructionCompleted status => some (.destructionCompleted rd status)
  | .served => none

theorem source?_of_news {t : Tracker} {ev : RealmEvent} (h : t.news rd e = some ev)
    (hserved : ev ≠ .served) : source? rd ev = some e := by
  have habout : e.about rd = some ev := (Option.ite_none_right_eq_some.mp h).2
  cases e with
  | timerFired clock issue =>
      cases habout
      exact absurd rfl hserved
  | timerReprogrammed => cases habout
  | _ =>
      simp only [TrackerEvent.about, Option.ite_none_right_eq_some, Option.some.injEq] at habout
      obtain ⟨rfl, rfl⟩ := habout
      rfl

/-- The ways in which a course can begin to wait for the timer. -/
theorem advance_waits {s : Option RealmCourse} {ev : RealmEvent} {c' : RealmCourse}
    (h : advance s ev = some c') (hne : advance s ev ≠ s) (hdue : c'.stage.due? = some due) :
    ∃ c, s = some c ∧
      ((∃ clock, ev = .creationCompleted 0 clock ∧ c.stage = .idle ∧
          c'.stage = .retentionDue (clock.exactly 2)) ∨
        (∃ clock, ev = .activated clock ∧ c.stage = .idle ∧
          c'.stage = .destructionDue (clock.exactly 30)) ∨
        ∃ retention clock issued, ev = .retentionReported retention clock ∧
          c.stage.phase = .awaitingRetention issued ∧
          c'.stage = .destructionDue
            (clock.exactly (if retention = 0 then 30 else retention.toNat))) := by
  cases s with
  | none =>
      cases ev with
      | created =>
          cases h
          cases hdue
      | _ => cases h
  | some c =>
      refine ⟨c, rfl, ?_⟩
      obtain ⟨stage, hint⟩ := c
      cases ev with
      | created =>
          cases h
          cases hdue
      | creationCompleted status clock =>
          cases stage with
          | idle =>
              by_cases hstatus : status = 0
              · subst hstatus
                cases h
                exact Or.inl ⟨clock, rfl, rfl, rfl⟩
              · exact absurd (by simp [advance, next, hstatus]) hne
          | _ => exact absurd rfl hne
      | activated clock =>
          cases stage with
          | idle =>
              cases h
              exact Or.inr (Or.inl ⟨clock, rfl, rfl, rfl⟩)
          | _ => exact absurd rfl hne
      | retentionReported retention clock =>
          cases stage with
          | retentionDue _ | retentionAsked =>
              cases h
              exact Or.inr (Or.inr ⟨retention, clock, _, rfl, rfl, rfl⟩)
          | _ => exact absurd rfl hne
      | destructionCompleted status =>
          by_cases hstatus : status = 0
          · subst hstatus
            cases h
            cases hdue
          · exact absurd (by simp [advance, next, hstatus]) hne
      | served =>
          rw [due?_of_served h] at hdue
          cases hdue

/-- An event that makes a realm wait provokes the call the realm then waits with. -/
theorem Follows.provokes {t : Tracker} {s : Option RealmCourse} {ev : RealmEvent}
    {c' : RealmCourse} (h : t.Follows call.rd s) (hnews : t.news call.rd e = some ev)
    (hc' : advance s ev = some c') (hne : advance s ev ≠ s) (hdue : c'.stage.due? = some due)
    (hcall : c'.stage.call? call.rd = some call) :
    ∃ seconds start, t.Provokes e call seconds start ∧ due = start.exactly seconds := by
  obtain ⟨c, rfl, hbegin⟩ := advance_waits hc' hne hdue
  have hphase : t.phase? call.rd = some c.stage.phase := h.phase?
  rcases hbegin with ⟨clock, rfl, hidle, hstage⟩ | ⟨clock, rfl, hidle, hstage⟩ |
    ⟨retention, clock, issued, rfl, hasked, hstage⟩
  · cases source?_of_news hnews (by simp)
    rw [hidle] at hphase
    rw [hstage] at hdue hcall
    have hprovokes : Provokes t (.creationCompleted call.rd 0 clock)
        (.askRetention call.rd) 2 clock := .creation hphase
    rw [Option.some.inj hcall] at hprovokes
    exact ⟨2, clock, hprovokes, (Option.some.inj hdue).symm⟩
  · cases source?_of_news hnews (by simp)
    rw [hidle] at hphase
    rw [hstage] at hdue hcall
    have hprovokes : Provokes t (.activationObserved call.rd clock)
        (.destroyData call.rd) 30 clock := .activation hphase
    rw [Option.some.inj hcall] at hprovokes
    exact ⟨30, clock, hprovokes, (Option.some.inj hdue).symm⟩
  · cases source?_of_news hnews (by simp)
    rw [hasked] at hphase
    rw [hstage] at hdue hcall
    have hprovokes : Provokes t (.retentionCompleted call.rd retention clock)
        (.destroyData call.rd) _ clock := .retention hphase
    rw [Option.some.inj hcall] at hprovokes
    exact ⟨_, clock, hprovokes, (Option.some.inj hdue).symm⟩

/-! ## Every history -/

/-- Whatever a course waits for goes back to an event of the history. -/
theorem provoked_of_waits (es : List TrackerEvent) : ∀ c due call, course call.rd es = some c →
    c.stage.due? = some due → c.stage.call? call.rd = some call → Provoked es call due := by
  induction es using List.reverseRecOn with
  | nil =>
      intro c due call hc
      cases hc
  | append_singleton es e ih =>
      intro c' due call hc' hdue hcall
      have hcons : (({} : Tracker).evolve es).Consistent := consistent_evolve consistent_empty es
      have hfollows := evolve_follows_course call.rd es
      rw [course_snoc] at hc'
      generalize hs : course call.rd es = s at hc' hfollows
      by_cases hsame : ((({} : Tracker).evolve es).news call.rd e).elim s (advance s) = s
      · -- A course that stays as it is waits on: the event took nothing back.
        obtain rfl : s = some c' := hsame.symm.trans hc'
        refine (ih c' due call hs hdue hcall).snoc ?_ ?_
        · intro hw
          obtain ⟨ev, hnews, hne⟩ := hcons.news_of_withdraws hfollows hw
          rw [hnews] at hsame
          exact hne c' hsame hcall
        · intro hserves
          rw [news_of_serves hserves] at hsame
          rw [due?_of_served hsame] at hdue
          cases hdue
      · cases hnews : (({} : Tracker).evolve es).news call.rd e with
        | none =>
            rw [hnews] at hsame
            exact absurd rfl hsame
        | some ev =>
            rw [hnews] at hsame hc'
            obtain ⟨seconds, start, hprovokes, rfl⟩ :=
              hfollows.provokes hnews hc' hsame hdue hcall
            exact hprovokes.provoked

/-- A call the timer answers with is never early, never unprovoked and never
repeated: it is for a realm with a descriptor, an earlier event set the deadline
it is due at, the timer has reached that deadline, and nothing that happened in
between withdrew the call or served the realm. -/
theorem issued_call_provoked (events : List TrackerEvent) (clock : Clock) (issue : Bool)
    (call : AutomaticCall)
    (hcall : ((({} : Tracker).evolve events).fire clock issue).2.2 = some call) :
    call.rd ≠ 0 ∧
      ∃ before e between seconds start, events = before ++ e :: between ∧
        (({} : Tracker).evolve before).Provokes e call seconds start ∧
        min (start.now.toNat + seconds * start.frequency.toNat) Counter.last.toNat ≤
          clock.now.toNat ∧
        Undisturbed call (({} : Tracker).evolve (before ++ [e])) between := by
  have h : (({} : Tracker).evolve events).Consistent := consistent_evolve consistent_empty events
  obtain ⟨c, due, hc, hdue, hnow, hstage, -⟩ := h.fire_call clock issue hcall
  constructor
  · exact h.registry.nonzero _ (Registry.mem_of_lookup? hc.record)
  · have hcourse : course call.rd events = some c :=
      (evolve_follows_course call.rd events).unique hc
    obtain ⟨before, e, between, seconds, start, hevents, hprovokes, rfl, hbetween⟩ :=
      provoked_of_waits events c due call hcourse hdue hstage
    refine ⟨before, e, between, seconds, start, hevents, hprovokes, ?_, hbetween⟩
    rw [← Counter.toNat_clamp]
    exact UInt64.le_iff_toNat_le.mp hnow

/-- A realm asked for its retention answers nine seconds, and its data is
destroyed at the first tick that is late enough. -/
theorem issued_call_provoked_of_retention :
    let events := [.creationObserved 0x1000, .creationCompleted 0x1000 0 ⟨0, 2⟩,
      .timerFired ⟨4, 2⟩ true, .retentionCompleted 0x1000 9 ⟨5, 2⟩, .timerReprogrammed]
    ((({} : Tracker).evolve events).fire ⟨23, 2⟩ true).2.2 = some (.destroyData 0x1000) ∧
      ∃ before e between seconds start, events = before ++ e :: between ∧
        (({} : Tracker).evolve before).Provokes e (.destroyData 0x1000) seconds start ∧
        min (start.now.toNat + seconds * start.frequency.toNat) Counter.last.toNat ≤ 23 ∧
        Undisturbed (.destroyData 0x1000) (({} : Tracker).evolve (before ++ [e])) between := by
  have hcall : ((({} : Tracker).evolve [.creationObserved 0x1000,
      .creationCompleted 0x1000 0 ⟨0, 2⟩, .timerFired ⟨4, 2⟩ true,
      .retentionCompleted 0x1000 9 ⟨5, 2⟩, .timerReprogrammed]).fire ⟨23, 2⟩ true).2.2 =
        some (.destroyData 0x1000) := by decide
  exact ⟨hcall, (issued_call_provoked _ ⟨23, 2⟩ true _ hcall).2⟩

end Tracker

end RealmDispatch
