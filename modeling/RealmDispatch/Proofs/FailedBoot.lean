import RealmDispatch.Proofs.RunHistory
import RealmDispatch.Proofs.TimerIssues
import RealmDispatch.Proofs.WorldRoundTrip

/-!
# After a boot that failed

A boot that fails on any core, at any time, is remembered for good. From then on
both blocks of function identifiers are closed: nothing the host asks for reaches
the realm manager, and nothing the realm manager asks for is answered. In particular
a call that is in flight is never completed.

The interrupt of the timer is not closed. It does not ask whether the boot has
failed, and hands on a call for the deadline that has fallen due as it did before.
It can do so once on each core, since the call stays in flight there.
-/
namespace RealmDispatch
open Step

/-! ## Failures are kept -/

/-- No change a step can make undoes the failure of a boot. -/
theorem Law.bootFailed_entering (c : Core) :
    Law.Entering (fun m _ m' => m.bootFailed = true → m'.bootFailed = true) c where
  nothing _ h := h
  chained hfirst hsecond h := hsecond (hfirst h)
  request _ _ _ h := h
  context _ _ _ h := h
  next _ _ h := h
  live _ _ h := h
  bootFailed _ _ := rfl
  entryPoint _ _ h := h
  slot _ _ _ h := h
  enterRealm _ h := h

theorem Law.bootFailed_trapping (c : Core) :
    Law.Trapping (fun m _ m' => m.bootFailed = true → m'.bootFailed = true) c where
  toBasic := (bootFailed_entering c).toBasic
  inFlight _ _ h := h
  tell _ _ h := h

theorem Machine.bootFailed_after {m : Machine} (h : m.bootFailed = true) (run : List Episode) :
    (m.after run).bootFailed = true :=
  m.obeys_after Law.bootFailed_entering Law.bootFailed_trapping run h

/-! ## Calls -/

section
variable {m : Machine} {args : Arguments} {flags : CallFlags}

theorem not_forwards_of_failed (h : m.bootFailed = true) : ¬ Forwards m args flags := by
  intro hforwards
  exact Bool.false_ne_true (hforwards.1.symm.trans h)

theorem not_completes_of_failed (h : m.bootFailed = true) : ¬ Completes m args flags := by
  intro hcompletes
  exact Bool.false_ne_true (hcompletes.1.symm.trans h)

end

/-! ## Calls in flight -/

/-- Boots and synchronous entries leave the calls in flight alone. -/
theorem Law.inFlight_entering (c : Core) :
    Law.Entering (fun m _ m' => ∀ d, (m'.cpu d).inFlight = (m.cpu d).inFlight) c := by
  have hset (m : Machine) (cpu : Cpu) (hcpu : cpu.inFlight = (m.cpu c).inFlight) (d : Core) :
      ((m.setCpu c cpu).cpu d).inFlight = (m.cpu d).inFlight := by
    rw [Machine.cpu_setCpu]
    by_cases hd : d = c
    · rw [if_pos hd, hd, hcpu]
    · rw [if_neg hd]
  exact
    { nothing := fun _ _ => rfl
      chained := fun hfirst hsecond d => (hsecond d).trans (hfirst d)
      request := fun _ _ _ _ => rfl
      context := fun m _ _ => hset m _ rfl
      next := fun m _ => hset m _ rfl
      live := fun _ _ _ => rfl
      bootFailed := fun _ _ => rfl
      entryPoint := fun _ _ _ => rfl
      slot := fun _ _ _ _ => rfl
      enterRealm := fun _ _ => rfl }

section
variable {e : Episode} {m : Machine} {call : PendingCall}

/-- A call that is forwarded takes the place of the one in flight on its core, a completion
that is accepted empties it, and nothing else touches it. -/
theorem Episode.inFlight_next (e : Episode) (m : Machine) (c : Core) :
    (∃ call, (e.core = c ∧ e.forwarded? m = some call) ∧
        ((e.next m).cpu c).inFlight = some call) ∨
      (¬ (e.core = c ∧ (e.forwarded? m).isSome) ∧ (e.core = c ∧ (e.completed? m).isSome) ∧
        ((e.next m).cpu c).inFlight = none) ∨
      (¬ (e.core = c ∧ (e.forwarded? m).isSome) ∧ ¬ (e.core = c ∧ (e.completed? m).isSome) ∧
        ((e.next m).cpu c).inFlight = (m.cpu c).inFlight) := by
  have heffect := e.effect m
  generalize hnext : e.next m = m' at heffect
  cases heffect with
  | @forwards call values hforwarded hcompleted hcaller =>
      rw [Machine.inFlight_forwarded, Machine.cpu_told]
      by_cases hc : e.core = c
      · exact Or.inl ⟨call, ⟨hc, hforwarded⟩, if_pos hc.symm⟩
      · exact Or.inr (Or.inr ⟨fun h => hc h.1, fun h => hc h.1, if_neg (Ne.symm hc)⟩)
  | completes hforwarded hcompleted hcaller htold =>
      rw [Machine.inFlight_completed, hforwarded, hcompleted]
      by_cases hc : e.core = c
      · exact Or.inr (Or.inl ⟨by simp, ⟨hc, rfl⟩, if_pos hc.symm⟩)
      · exact Or.inr (Or.inr ⟨fun h => hc h.1, fun h => hc h.1, if_neg (Ne.symm hc)⟩)
  | goesOn hforwarded hcompleted hcaller =>
      rw [Machine.inFlight_written, Machine.cpu_told, hforwarded, hcompleted]
      exact Or.inr (Or.inr ⟨by simp, by simp, rfl⟩)
  | untrapped hforwarded hcompleted hcaller htold hbeside =>
      have hsame := e.obeys_of_untrapped (Law.inFlight_entering e.core) hcaller m
      rw [← hnext, hsame c, hforwarded, hcompleted]
      exact Or.inr (Or.inr ⟨by simp, by simp, rfl⟩)

/-- The timer hands a call on only where none is in flight. -/
theorem Episode.idle_of_issued {issued : AutomaticCall} (h : e.issued? m = some issued) :
    (m.cpu e.core).inFlight = none := by
  unfold issued? at h
  split at h
  · rename_i interrupted hactivity
    rw [Option.ite_none_right_eq_some] at h
    have hmay : e.mayIssue m interrupted = true := Tracker.issue_of_fire h.2
    rw [mayIssue, Bool.and_eq_true, Option.isNone_iff_eq_none] at hmay
    exact hmay.2
  · cases h

/-- After a failure only the timer hands calls on. -/
theorem Episode.idle_of_forwarded (h : m.bootFailed = true)
    (hforwarded : e.forwarded? m = some call) : (m.cpu e.core).inFlight = none := by
  unfold forwarded? at hforwarded
  split at hforwarded
  · rw [if_neg (not_forwards_of_failed h)] at hforwarded
    cases hforwarded
  · obtain ⟨issued, hissued, -⟩ := Option.map_eq_some_iff.mp hforwarded
    exact idle_of_issued hissued

theorem Episode.completed?_of_failed (h : m.bootFailed = true) : e.completed? m = none := by
  unfold completed?
  split
  · rw [if_neg (not_completes_of_failed h)]
  · rfl

/-- A call that is in flight is never completed. -/
theorem Episode.inFlight_next_of_failed (h : m.bootFailed = true) {d : Core}
    (hcall : (m.cpu d).inFlight = some call) : ((e.next m).cpu d).inFlight = some call := by
  rcases e.inFlight_next m d with
    ⟨call', ⟨hd, hforwarded⟩, -⟩ | ⟨-, ⟨-, hcompleted⟩, -⟩ | ⟨-, -, hsame⟩
  · have hidle := idle_of_forwarded h hforwarded
    rw [hd, hcall] at hidle
    cases hidle
  · rw [completed?_of_failed h] at hcompleted
    cases hcompleted
  · rw [hsame, hcall]

theorem Machine.inFlight_after_of_failed (h : m.bootFailed = true) {d : Core}
    (hcall : (m.cpu d).inFlight = some call) (run : List Episode) :
    ((m.after run).cpu d).inFlight = some call := by
  induction run generalizing m with
  | nil => exact hcall
  | cons e run ih =>
      have hfailed : (e.next m).bootFailed = true := Machine.bootFailed_after h [e]
      exact ih hfailed (Episode.inFlight_next_of_failed h hcall)

end

/-! ## The timer -/

/-- The timer finds a deadline that has fallen due, on a core that runs the host and has
no call in flight. -/
structure Machine.FindsCall (m : Machine) (c : Core) (b : Board) (interrupted : World) : Prop where
  timer : b.interrupt = timerInterrupt
  host : interrupted = .nonSecure
  idle : (m.cpu c).inFlight = none
  due : ∃ d ∈ m.tracker.agenda.entries, d.due ≤ b.clock.now

section
variable {m : Machine} {c : Core} {b : Board} {interrupted : World}

/-- If anything has fallen due, the head of the agenda has. -/
theorem Machine.findsCall_iff (ht : m.tracker.Consistent) :
    m.FindsCall c b interrupted ↔ ∃ d, m.FindsHead c b interrupted d := by
  constructor
  · intro h
    obtain ⟨d, hd, hdue⟩ := h.due
    obtain ⟨due, hearliest, hle⟩ := ht.agenda.earliest?_le hd
    obtain ⟨head, hhead, rfl⟩ := Option.map_eq_some_iff.mp hearliest
    exact ⟨head, h.timer, h.host, h.idle, hhead, UInt64.le_trans hle hdue⟩
  · rintro ⟨d, h⟩
    exact ⟨h.timer, h.host, h.idle, d, Agenda.mem_of_head? h.head, h.due⟩

theorem handleInterrupt_quiet (ht : m.tracker.Consistent) (hc : b.core = c.val)
    (h : ¬ m.FindsCall c b interrupted) :
    (handleInterrupt interrupted b m).result = .ok (.eret interrupted) ∧
      ∀ d, (handleInterrupt interrupted b m).machine.cpu d = m.cpu d := by
  rw [Machine.findsCall_iff ht] at h
  have hback := wentBack_of_not_found hc h
  refine ⟨hback.result, fun d => ?_⟩
  rw [hback.machine]
  rfl

theorem handleInterrupt_forwards (ht : m.tracker.Consistent) (hc : b.core = c.val)
    (h : m.FindsCall c b interrupted) :
    (handleInterrupt interrupted b m).result = .ok (.eret .realm) ∧
      ∃ call, ((handleInterrupt interrupted b m).machine.cpu c).inFlight = some call ∧
        call.origin = .timer := by
  obtain ⟨d, hfound⟩ := (Machine.findsCall_iff ht).mp h
  have hissued := issued_of_found ht hc hfound
  obtain ⟨command, after, -, -, -, hcall⟩ := hissued.call
  exact ⟨hissued.result, _, hcall, rfl⟩

end

/-- After a boot has failed, whatever happens later, the timer interrupt gives the core back
to the world it was taken from and changes nothing that is kept for a core, unless it finds
a call to hand on. The call goes to the realm manager then, and stays in flight for good,
like all calls that were in flight when the boot failed. -/
theorem interrupt_after_failed_boot (run later : List Episode) {b : Board} {c : Core}
    (interrupted : World) (hfailed : (({} : Machine).after run).bootFailed = true)
    (hc : b.core = c.val) :
    let m := ({} : Machine).after (run ++ later)
    let outcome := handleInterrupt interrupted b m
    m.bootFailed = true ∧
      ((outcome.result = .ok (.eret interrupted) ∧ ∀ d, outcome.machine.cpu d = m.cpu d) ↔
        ¬ m.FindsCall c b interrupted) ∧
      (m.FindsCall c b interrupted → outcome.result = .ok (.eret .realm) ∧
        ∃ call, call.origin = .timer ∧
          ∀ rest, ((outcome.machine.after rest).cpu c).inFlight = some call) ∧
      ∀ d call, ((({} : Machine).after run).cpu d).inFlight = some call →
        (m.cpu d).inFlight = some call := by
  intro m outcome
  have hm : m = (({} : Machine).after run).after later := ({} : Machine).after_append run later
  have hboot : m.bootFailed = true := hm ▸ Machine.bootFailed_after hfailed later
  have ht : m.tracker.Consistent := consistent_after (run ++ later)
  refine ⟨hboot, ?_, ?_, ?_⟩
  · constructor
    · rintro ⟨hresult, -⟩ hfinds
      have hforwards := (handleInterrupt_forwards ht hc hfinds).1
      rw [hresult, hfinds.host] at hforwards
      cases hforwards
    · exact handleInterrupt_quiet ht hc
  · intro hfinds
    obtain ⟨hresult, call, hcall, horigin⟩ := handleInterrupt_forwards ht hc hfinds
    have hstill : outcome.machine.bootFailed = true :=
      obeys_handleInterrupt (Law.bootFailed_trapping c) interrupted b m hc hboot
    exact ⟨hresult, call, horigin, Machine.inFlight_after_of_failed hstill hcall⟩
  · intro d call hcall
    rw [hm]
    exact Machine.inFlight_after_of_failed hfailed hcall later

namespace Scenario

/-- The first core is up, and a realm is created there. -/
def bootedWithRealm : List Episode :=
  [episode 0 0 (.operation .setup), episode 0 0 (.operation .coldBoot),
    episode 0 0 (.comeback ⟨0, .coldBoot⟩ 0), hostCall 0 0 .realmCreate 0x1000, completion 0 0 0]

/-- After that the second core fails to boot. -/
def secondCoreFailed : List Episode :=
  bootedWithRealm ++
    [episode 1 1 (.operation .warmBoot), episode 1 1 (.comeback ⟨1, .warmBoot⟩ 1)]

end Scenario

open Scenario in
/-- An interrupt ahead of the deadline. -/
theorem interrupt_after_failed_boot_of_early :
    let m := ({} : Machine).after secondCoreFailed
    let outcome := handleInterrupt .nonSecure (timerInterruptsHost 0 1).board m
    outcome.result = .ok (.eret .nonSecure) ∧ ∀ d, outcome.machine.cpu d = m.cpu d := by
  have hfailed : (({} : Machine).after secondCoreFailed).bootFailed = true := by decide
  have hearly : ¬ (({} : Machine).after secondCoreFailed).FindsCall 0
      (timerInterruptsHost 0 1).board .nonSecure := by
    intro hfinds
    have hdue := hfinds.due
    revert hdue
    decide
  have hnothing : secondCoreFailed ++ [] = secondCoreFailed := List.append_nil _
  have hinterrupt := interrupt_after_failed_boot secondCoreFailed [] .nonSecure hfailed
    (timerInterruptsHost 0 1).here
  rw [hnothing] at hinterrupt
  exact hinterrupt.2.1.mpr hearly

open Scenario in
/-- The deadline of the realm falls due after the second core has failed to boot. -/
theorem failed_boot_hands_call_on :
    ¬ ∀ (run : List Episode) (b : Board) (c : Core) (interrupted : World),
      (({} : Machine).after run).bootFailed = true → b.core = c.val →
      (handleInterrupt interrupted b (({} : Machine).after run)).result =
        .ok (.eret interrupted) := by
  intro hclaim
  have hback := hclaim secondCoreFailed (timerInterruptsHost 0 2).board 0 .nonSecure
    (by decide) (timerInterruptsHost 0 2).here
  revert hback
  decide

end RealmDispatch
