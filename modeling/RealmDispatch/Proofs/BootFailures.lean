import RealmDispatch.Proofs.BootOutcomes
import RealmDispatch.Proofs.FailedBoot

/-!
# What makes a boot fail, and what follows

All cores share one flag that says that a boot has failed. It is set by a setup that
fails and by a cold or a warm boot that ends with another status than 0, and by nothing
else. Both tell whoever called them, so the flag says no more than the answers that were
given. No later operation takes it back.

With the flag set a boot is refused before it does anything, and a call gets the answer
that it is unknown, whatever world it comes from and whatever it asks for.
-/
namespace RealmDispatch
open Step

/-- What an activity answers, unless it halts or the realm manager takes over. -/
def Activity.answer? : Activity → Board → Machine → Option Answer
  | operation op, b, m =>
      match (op.start b m).result with
      | .ok (.answered answer) => some answer
      | _ => none
  | comeback entry status, b, m => (entry.finish status b m).result.toOption
  | software _, _, _ => none

theorem Law.bootFailed_kept (c : Core) :
    Law.Trapping (fun m _ m' => m'.bootFailed = m.bootFailed) c where
  nothing _ := rfl
  chained hfirst hsecond := hsecond.trans hfirst
  request _ _ _ := rfl
  context _ _ _ := rfl
  next _ _ := rfl
  live _ _ := rfl
  inFlight _ _ := rfl
  tell _ _ := rfl

namespace Episode
variable {e : Episode} {m : Machine}

def answer? (e : Episode) (m : Machine) : Option Answer := e.activity.answer? e.board m

/-- A setup answers with an error, or a boot answers with the status, not 0, that the realm
manager has come back with. -/
def BreaksBoot (e : Episode) (m : Machine) : Prop :=
  match e.activity with
  | .operation .setup => ∃ cause, e.answer? m = some (.boot (.error cause))
  | .comeback _ status => status ≠ 0 ∧ e.answer? m = some (.boot (.error (.managerBoot status)))
  | _ => False

/-- A setup breaks the boot exactly if a check fails. -/
theorem breaksBoot_setup (h : e.activity = .operation .setup) :
    e.BreaksBoot m ↔ ∃ cause, e.board.checked = .error cause := by
  have hanswer {answer : Answer} (hsetup : (setup e.board m).result = .ok answer) :
      e.answer? m = some answer := by
    have hstart : (Operation.setup.start e.board m).result = .ok (.answered answer) := by
      rw [Operation.start, bind_apply, Outcome.andThen_ok hsetup]
      rfl
    rw [answer?, h, Activity.answer?, hstart]
  rw [BreaksBoot, h]
  dsimp only
  cases hchecked : e.board.checked with
  | error cause =>
      rw [hanswer (setup_failed m hchecked).1]
      simp
  | ok found =>
      rw [hanswer (setup_passed m e.here hchecked).1]
      simp

/-- The end of a boot breaks it unless the status is 0. -/
theorem breaksBoot_comeback {entry : Entry} {status : UInt64}
    (h : e.activity = .comeback entry status) :
    e.BreaksBoot m ↔ entry.fails status = true := by
  obtain ⟨notices, hfinish⟩ := entry.finish_apply (m := m) status e.here
  obtain ⟨c, purpose⟩ := entry
  rw [BreaksBoot, answer?, h, Activity.answer?, hfinish]
  by_cases hstatus : status = 0
  · simp [hstatus, Entry.fails]
  · cases purpose <;> simp [hstatus, Entry.fails, Entry.answer, Except.toOption]

theorem not_breaksBoot (h : ∃ op, e.activity = .operation op ∧ op ≠ .setup) :
    ¬ e.BreaksBoot m := by
  obtain ⟨op, hactivity, hop⟩ := h
  rw [BreaksBoot, hactivity]
  cases op with
  | setup => exact absurd rfl hop
  | _ => exact id

/-- An episode sets the flag exactly if it breaks the boot, and never takes it back. -/
theorem bootFailed_next (e : Episode) (m : Machine) :
    (e.next m).bootFailed = true ↔ m.bootFailed = true ∨ e.BreaksBoot m := by
  cases hcaller : e.activity.caller? with
  | some w =>
      have hkept : (e.next m).bootFailed = m.bootFailed :=
        obeys_of_trapped (Law.bootFailed_kept e.core) hcaller m
      rw [hkept, or_iff_left (not_breaksBoot (operation_of_caller hcaller))]
  | none =>
      have huntrapped := untrapped m hcaller
      generalize e.next m = m' at huntrapped
      cases huntrapped with
      | nothing hactivity hop hbegins =>
          rw [or_iff_left (not_breaksBoot ⟨_, hactivity, hop⟩)]
      | setupFailed hsetup hchecked =>
          rw [breaksBoot_setup hsetup]
          exact iff_of_true rfl (Or.inr ⟨_, hchecked⟩)
      | setupPassed hsetup hchecked =>
          rw [breaksBoot_setup hsetup, hchecked]
          simp [Machine.restarted, Machine.setCpu]
      | entered hbegins hadmits =>
          rw [or_iff_left (not_breaksBoot (operation_of_begins hbegins)),
            ← bootFailed_of_begins hbegins]
          rfl
      | refused hbegins hadmits =>
          rw [or_iff_left (not_breaksBoot (operation_of_begins hbegins)),
            bootFailed_of_begins hbegins]
      | @cameBack entry status hback =>
          rw [breaksBoot_comeback hback]
          cases entry.fails status with
          | false => simp [Machine.left, Machine.saveSystem, Machine.setCpu, Machine.setSlot]
          | true => simp
      | software hlive =>
          have hnot : ¬ e.BreaksBoot m := by
            rw [BreaksBoot, hlive]
            exact id
          rw [or_iff_left hnot]

end Episode

theorem bootFailed_after_iff (run : List Episode) :
    (({} : Machine).after run).bootFailed = true ↔
      Happened (fun before e => e.BreaksBoot (({} : Machine).after before)) run := by
  induction run using List.reverseRecOn with
  | nil => exact iff_of_false Bool.false_ne_true not_happened_nil
  | append_singleton run e ih =>
      rw [Machine.after_snoc, Episode.bootFailed_next, ih, happened_snoc]

/-- At every point of a run the flag says exactly that a setup has answered with an error, or
a boot with a status other than 0. Once it is set it stays set, whatever happens. Boots are
refused from then on, with nothing asked for and nothing changed, and a call from whatever
world only gets the answer that it is unknown. -/
theorem boot_failed_iff_broken (run : List Episode) :
    let m := ({} : Machine).after run
    (m.bootFailed = true ↔
        Happened (fun before e => e.BreaksBoot (({} : Machine).after before)) run) ∧
      (m.bootFailed = true → ∀ later,
        let m' := m.after later
        m'.bootFailed = true ∧
          (∀ b, coldBoot b m' =
              { result := .ok (.answered (.boot (.error .bootFailed))), machine := m' } ∧
            warmBoot b m' =
              { result := .ok (.answered (.boot (.error .bootFailed))), machine := m' }) ∧
          ∀ (b : Board) (c : Core) (args : Arguments) (flags : CallFlags), b.core = c.val →
            ∃ notice, handleCall args flags b m' =
              { result := .ok (.eret flags.world)
                machine := m'.written c flags.world [unknownCall]
                notices := [notice] }) := by
  intro m
  refine ⟨bootFailed_after_iff run, ?_⟩
  intro hfailed later m'
  have hstill : m'.bootFailed = true := Machine.bootFailed_after hfailed later
  refine ⟨hstill, ?_, ?_⟩
  · intro b
    exact ⟨coldBoot_refused b hstill, warmBoot_refused b (Or.inl hstill)⟩
  · intro b c args flags hc
    exact handleCall_of_failed args flags hstill hc

open Scenario in
/-- The second core fails to boot, and the first one is set up once more. -/
theorem boot_failed_iff_broken_of_setupAgain :
    coldBoot (episode 0 2 (.operation .setup)).board
        ((({} : Machine).after secondCoreFailed).after [episode 0 2 (.operation .setup)]) =
      { result := .ok (.answered (.boot (.error .bootFailed)))
        machine := (({} : Machine).after secondCoreFailed).after
          [episode 0 2 (.operation .setup)] } := by
  have hfailed : (({} : Machine).after secondCoreFailed).bootFailed = true := by decide
  have hkept := (boot_failed_iff_broken secondCoreFailed).2 hfailed
    [episode 0 2 (.operation .setup)]
  exact (hkept.2.1 _).1

end RealmDispatch
