import RealmDispatch.Proofs.RunHistory

/-!
# Which completions a realm listens to

A call in flight keeps the descriptor it was made for, and nothing that would tell
one realm from the next one with the same descriptor. So its completion is judged
by the phase in which it finds the realm, whenever the call was forwarded. A realm
that expects such a completion takes it for an answer to itself, and every other
realm ignores it.

A realm that the host has just created again is idle and expects nothing but the
end of its own creation. Answers for the realm before it come to nothing then, but
those that come later than the end of the creation do not.
-/
namespace RealmDispatch

/-! ## What takes a course on -/

namespace RealmCourse
variable (c : RealmCourse) (status retention : UInt64) (clock : Clock)

theorem next_creationCompleted_ne_iff : c.next (.creationCompleted status clock) ≠ c ↔
    c.stage.phase = .idle ∧ status = 0 := by
  obtain ⟨stage, hint⟩ := c
  cases stage with
  | idle => by_cases hstatus : status = 0 <;> simp [next, RealmStage.phase, hstatus]
  | _ => simp [next, RealmStage.phase]

theorem next_retentionReported_ne_iff : c.next (.retentionReported retention clock) ≠ c ↔
    ∃ issued, c.stage.phase = .awaitingRetention issued := by
  obtain ⟨stage, hint⟩ := c
  cases stage with
  | retentionDue _ | retentionAsked =>
      apply iff_of_true
      · intro heq
        cases congrArg RealmCourse.stage heq
      · exact ⟨_, rfl⟩
  | idle | destructionDue _ =>
      apply iff_of_false
      · intro hne
        exact hne rfl
      · intro hissued
        cases hissued.choose_spec

theorem next_destructionCompleted_ne_iff : c.next (.destructionCompleted status) ≠ c ↔
    c.stage.phase ≠ .idle ∧ status = 0 := by
  obtain ⟨stage, hint⟩ := c
  by_cases hstatus : status = 0
  · cases stage <;> simp [next, RealmStage.phase, hstatus]
  · simp [next, hstatus]

end RealmCourse

/-! ## Completions -/

/-- Whether the realm is in a phase that expects what the completed call has to say. -/
def Tracker.Expects (t : Tracker) (call : PendingCall) (status : UInt64) : Prop :=
  ∃ phase, t.phase? call.args.x1 = some phase ∧
    match Command.ofCode? call.code with
    | some .realmCreate => phase = .idle ∧ status = 0
    | some .retentionGet => ∃ issued, phase = .awaitingRetention issued
    | some .realmDestroy => phase ≠ .idle ∧ status = 0
    | _ => False

section
variable {run : List Episode} {e : Episode} {call : PendingCall} {status : UInt64}

theorem answer_moves_iff {t : Tracker} {s : Option RealmCourse} (h : t.Follows call.args.x1 s)
    (clock : Clock) :
    (call.answer? status clock).elim s (RealmCourse.advance s) ≠ s ↔ t.Expects call status := by
  unfold PendingCall.answer? Tracker.Expects
  rw [h.phase?]
  cases s with
  | none =>
      cases Command.ofCode? call.code with
      | none => simp
      | some command => cases command <;> simp [RealmCourse.advance]
  | some c =>
      have hmoves (ev : RealmEvent) (hev : ev ≠ .created) :
          RealmCourse.advance (some c) ev ≠ some c ↔ c.next ev ≠ c := by
        cases ev with
        | created => exact absurd rfl hev
        | _ => simp [RealmCourse.advance]
      cases Command.ofCode? call.code with
      | none => simp
      | some command =>
          cases command with
          | realmCreate => simp [hmoves, RealmCourse.next_creationCompleted_ne_iff]
          | retentionGet => simp [hmoves, RealmCourse.next_retentionReported_ne_iff]
          | realmDestroy => simp [hmoves, RealmCourse.next_destructionCompleted_ne_iff]
          | _ => simp

theorem courseAfter_completed
    (h : e.completed? (({} : Machine).after run) = some (call, status)) :
    courseAfter call.args.x1 (run ++ [e]) =
      (call.answer? status e.board.clock).elim (courseAfter call.args.x1 run)
        (RealmCourse.advance (courseAfter call.args.x1 run)) := by
  rw [courseAfter_snoc, Episode.news_of_completed h, if_pos rfl]

/-- A realm at its beginning expects the end of its creation, and an unknown one nothing. -/
theorem not_expects_of_fresh {t : Tracker} {s : Option RealmCourse}
    (h : t.Follows call.args.x1 s) (hs : s = none ∨ s = some {})
    (hcode : call.code ≠ Command.realmCreate.code) : ¬ t.Expects call status := by
  intro hexpects
  obtain ⟨phase, hphase, hexpected⟩ := hexpects
  have hidle : phase = .idle := by
    rw [h.phase?] at hphase
    rcases hs with hs | hs
    · rw [hs] at hphase
      cases hphase
    · rw [hs] at hphase
      exact (Option.some.inj hphase).symm
  subst hidle
  split at hexpected
  · rename_i hcommand
    exact hcode (Command.ofCode?_eq_some_iff.mp hcommand)
  · cases hexpected.choose_spec
  · exact hexpected.1 rfl
  · exact hexpected

/-- A completion changes what is known of its realm if and only if it finds the realm in a
phase that expects it, whenever the call was forwarded. A realm of which nothing was heard
since the host created it does not expect the end of another call. -/
theorem completion_changes_iff_expected
    (h : e.completed? (({} : Machine).after run) = some (call, status)) :
    let rd := call.args.x1
    let before := (({} : Machine).after run).tracker
    let after := (({} : Machine).after (run ++ [e])).tracker
    (¬ before.AgreesOn after rd ↔ before.Expects call status) ∧
      (Since (Observed .realmCreate rd) (Renewed rd) run →
        call.code ≠ Command.realmCreate.code → before.AgreesOn after rd) := by
  intro rd before after
  have hfollows : before.Follows rd (courseAfter rd run) := follows_courseAfter rd run
  have hmoves : ¬ before.AgreesOn after rd ↔ before.Expects call status := by
    rw [agreesOn_next_iff, courseAfter_completed h]
    exact answer_moves_iff hfollows e.board.clock
  constructor
  · exact hmoves
  · intro hsince hcode
    have hunexpected : ¬ before.Expects call status :=
      not_expects_of_fresh hfollows (fresh_of_observed hsince) hcode
    exact not_not.mp (hmoves.not.mpr hunexpected)

end

namespace Scenario

/-- Core 1 asks a realm for its retention. While it waits, core 0 destroys the realm and
creates it again. -/
def createdAgain : List Episode :=
  [hostCall 0 0 .realmCreate 0x1000, completion 0 0 0, timerInterruptsHost 1 2,
    hostCall 0 2 .realmDestroy 0x1000, completion 0 2 0, hostCall 0 2 .realmCreate 0x1000]

/-- Core 1 destroys a realm. Before it reports so, core 0 has created the realm again. -/
def createdBeforeDestroyed : List Episode :=
  [hostCall 0 0 .realmCreate 0x1000, completion 0 0 0, hostCall 1 0 .realmDestroy 0x1000,
    hostCall 0 0 .realmCreate 0x1000, completion 0 0 0]

end Scenario

open Scenario in
/-- The answer of the realm before it comes before the new one is created. -/
theorem completion_changes_iff_expected_of_createdAgain :
    let before := (({} : Machine).after createdAgain).tracker
    let after := (({} : Machine).after (createdAgain ++ [completion 1 2 7])).tracker
    before.AgreesOn after 0x1000 := by
  have hcompleted : (completion 1 2 7).completed? (({} : Machine).after createdAgain) =
      some (⟨Command.retentionGet.code, (AutomaticCall.askRetention 0x1000).args, .timer⟩, 7) := by
    decide
  have hsince : Since (Observed .realmCreate 0x1000) (Renewed 0x1000) createdAgain := by decide
  exact (completion_changes_iff_expected hcompleted).2 hsince (by decide)

/-- The call in flight on `c` was forwarded before another core's creation of `rd` was seen. -/
def Outdated (rd : Descriptor) (c : Core) (run : List Episode) : Prop :=
  Since (fun run e => e.core ≠ c ∧ Observed .realmCreate rd run e)
    (fun run e => e.core = c ∧ (e.forwarded? (({} : Machine).after run)).isSome) run

instance (rd : Descriptor) (c : Core) (run : List Episode) : Decidable (Outdated rd c run) :=
  inferInstanceAs (Decidable (Since ..))

open Scenario in
/-- The end of an outdated call is taken for an answer of the new realm, be it the question
for the retention or a destruction. -/
theorem outdated_completion_changes_realm :
    (¬ ∀ (run : List Episode) (e : Episode) (call : PendingCall) (status : UInt64),
      e.completed? (({} : Machine).after run) = some (call, status) →
      call.code = Command.retentionGet.code → Outdated call.args.x1 e.core run →
      (({} : Machine).after run).tracker.AgreesOn (({} : Machine).after (run ++ [e])).tracker
        call.args.x1) ∧
    ¬ ∀ (run : List Episode) (e : Episode) (call : PendingCall) (status : UInt64),
      e.completed? (({} : Machine).after run) = some (call, status) →
      call.code = Command.realmDestroy.code → Outdated call.args.x1 e.core run →
      (({} : Machine).after run).tracker.AgreesOn (({} : Machine).after (run ++ [e])).tracker
        call.args.x1 := by
  constructor
  · intro hclaim
    have hsame := hclaim (createdAgain ++ [completion 0 2 0]) (completion 1 2 7)
      ⟨Command.retentionGet.code, (AutomaticCall.askRetention 0x1000).args, .timer⟩ 7
      (by decide) (by decide) (by decide)
    revert hsame
    decide
  · intro hclaim
    have hsame := hclaim createdBeforeDestroyed (completion 1 0 0)
      ⟨Command.realmDestroy.code, (Arguments.ofList [Command.realmDestroy.code.toUInt64, 0x1000]),
        .host⟩ 0 (by decide) (by decide) (by decide)
    revert hsame
    decide

end RealmDispatch
