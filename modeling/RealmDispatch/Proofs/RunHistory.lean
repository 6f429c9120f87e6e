import RealmDispatch.Proofs.DispatcherRuns
import RealmDispatch.Proofs.Histories
import RealmDispatch.Scenario.Script

/-!
# What a run means to one realm

The runs of this module begin with a dispatcher that was never used. Of all that
happens in them a realm notices little: the host's calls that create or activate
it, seen on their way, the completions of calls that create it, ask it or destroy
it, and the timer that serves it. So an episode is at most one event in the course
of a realm, and the course after a run is made of these events.
-/
namespace RealmDispatch

/-! ## What an episode tells a realm -/

/-- What the completion of a call means to the realm it names. -/
def PendingCall.answer? (call : PendingCall) (status : UInt64) (clock : Clock) :
    Option RealmEvent :=
  match Command.ofCode? call.code with
  | some .realmCreate => some (.creationCompleted status clock)
  | some .retentionGet => some (.retentionReported status clock)
  | some .realmDestroy => some (.destructionCompleted status)
  | _ => none

theorem PendingCall.code_of_answer? {call : PendingCall} {status : UInt64} {clock : Clock}
    {ev : RealmEvent} (h : call.answer? status clock = some ev) :
    (call.code = Command.realmCreate.code ∧ ev = .creationCompleted status clock) ∨
      (call.code = Command.retentionGet.code ∧ ev = .retentionReported status clock) ∨
      (call.code = Command.realmDestroy.code ∧ ev = .destructionCompleted status) := by
  unfold answer? at h
  split at h
  · rename_i hcommand
    exact Or.inl ⟨Command.ofCode?_eq_some_iff.mp hcommand, (Option.some.inj h).symm⟩
  · rename_i hcommand
    exact Or.inr (Or.inl ⟨Command.ofCode?_eq_some_iff.mp hcommand, (Option.some.inj h).symm⟩)
  · rename_i hcommand
    exact Or.inr (Or.inr ⟨Command.ofCode?_eq_some_iff.mp hcommand, (Option.some.inj h).symm⟩)
  · cases h

namespace Episode
variable {e : Episode} {m : Machine} {rd : Descriptor} {call : PendingCall} {status : UInt64}
  {command : Command}

/-- The host issues the command for `rd`, and it is handed to the realm manager. -/
def Observes (e : Episode) (m : Machine) (command : Command) (rd : Descriptor) : Prop :=
  ∃ call, e.forwarded? m = some call ∧ call.origin = .host ∧ call.code = command.code ∧
    call.args.x1 = rd

/-- The command, forwarded for `rd` before, is completed with the status. -/
def Finishes (e : Episode) (m : Machine) (command : Command) (rd : Descriptor)
    (status : UInt64) : Prop :=
  ∃ call, e.completed? m = some (call, status) ∧ call.code = command.code ∧ call.args.x1 = rd

instance : Decidable (e.Observes m command rd) :=
  decidable_of_iff ((e.forwarded? m).any fun call =>
    call.origin = .host && call.code = command.code && call.args.x1 = rd) (by
      simp [Observes, Option.any_eq_true, and_assoc])

instance : Decidable (e.Finishes m command rd status) :=
  decidable_of_iff ((e.completed? m).any fun done =>
    done.2 = status && done.1.code = command.code && done.1.args.x1 = rd) (by
      simp [Finishes, Option.any_eq_true, and_assoc])

/-- A completion comes with a call that is not handed on. -/
theorem not_forwards_of_completed (h : e.completed? m = some (call, status)) :
    ∃ args flags, e.activity = .operation (.call args flags) ∧ ¬ Forwards m args flags := by
  unfold completed? at h
  split at h
  · rename_i args flags hactivity
    rw [Option.ite_none_right_eq_some] at h
    exact ⟨args, flags, hactivity, fun hforwards => not_completes_of_forwards hforwards h.1⟩
  · cases h

theorem told_of_completed (h : e.completed? m = some (call, status)) :
    e.told m = completionEvents call status e.board.clock := by
  obtain ⟨args, flags, hactivity, hnot⟩ := not_forwards_of_completed h
  rw [told_call hactivity, if_neg hnot, h, Option.elim_some]

theorem told_of_observed (h : e.forwarded? m = some call) (hhost : call.origin = .host) :
    call.code = callCode call.args ∧ e.told m = observedEvents call.args e.board.clock := by
  unfold forwarded? at h
  split at h
  · rename_i args flags hactivity
    split at h
    · rename_i hforwards
      cases h
      refine ⟨rfl, ?_⟩
      rw [told_call hactivity, if_pos hforwards]
    · cases h
  · obtain ⟨issued, -, hcall⟩ := Option.map_eq_some_iff.mp h
    rw [← hcall] at hhost
    cases hhost

/-- No episode hands a call on and completes another one. -/
theorem not_finishes_of_observes {command' : Command} {rd' : Descriptor}
    (h : e.Observes m command rd) : ¬ e.Finishes m command' rd' status := by
  rintro ⟨done, hcompleted, -, -⟩
  obtain ⟨call, hforwarded, -, -, -⟩ := h
  obtain ⟨args, flags, hactivity, hnot⟩ := not_forwards_of_completed hcompleted
  rw [forwarded?_call hactivity, if_neg hnot] at hforwarded
  cases hforwarded

/-- An episode completes one call at most. -/
theorem Finishes.command_unique {command' : Command} {rd' : Descriptor} {status' : UInt64}
    (h : e.Finishes m command rd status) (h' : e.Finishes m command' rd' status') :
    command = command' := by
  obtain ⟨call, hcompleted, hcode, -⟩ := h
  obtain ⟨call', hcompleted', hcode', -⟩ := h'
  rw [hcompleted] at hcompleted'
  cases hcompleted'
  have hcommand := Command.ofCode?_eq_some_iff.mpr hcode
  rw [Command.ofCode?_eq_some_iff.mpr hcode'] at hcommand
  exact (Option.some.inj hcommand).symm

/-- Without a call of the host or a completion, the tracker is told of the timer at most. -/
theorem told_of_silent (hcompleted : e.completed? m = none)
    (hforwarded : ∀ call, e.forwarded? m = some call → call.origin ≠ .host) :
    e.told m = [] ∨ ∃ issue, e.told m = [.timerFired e.board.clock issue, .timerReprogrammed] := by
  cases hactivity : e.activity with
  | comeback entry status => exact Or.inl (by rw [told, hactivity])
  | software live => exact Or.inl (by rw [told, hactivity])
  | operation op =>
      cases op with
      | call args flags =>
          left
          have hnot : ¬ Forwards m args flags := by
            intro hforwards
            refine hforwarded ⟨callCode args, args, .host⟩ ?_ rfl
            rw [forwarded?_call hactivity, if_pos hforwards]
          rw [told_call hactivity, if_neg hnot, hcompleted, Option.elim_none]
      | interrupt interrupted =>
          rw [told, hactivity]
          dsimp only
          split
          · exact Or.inr ⟨_, rfl⟩
          · exact Or.inl rfl
      | _ => exact Or.inl (by rw [told, hactivity])

/-- What the episode means to `rd`. After the first thing it tells, the tracker only
brings the timer in line, which is news to no realm. -/
def news (e : Episode) (m : Machine) (rd : Descriptor) : Option RealmEvent :=
  (e.told m).head?.bind (m.tracker.news rd)

theorem news_of_completed (h : e.completed? m = some (call, status)) :
    e.news m rd = if call.args.x1 = rd then call.answer? status e.board.clock else none := by
  rw [news, told_of_completed h]
  unfold completionEvents PendingCall.answer?
  cases Command.ofCode? call.code with
  | none => simp
  | some command => cases command <;> simp

theorem news_of_observed (h : e.forwarded? m = some call) (hhost : call.origin = .host) :
    e.news m rd =
      if call.args.x1 = rd then
        match Command.ofCode? call.code with
        | some .realmCreate => if (m.tracker.observeCreation rd).2.isOk then some .created else none
        | some .realmActivate => some (.activated e.board.clock)
        | _ => none
      else none := by
  obtain ⟨hcode, htold⟩ := told_of_observed h hhost
  rw [news, htold]
  unfold observedEvents
  rw [← hcode]
  cases Command.ofCode? call.code with
  | none => simp
  | some command =>
      cases command with
      | realmCreate =>
          by_cases hrd : call.args.x1 = rd
          · simp [hrd]
          · simp [hrd]
      | _ => simp

/-- An episode that neither completes a call nor hands one of the host on means
nothing to a realm, unless the timer serves it. -/
theorem news_of_silent (hcompleted : e.completed? m = none)
    (hforwarded : ∀ call, e.forwarded? m = some call → call.origin ≠ .host)
    {ev : RealmEvent} (h : e.news m rd = some ev) : ev = .served := by
  rcases told_of_silent hcompleted hforwarded with htold | ⟨issue, htold⟩
  · rw [news, htold] at h
    cases h
  · rw [news, htold, List.head?_cons, Option.bind_some, Tracker.news_timerFired] at h
    split at h
    · exact (Option.some.inj h).symm
    · cases h

/-- Where the news of a realm come from. -/
theorem news_cases {ev : RealmEvent} (h : e.news m rd = some ev) :
    (∃ call status, e.completed? m = some (call, status) ∧ call.args.x1 = rd ∧
        call.answer? status e.board.clock = some ev) ∨
      (e.Observes m .realmCreate rd ∧ ev = .created) ∨
      (e.Observes m .realmActivate rd ∧ ev = .activated e.board.clock) ∨ ev = .served := by
  cases hcompleted : e.completed? m with
  | some done =>
      left
      obtain ⟨call, status⟩ := done
      rw [news_of_completed hcompleted, Option.ite_none_right_eq_some] at h
      exact ⟨call, status, rfl, h.1, h.2⟩
  | none =>
      right
      by_cases hobserved : ∃ call, e.forwarded? m = some call ∧ call.origin = .host
      · obtain ⟨call, hforwarded, hhost⟩ := hobserved
        rw [news_of_observed hforwarded hhost, Option.ite_none_right_eq_some] at h
        obtain ⟨hrd, h⟩ := h
        split at h
        · rename_i hcommand
          have hcode := Command.ofCode?_eq_some_iff.mp hcommand
          rw [Option.ite_none_right_eq_some] at h
          exact Or.inl ⟨⟨call, hforwarded, hhost, hcode, hrd⟩, (Option.some.inj h.2).symm⟩
        · rename_i hcommand
          have hcode := Command.ofCode?_eq_some_iff.mp hcommand
          exact Or.inr (Or.inl ⟨⟨call, hforwarded, hhost, hcode, hrd⟩, (Option.some.inj h).symm⟩)
        · cases h
      · right
        right
        refine news_of_silent hcompleted ?_ h
        intro call hforwarded hhost
        exact hobserved ⟨call, hforwarded, hhost⟩

theorem finishes_of_creationCompleted {clock : Clock}
    (h : e.news m rd = some (.creationCompleted status clock)) :
    e.Finishes m .realmCreate rd status := by
  rcases news_cases h with ⟨call, status', hcompleted, hrd, hanswer⟩ | ⟨-, hev⟩ | ⟨-, hev⟩ | hev
  · rcases PendingCall.code_of_answer? hanswer with ⟨hcode, hev⟩ | ⟨-, hev⟩ | ⟨-, hev⟩
    · cases hev
      exact ⟨call, hcompleted, hcode, hrd⟩
    · cases hev
    · cases hev
  · cases hev
  · cases hev
  · cases hev

theorem observes_of_activated {clock : Clock} (h : e.news m rd = some (.activated clock)) :
    e.Observes m .realmActivate rd := by
  rcases news_cases h with ⟨call, status', -, -, hanswer⟩ | ⟨-, hev⟩ | ⟨hobserves, -⟩ | hev
  · rcases PendingCall.code_of_answer? hanswer with ⟨-, hev⟩ | ⟨-, hev⟩ | ⟨-, hev⟩
    · cases hev
    · cases hev
    · cases hev
  · cases hev
  · exact hobserves
  · cases hev

theorem news_of_destroyed (h : e.Finishes m .realmDestroy rd status) :
    e.news m rd = some (.destructionCompleted status) := by
  obtain ⟨call, hcompleted, hcode, hrd⟩ := h
  rw [news_of_completed hcompleted, if_pos hrd, PendingCall.answer?,
    Command.ofCode?_eq_some_iff.mpr hcode]

/-- A creation of a tracked realm is always registered. -/
theorem news_of_recreated (ht : m.tracker.Consistent) (h : e.Observes m .realmCreate rd)
    (htracked : (m.tracker.registry.lookup? rd).isSome) : e.news m rd = some .created := by
  obtain ⟨call, hforwarded, hhost, hcode, hrd⟩ := h
  obtain ⟨x, hx⟩ := Option.isSome_iff_exists.mp htracked
  have hnonzero : rd ≠ 0 := by
    rw [← Registry.rd_of_lookup? hx]
    exact ht.registry.nonzero x (Registry.mem_of_lookup? hx)
  have hok := (ht.turns_observeCreation ⟨hnonzero, Or.inl htracked⟩).1
  rw [news_of_observed hforwarded hhost, if_pos hrd, Command.ofCode?_eq_some_iff.mpr hcode]
  exact if_pos hok

/-- The tracker is told nothing, or of a creation on its way, or of something else, which
is followed by bringing the timer in line. -/
theorem told_cases (e : Episode) (m : Machine) :
    e.told m = [] ∨
      (∃ rd, e.Observes m .realmCreate rd ∧ e.told m = [.creationObserved rd]) ∨
      ∃ x, x ≠ .timerReprogrammed ∧ e.told m = [x, .timerReprogrammed] := by
  cases hcompleted : e.completed? m with
  | some done =>
      rw [told_of_completed hcompleted, completionEvents]
      split
      · exact Or.inr (Or.inr ⟨_, by simp, rfl⟩)
      · exact Or.inr (Or.inr ⟨_, by simp, rfl⟩)
      · exact Or.inr (Or.inr ⟨_, by simp, rfl⟩)
      · exact Or.inl rfl
  | none =>
      by_cases hobserved : ∃ call, e.forwarded? m = some call ∧ call.origin = .host
      · obtain ⟨call, hforwarded, hhost⟩ := hobserved
        obtain ⟨hcode, htold⟩ := told_of_observed hforwarded hhost
        rw [htold, observedEvents]
        split
        · rename_i hcommand
          have hcreate := hcode.trans (Command.ofCode?_eq_some_iff.mp hcommand)
          exact Or.inr (Or.inl ⟨_, ⟨call, hforwarded, hhost, hcreate, rfl⟩, rfl⟩)
        · exact Or.inr (Or.inr ⟨_, by simp, rfl⟩)
        · exact Or.inl rfl
      · have hsilent (call : PendingCall) (hforwarded : e.forwarded? m = some call) :
            call.origin ≠ .host := fun hhost => hobserved ⟨call, hforwarded, hhost⟩
        rcases told_of_silent hcompleted hsilent with htold | ⟨issue, htold⟩
        · exact Or.inl htold
        · exact Or.inr (Or.inr ⟨_, by simp, htold⟩)

end Episode

/-! ## The course of a realm after a run -/

open Tracker

/-- The course of `rd` after a run that begins with a dispatcher never used. -/
def courseAfter (rd : Descriptor) (run : List Episode) : Option RealmCourse :=
  course rd (({} : Machine).heard run)

theorem tracker_after_run (run : List Episode) :
    (({} : Machine).after run).tracker = ({} : Tracker).evolve (({} : Machine).heard run) :=
  ({} : Machine).tracker_after run

theorem consistent_after (run : List Episode) :
    (({} : Machine).after run).tracker.Consistent := by
  rw [tracker_after_run]
  exact consistent_evolve consistent_empty _

theorem follows_courseAfter (rd : Descriptor) (run : List Episode) :
    (({} : Machine).after run).tracker.Follows rd (courseAfter rd run) := by
  rw [tracker_after_run]
  exact evolve_follows_course rd _

/-- An episode takes the course of a realm on by its news, if it has any. -/
theorem courseAfter_snoc (rd : Descriptor) (run : List Episode) (e : Episode) :
    courseAfter rd (run ++ [e]) =
      (e.news (({} : Machine).after run) rd).elim (courseAfter rd run)
        (RealmCourse.advance (courseAfter rd run)) := by
  unfold courseAfter Episode.news
  rw [Machine.heard_snoc, tracker_after_run]
  rcases e.told_cases (({} : Machine).after run) with htold | ⟨x, -, htold⟩ | ⟨x, -, htold⟩
  · rw [htold, List.append_nil]
    rfl
  · rw [htold, course_snoc]
    rfl
  · -- To bring the timer in line is news to nobody.
    have hlast (es : List TrackerEvent) :
        course rd (es ++ [x, .timerReprogrammed]) = course rd (es ++ [x]) := by
      have hsplit : es ++ [x, .timerReprogrammed] = (es ++ [x]) ++ [.timerReprogrammed] := by simp
      rw [hsplit, course_snoc rd (es ++ [x]), news_timerReprogrammed, Option.elim_none]
    rw [htold, hlast, course_snoc]
    rfl

/-- The two trackers know the same of `rd`. -/
structure Tracker.AgreesOn (t t' : Tracker) (rd : Descriptor) : Prop where
  record : t'.registry.lookup? rd = t.registry.lookup? rd
  deadline : t'.agenda.find? rd = t.agenda.find? rd

instance (t t' : Tracker) (rd : Descriptor) : Decidable (t.AgreesOn t' rd) :=
  decidable_of_iff (_ ∧ _) ⟨fun h => ⟨h.1, h.2⟩, fun h => ⟨h.record, h.deadline⟩⟩

theorem Tracker.Follows.agreesOn_iff {t t' : Tracker} {rd : Descriptor}
    {s s' : Option RealmCourse} (h : t.Follows rd s) (h' : t'.Follows rd s') :
    t.AgreesOn t' rd ↔ s' = s := by
  constructor
  · intro hagrees
    have hsame : t'.Follows rd s :=
      ⟨hagrees.record.trans h.record, hagrees.deadline.trans h.deadline⟩
    exact h'.unique hsame
  · intro hs
    subst hs
    exact ⟨h'.record.trans h.record.symm, h'.deadline.trans h.deadline.symm⟩

/-- An episode leaves a realm as it is exactly if it does not take its course on. -/
theorem agreesOn_next_iff (run : List Episode) (e : Episode) (rd : Descriptor) :
    (({} : Machine).after run).tracker.AgreesOn (({} : Machine).after (run ++ [e])).tracker rd ↔
      courseAfter rd (run ++ [e]) = courseAfter rd run :=
  (follows_courseAfter rd run).agreesOn_iff (follows_courseAfter rd (run ++ [e]))

/-- The host has issued the command for `rd`, at the end of a run. -/
def Observed (command : Command) (rd : Descriptor) (run : List Episode) (e : Episode) : Prop :=
  e.Observes (({} : Machine).after run) command rd

/-- The command for `rd` was completed with the status, at the end of a run. -/
def Finished (command : Command) (rd : Descriptor) (status : UInt64) (run : List Episode)
    (e : Episode) : Prop :=
  e.Finishes (({} : Machine).after run) command rd status

section
variable {command : Command} {rd : Descriptor} {status : UInt64} {run : List Episode} {e : Episode}

instance : Decidable (Observed command rd run e) := inferInstanceAs (Decidable (e.Observes ..))

instance : Decidable (Finished command rd status run e) :=
  inferInstanceAs (Decidable (e.Finishes ..))

end

/-! ## Realms that begin anew -/

/-- What makes an idle realm wait: a creation that succeeds, or an activation. -/
def Renewed (rd : Descriptor) (run : List Episode) (e : Episode) : Prop :=
  Finished .realmCreate rd 0 run e ∨ Observed .realmActivate rd run e

section Fresh
variable {rd : Descriptor} {run : List Episode} {e : Episode}

instance : Decidable (Renewed rd run e) := inferInstanceAs (Decidable (_ ∨ _))

/-- Only a renewal takes a course away from its beginning. -/
theorem fresh_snoc (h : courseAfter rd run = some {}) (he : ¬ Renewed rd run e) :
    courseAfter rd (run ++ [e]) = some {} := by
  rw [courseAfter_snoc, h]
  cases hnews : e.news (({} : Machine).after run) rd with
  | none => rfl
  | some ev =>
      rw [Option.elim_some]
      cases ev with
      | created => rfl
      | activated clock => exact absurd (Or.inr (Episode.observes_of_activated hnews)) he
      | creationCompleted status clock =>
          have hstatus : status ≠ 0 := by
            intro hstatus
            subst hstatus
            exact he (Or.inl (Episode.finishes_of_creationCompleted hnews))
          simp [RealmCourse.advance, RealmCourse.next, hstatus]
      | retentionReported retention clock => rfl
      | destructionCompleted status => simp [RealmCourse.advance, RealmCourse.next]
      | served => rfl

/-- The course begins with a creation. -/
theorem untracked_snoc (h : courseAfter rd run = none) :
    courseAfter rd (run ++ [e]) = none ∨ courseAfter rd (run ++ [e]) = some {} := by
  rw [courseAfter_snoc, h]
  cases e.news (({} : Machine).after run) rd with
  | none => exact Or.inl rfl
  | some ev =>
      cases ev with
      | created => exact Or.inr rfl
      | _ => exact Or.inl rfl

/-- A realm that is tracked already begins anew when the host creates it. -/
theorem fresh_of_recreated (he : Observed .realmCreate rd run e)
    (htracked : ((({} : Machine).after run).tracker.registry.lookup? rd).isSome) :
    courseAfter rd (run ++ [e]) = some {} := by
  rw [courseAfter_snoc, Episode.news_of_recreated (consistent_after run) he htracked]
  rfl

/-- A realm that was last heard of when the host created it is at its beginning, or the
creation was not registered. -/
theorem fresh_of_observed (h : Since (Observed .realmCreate rd) (Renewed rd) run) :
    courseAfter rd run = none ∨ courseAfter rd run = some {} := by
  induction run using List.reverseRecOn with
  | nil => exact absurd h not_since_nil
  | append_singleton run e ih =>
      rcases since_snoc.mp h with hobserved | ⟨hsince, hrenewed⟩
      · cases htracked : courseAfter rd run with
        | none => exact untracked_snoc htracked
        | some c =>
            right
            apply fresh_of_recreated hobserved
            rw [(follows_courseAfter rd run).record, htracked]
            rfl
      · rcases ih hsince with hnone | hfresh
        · exact untracked_snoc hnone
        · exact Or.inr (fresh_snoc hfresh hrenewed)

end Fresh

/-! ## Episodes on the scripted board -/

namespace Scenario

/-- An episode on a board whose counter ticks once a second. -/
def episode (c : Core) (now : UInt64) (activity : Activity) : Episode where
  core := c
  board := { core := c, clock := ⟨now, 1⟩ : Readings }.board 0
  activity := activity
  here := rfl

def hostCall (c : Core) (now : UInt64) (command : Command) (rd : Descriptor) : Episode :=
  episode c now (.operation (.call (Arguments.ofList [command.code.toUInt64, rd])
    ⟨CallFlags.nonSecureBit⟩))

/-- The realm manager completes the call in flight on the core. -/
def completion (c : Core) (now status : UInt64) : Episode :=
  episode c now (.operation (.call
    (Arguments.ofList [Command.requestComplete.code.toUInt64, status])
    ⟨CallFlags.nonSecureBit ||| CallFlags.realmBit⟩))

/-- The secure timer interrupts the host on the core. -/
def timerInterruptsHost (c : Core) (now : UInt64) : Episode :=
  episode c now (.operation (.interrupt .nonSecure))

end Scenario

end RealmDispatch
