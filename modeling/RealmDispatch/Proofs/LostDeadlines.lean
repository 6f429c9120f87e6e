import RealmDispatch.Proofs.ServiceOrder

/-!
# No deadline is ever lost

Three lines of the log are about deadlines that nobody waits for any more: one was refused for
want of room, one belongs to a realm that has no record, or to a realm whose record says that it
is idle. A realm whose deadline was refused would wait forever. None of this can happen. There is
a record for every realm that is given a deadline and as much room for deadlines as for records,
and every deadline on the agenda belongs to a realm that waits for it.

This is true of every tracker with a history, and the dispatcher does nothing to its tracker but
tell it events. So the three lines are written in no run.
-/
namespace RealmDispatch
open Step

/-- The notice says that a deadline was dropped. -/
def Notice.isLoss : Notice → Bool
  | deadlineRefused _ | deadlineUntracked _ | deadlineStale _ => true
  | _ => false

/-! ## The tracker -/

namespace Tracker
variable {t : Tracker} {rd : Descriptor}

/-- There is room for the deadline of every tracked realm, and an event that gives a realm a
deadline finds it. Every deadline is that of a realm that waits for it, and becomes a call when it
is due. No event reports otherwise. -/
structure KeepsDeadlines (t : Tracker) : Prop where
  room : ∀ rd, (t.phase? rd).isSome → ∀ due, (t.agenda.schedule rd due).2 = true
  scheduled : ∀ e call seconds start, t.Provokes e call seconds start →
    t.agenda.schedule call.rd (start.exactly seconds) = ((t.handle e).1.agenda, true)
  awaited : ∀ d ∈ t.agenda.entries, ∃ phase, t.phase? d.rd = some phase ∧ phase ≠ .idle
  served : ∀ clock d, t.agenda.head? = some d → d.due ≤ clock.now →
    ∃ call, (t.fire clock true).2.2 = some call ∧ call.rd = d.rd
  quiet : ∀ e, (t.handle e).2.1.any Notice.isLoss = false

theorem Consistent.agenda_size (h : t.Consistent) (htracked : (t.phase? rd).isSome) :
    (t.agenda.remove rd).size < realmCapacity := by
  obtain ⟨s, hs⟩ := h.follows rd
  rw [hs.phase?, Option.isSome_map] at htracked
  obtain ⟨c, rfl⟩ := Option.isSome_iff_exists.mp htracked
  exact h.room hs

theorem Provokes.tracked {e : TrackerEvent} {call : AutomaticCall} {seconds : Nat} {start : Clock}
    (h : t.Provokes e call seconds start) : (t.phase? call.rd).isSome := by
  cases h with
  | creation hphase | retention hphase | activation hphase => exact Option.isSome_of_eq_some hphase

theorem Consistent.scheduled (h : t.Consistent) {e : TrackerEvent} {call : AutomaticCall}
    {seconds : Nat} {start : Clock} (hprovokes : t.Provokes e call seconds start) :
    t.agenda.schedule call.rd (start.exactly seconds) = ((t.handle e).1.agenda, true) := by
  rw [hprovokes.agenda_handle h, Agenda.schedule_of_room (h.agenda_size hprovokes.tracked)]

/-- A tracked realm is given its deadline without a word. -/
theorem Consistent.schedule_quiet (h : t.Consistent) {phase : Phase}
    (hphase : t.phase? rd = some phase) (t' : Tracker) (due : UInt64)
    (ha : t'.agenda = t.agenda) : (t'.schedule rd due).2 = [] := by
  have hroom := h.agenda_size (Option.isSome_of_eq_some hphase)
  unfold schedule
  rw [ha, Agenda.schedule_of_room hroom]

theorem Consistent.awaited (h : t.Consistent) {d : Deadline} (hd : d ∈ t.agenda.entries) :
    ∃ phase, t.phase? d.rd = some phase ∧ phase ≠ .idle := by
  obtain ⟨c, hc, hstage⟩ := h.waits_of_queued hd
  refine ⟨c.stage.phase, hc.phase?, ?_⟩
  obtain ⟨stage, hint⟩ := c
  cases stage with
  | idle => cases hstage
  | _ => simp [RealmStage.phase]

theorem Consistent.served (h : t.Consistent) {clock : Clock} {d : Deadline}
    (hd : t.agenda.head? = some d) (hdue : d.due ≤ clock.now) :
    ∃ call, (t.fire clock true).2.2 = some call ∧ call.rd = d.rd := by
  obtain ⟨before, call, after, -, hissues, hserved⟩ := h.fire_served hd hdue
  refine ⟨call, by rw [hserved], ?_⟩
  cases hissues <;> rfl

theorem Consistent.isLoss_fire (h : t.Consistent) (clock : Clock) (issue : Bool) :
    (t.fire clock issue).2.1.any Notice.isLoss = false := by
  by_cases hdue : ∃ d, t.agenda.head? = some d ∧ d.due ≤ clock.now
  · obtain ⟨d, hd, hdue⟩ := hdue
    cases issue with
    | false =>
        rw [fire_deferred hd hdue]
        rfl
    | true =>
        obtain ⟨before, call, after, -, -, hserved⟩ := h.fire_served hd hdue
        rw [hserved]
        rfl
  · rw [fire_early hdue]
    rfl

theorem Consistent.isLoss_handle (h : t.Consistent) (e : TrackerEvent) :
    (t.handle e).2.1.any Notice.isLoss = false := by
  cases e with
  | creationObserved rd => rfl
  | activationObserved rd clock =>
      simp only [handle, observeActivation]
      split
      · rfl
      · rw [h.schedule_quiet ‹_› (t.setPhase rd _) _ rfl]
        rfl
      · rfl
  | creationCompleted rd status clock =>
      simp only [handle, completeCreation]
      split_ifs
      · rfl
      · split
        · rfl
        · rw [h.schedule_quiet ‹_› (t.setPhase rd _) _ rfl]
          rfl
        · rfl
  | retentionCompleted rd retention clock =>
      simp only [handle, completeRetention]
      split
      · rfl
      · rw [h.schedule_quiet ‹_› ((t.setRetention rd _).setPhase rd _) _ rfl]
        rfl
      · rfl
  | destructionCompleted rd status =>
      simp only [handle, completeDestruction]
      split_ifs <;> rfl
  | timerFired clock issue => exact h.isLoss_fire clock issue
  | timerReprogrammed => rfl

theorem Consistent.keepsDeadlines (h : t.Consistent) : t.KeepsDeadlines where
  room _ htracked due := by rw [Agenda.schedule_of_room (h.agenda_size htracked)]
  scheduled _ _ _ _ hprovokes := h.scheduled hprovokes
  awaited _ hd := h.awaited hd
  served _ _ hd hdue := h.served hd hdue
  quiet := h.isLoss_handle

end Tracker

/-! ## The steps of the dispatcher -/

/-- The dispatcher adds a refused registration or the change of the timer to what the tracker
reports. -/
theorem TrackerReply.isLoss_notices (e : TrackerEvent) (reply : TrackerReply) :
    (reply.notices e).any Notice.isLoss = false := by
  cases reply with
  | nothing => rfl
  | registered handle => cases handle <;> cases e <;> rfl
  | issued call => rfl
  | programmed update => rcases update with _ | _ | _ <;> rfl

namespace Step
variable {α β : Type}

/-- Run with a consistent tracker, the step leaves a consistent one and reports no loss. -/
def Lossless (x : Step α) : Prop :=
  ∀ (b : Board) (m : Machine), m.tracker.Consistent →
    (x b m).machine.tracker.Consistent ∧ (x b m).notices.any Notice.isLoss = false

namespace Lossless

theorem of_silent {x : Step α}
    (hx : ∀ b m, (x b m).machine.tracker = m.tracker ∧ (x b m).notices = []) : Lossless x := by
  intro b m hm
  rw [(hx b m).1, (hx b m).2]
  exact ⟨hm, rfl⟩

theorem pure (a : α) : Lossless (Pure.pure a : Step α) := of_silent fun _ _ => ⟨rfl, rfl⟩

theorem halt (e : Halt) : Lossless (Step.halt e : Step α) := of_silent fun _ _ => ⟨rfl, rfl⟩

theorem machine : Lossless Step.machine := of_silent fun _ _ => ⟨rfl, rfl⟩

theorem board : Lossless Step.board := of_silent fun _ _ => ⟨rfl, rfl⟩

theorem cpu (c : Core) : Lossless (Step.cpu c) := of_silent fun _ _ => ⟨rfl, rfl⟩

theorem request (r : Request) : Lossless (Step.request r) := of_silent fun _ _ => ⟨rfl, rfl⟩

theorem modify {f : Machine → Machine} (hf : ∀ m, (f m).tracker = m.tracker) :
    Lossless (Step.modify f) := of_silent fun _ m => ⟨hf m, rfl⟩

theorem modifyCpu (c : Core) (f : Cpu → Cpu) : Lossless (Step.modifyCpu c f) :=
  modify fun _ => rfl

theorem modifySlot (c : Core) (f : EntrySlot → EntrySlot) : Lossless (Step.modifySlot c f) :=
  modify fun _ => rfl

theorem core : Lossless Step.core := by
  refine of_silent fun b m => ?_
  unfold Step.core
  split <;> exact ⟨rfl, rfl⟩

theorem write (c : Core) (w : World) (values : List UInt64) : Lossless (Step.write c w values) := by
  refine of_silent fun b m => ?_
  unfold Step.write
  split <;> exact ⟨rfl, rfl⟩

theorem notify {n : Notice} (hn : n.isLoss = false) : Lossless (Step.notify n) := by
  intro b m hm
  exact ⟨hm, by simp [hn]⟩

theorem bind {x : Step α} {f : α → Step β} (hx : Lossless x) (hf : ∀ a, Lossless (f a)) :
    Lossless (x >>= f) := by
  intro b m hm
  obtain ⟨hconsistent, hquiet⟩ := hx b m hm
  rw [bind_apply]
  unfold Outcome.andThen
  split
  · exact ⟨hconsistent, hquiet⟩
  · rename_i a _
    obtain ⟨hafter, hrest⟩ := hf a b _ hconsistent
    refine ⟨hafter, ?_⟩
    rw [Outcome.after, List.any_append, hquiet, hrest]
    rfl

theorem ite {p : Prop} [Decidable p] {x y : Step α} (hx : Lossless x) (hy : Lossless y) :
    Lossless (if p then x else y) := by
  split
  · exact hx
  · exact hy

theorem saveSystem (c : Core) (w : World) : Lossless (Step.saveSystem c w) :=
  bind (request _) fun _ => modify fun _ => rfl

theorem restoreSystem (c : Core) (w : World) : Lossless (Step.restoreSystem c w) :=
  bind (request _) fun _ => modify fun _ => rfl

theorem reject (flags : CallFlags) : Lossless (Step.reject flags) :=
  .bind core fun c => .bind (write c _ _) fun _ => pure _

theorem refuse {n : Notice} (hn : n.isLoss = false) (flags : CallFlags) : Lossless (do
    Step.notify n
    Step.reject flags : Step Next) :=
  bind (notify hn) fun _ => reject flags

theorem tell (e : TrackerEvent) : Lossless (Step.tell e) := by
  intro b m hm
  refine ⟨Tracker.consistent_handle hm e, ?_⟩
  have hreply := (m.tracker.handle e).2.2.isLoss_notices e
  change (m.tracker.notices e).any Notice.isLoss = false
  rw [Tracker.notices, List.any_append, hm.isLoss_handle e, hreply]
  rfl

theorem tellAll (events : List TrackerEvent) : Lossless (Step.tellAll events) := by
  induction events with
  | nil => exact pure _
  | cons e es ih => exact .bind (tell e) fun _ => ih

end Lossless
end Step

/-! ### Calls and interrupts -/

theorem lossless_switchWorld (c : Core) (source target : World) :
    Lossless (switchWorld c source target) :=
  .bind (.saveSystem c source) fun _ => .bind (.restoreSystem c target) fun _ =>
    .modifyCpu c _

theorem lossless_leaveEntry (value : UInt64) : Lossless (leaveEntry value) :=
  .bind .core fun _ => .bind .machine fun _ => .ite (.pure _) (.halt _)

theorem lossless_granuleAnswer (service : Service) (address : UInt64)
    (result : Except GranuleFault Unit) : Lossless (granuleAnswer service address result) := by
  cases result with
  | ok => exact .pure _
  | error fault => exact .bind (.notify rfl) fun _ => .pure _

theorem lossless_perform (service : Option Service) (args : Arguments) :
    Lossless (perform service args) := by
  refine .bind .board fun b => ?_
  cases service with
  | none => exact .bind (.notify rfl) fun _ => .pure _
  | some service =>
      cases service with
      | delegate | undelegate =>
          exact .bind (.request _) fun _ => lossless_granuleAnswer _ _ _
      | platformToken | realmKey | tokenSign => exact .bind (.request _) fun _ => .pure _
      | features => exact .pure _
      | bootComplete => exact .bind (.notify rfl) fun _ => .pure _

theorem lossless_handleService (args : Arguments) (flags : CallFlags) :
    Lossless (handleService args flags) := by
  refine .bind .machine fun m => .ite (.refuse rfl flags) (.ite (.refuse rfl flags) ?_)
  refine .bind (.notify rfl) fun _ => .bind .board fun b => .ite ?_ ?_
  · exact .bind (.notify rfl) fun _ => lossless_leaveEntry _
  · exact .bind (lossless_perform _ args) fun values => .bind .core fun c =>
      .bind (.write c _ values) fun _ => .pure _

theorem lossless_forward (args : Arguments) (sveHint : Bool) (origin : Origin) :
    Lossless (forward args sveHint origin) := by
  refine .bind .core fun c => .bind (.cpu c) fun cpu => ?_
  have hrest (call : PendingCall) : Lossless (do
      Step.modifyCpu c fun cpu => { cpu with inFlight := some call }
      switchWorld c .nonSecure .realm
      Step.write c .realm (hinted args sveHint).toList
      pure (.eret .realm) : Step Next) :=
    .bind (.modifyCpu c _) fun _ => .bind (lossless_switchWorld c _ _) fun _ =>
      .bind (.write c _ _) fun _ => .pure _
  split
  · exact .bind (.notify rfl) fun _ => hrest _
  · exact hrest _

theorem lossless_observe (args : Arguments) : Lossless (observe args) := by
  intro b m hm
  rw [observe_apply]
  exact Lossless.tellAll _ b m hm

theorem lossless_noteCompletion (call : PendingCall) (status : UInt64) :
    Lossless (noteCompletion call status) := by
  intro b m hm
  rw [noteCompletion_apply]
  obtain ⟨hconsistent, hquiet⟩ := Lossless.tellAll (completionEvents call status b.clock) b m hm
  refine ⟨hconsistent, ?_⟩
  have hend : (completionNotices call status).any Notice.isLoss = false := by
    unfold completionNotices
    split
    · split_ifs <;> rfl
    · rfl
  rw [Outcome.after, List.any_append, hend, hquiet]
  rfl

theorem lossless_complete (args : Arguments) (flags : CallFlags) :
    Lossless (complete args flags) := by
  refine .bind .core fun c => .bind (.cpu c) fun cpu => ?_
  split
  · exact .refuse rfl flags
  · refine .bind (.modifyCpu c _) fun _ => .bind (.notify rfl) fun _ => ?_
    refine .bind (lossless_noteCompletion _ _) fun _ => .bind (lossless_switchWorld c _ _) fun _ => ?_
    split
    · exact .bind (.write c _ _) fun _ => .pure _
    · exact .pure _

theorem lossless_handleCommand (args : Arguments) (flags : CallFlags) :
    Lossless (handleCommand args flags) := by
  refine .bind .machine fun m => .ite (.refuse rfl flags) ?_
  split
  · exact .refuse rfl flags
  · exact .bind (.notify rfl) fun _ => .bind (lossless_observe args) fun _ =>
      lossless_forward args _ _
  · exact .ite (lossless_complete args flags) (.refuse rfl flags)

theorem lossless_handleCall (args : Arguments) (flags : CallFlags) :
    Lossless (handleCall args flags) :=
  .ite (lossless_handleCommand args flags)
    (.ite (lossless_handleService args flags) (.refuse rfl flags))

theorem lossless_canIssue (interrupted : World) : Lossless (canIssue interrupted) :=
  .ite (.bind .core fun c => .bind (.cpu c) fun _ => .pure _) (.pure _)

theorem lossless_fireTimer (issue : Bool) : Lossless (fireTimer issue) := by
  intro b m hm
  rw [fireTimer_apply]
  exact Lossless.tellAll [.timerFired b.clock issue, .timerReprogrammed] b m hm

theorem lossless_handleInterrupt (interrupted : World) :
    Lossless (handleInterrupt interrupted) := by
  refine .bind .board fun b => .bind (.request _) fun _ => ?_
  refine .bind (.request _) fun _ => .ite ?_ ?_
  · exact .bind (.notify rfl) fun _ => .pure _
  · refine .bind (lossless_canIssue _) fun issue => .bind (lossless_fireTimer issue) fun call => ?_
    split
    · exact .pure _
    · exact .bind (.notify rfl) fun _ => lossless_forward _ _ _

/-! ### Boots and synchronous entries -/

theorem lossless_begin (purpose : Purpose) : Lossless (Entry.begin purpose) := by
  refine .bind .core fun c => .bind .machine fun m => .ite (.halt _) (.ite (.halt _) ?_)
  refine .bind (.modifySlot c _) fun _ => .bind (.restoreSystem c _) fun _ => ?_
  refine .bind (.modifyCpu c _) fun _ => .bind (.request _) fun _ => ?_
  exact .bind .board fun b => .bind (.modifySlot c _) fun _ => .pure _

theorem lossless_checkBoard : Lossless checkBoard := by
  refine .bind .board fun b => .ite (.bind (.notify rfl) fun _ => .pure _) ?_
  split
  · exact .bind (.notify rfl) fun _ => .pure _
  · refine .bind (.request _) fun _ => ?_
    split
    · exact .bind (.notify rfl) fun _ => .pure _
    · exact .pure _

theorem lossless_setup : Lossless setup := by
  refine .bind lossless_checkBoard fun checked => ?_
  cases checked with
  | error cause =>
      exact .bind (.modify fun _ => rfl) fun _ => .bind (.notify rfl) fun _ => .pure _
  | ok found =>
      refine .bind .machine fun m => .bind (.modify fun _ => rfl) fun _ => ?_
      refine .bind .core fun c => .bind .board fun b => ?_
      exact .bind (.modifyCpu c _) fun _ => .bind (.request _) fun _ => .pure _

theorem lossless_bootStatus (status : UInt64) : Lossless (Entry.bootStatus status) := by
  refine .ite (.pure _) (.bind .core fun c => .bind (.notify rfl) fun _ => ?_)
  exact .bind (.modify fun _ => rfl) fun _ => .pure _

theorem lossless_coldBoot : Lossless coldBoot := by
  refine .bind .machine fun m => .ite (.pure _) (.bind (.notify rfl) fun _ => ?_)
  exact .bind (lossless_begin _) fun _ => .pure _

theorem lossless_warmBoot : Lossless warmBoot := by
  refine .bind .machine fun m => ?_
  split
  · refine .bind .core fun c => .bind (.modifyCpu c _) fun _ => ?_
    exact .bind (.request _) fun _ => .bind (lossless_begin _) fun _ => .pure _
  · exact .pure _

theorem lossless_finish (entry : Entry) (status : UInt64) : Lossless (entry.finish status) := by
  have hstatus := lossless_bootStatus status
  refine .bind .core fun c => .bind (.saveSystem c _) fun _ => ?_
  refine .bind (.modifySlot entry.core _) fun _ => ?_
  cases entry.purpose with
  | plain => exact .pure _
  | warmBoot => exact .bind hstatus fun _ => .pure _
  | coldBoot =>
      refine .bind hstatus fun result => ?_
      cases result with
      | ok => exact .bind (.notify rfl) fun _ => .pure _
      | error cause => exact .pure _

theorem lossless_start (op : Operation) : Lossless op.start := by
  cases op with
  | setup => exact .bind lossless_setup fun _ => .pure _
  | coldBoot => exact lossless_coldBoot
  | warmBoot => exact lossless_warmBoot
  | initTimer => exact .bind (.request _) fun _ => .pure _
  | enter => exact .bind (lossless_begin .plain) fun _ => .pure _
  | leave value => exact .bind (lossless_leaveEntry value) fun _ => .pure _
  | call args flags => exact .bind (lossless_handleCall args flags) fun _ => .pure _
  | interrupt interrupted => exact .bind (lossless_handleInterrupt interrupted) fun _ => .pure _

/-! ## Runs -/

/-- What is reported in the course of an activity. -/
def Activity.notices : Activity → Board → Machine → List Notice
  | operation op, b, m => (op.start b m).notices
  | comeback entry status, b, m => (entry.finish status b m).notices
  | software _, _, _ => []

def Episode.notices (e : Episode) (m : Machine) : List Notice := e.activity.notices e.board m

/-- What is reported in the course of a run. -/
def Machine.reported (m : Machine) : List Episode → List Notice
  | [] => []
  | e :: run => e.notices m ++ (e.next m).reported run

theorem Episode.lossless (e : Episode) {m : Machine} (h : m.tracker.Consistent) :
    (e.next m).tracker.Consistent ∧ (e.notices m).any Notice.isLoss = false := by
  obtain ⟨c, b, activity, hc⟩ := e
  cases activity with
  | operation op => exact lossless_start op b m h
  | comeback entry status => exact lossless_finish entry status b m h
  | software live => exact ⟨h, rfl⟩

theorem Machine.reported_lossless {m : Machine} (h : m.tracker.Consistent) (run : List Episode) :
    (m.reported run).any Notice.isLoss = false := by
  induction run generalizing m with
  | nil => rfl
  | cons e run ih =>
      obtain ⟨hnext, hquiet⟩ := e.lossless h
      rw [reported, List.any_append, hquiet, ih hnext]
      rfl

/-- However a tracker came about, there is room for the deadline of every realm it tracks, and a
deadline that falls due becomes the call of its realm. So it is with the tracker of a dispatcher
after any run, and in no run is a deadline reported as lost. -/
theorem no_deadline_lost :
    (∀ events, (({} : Tracker).evolve events).KeepsDeadlines) ∧
      ∀ run, (({} : Machine).after run).tracker.KeepsDeadlines ∧
        ∀ n ∈ ({} : Machine).reported run, n.isLoss = false := by
  refine ⟨fun events => ?_, fun run => ⟨(consistent_after run).keepsDeadlines, fun n hn => ?_⟩⟩
  · exact (Tracker.consistent_evolve Tracker.consistent_empty events).keepsDeadlines
  · have hquiet := Machine.reported_lossless (m := {}) Tracker.consistent_empty run
    rw [List.any_eq_false] at hquiet
    simpa using hquiet n hn

/-- A deadline that came to the agenda without its realm would be lost when it falls due. -/
example : (({ agenda := ⟨[⟨5, 1⟩]⟩ } : Tracker).fire ⟨5, 1⟩ true).2 =
    ([.deadlineUntracked 1], none) := by decide

end RealmDispatch
