import RealmDispatch.Proofs.CoreIsolation
import RealmDispatch.Proofs.FiredTimer

/-!
# When the timer issues a call

An interrupt is acknowledged and ended before the dispatcher looks any further. It leads
to a call in one case only: it is the one of the secure timer, it was taken from the
host, the core has no call in flight, and the head of the agenda has fallen due. Then
the realm manager has the call of that deadline to serve next, and the deadline is gone.

In all other cases the interrupted world goes on as if nothing had happened. A deadline
that is due stays queued, and only the timer is programmed for another attempt; after a
foreign interrupt not even that.
-/
namespace RealmDispatch
open Step

/-- The timer finds the deadline `d` at the head of the agenda and due, on a core that runs the
host and has no call in flight. -/
structure Machine.FindsHead (m : Machine) (c : Core) (b : Board) (interrupted : World)
    (d : Deadline) : Prop where
  timer : b.interrupt = timerInterrupt
  host : interrupted = .nonSecure
  idle : (m.cpu c).inFlight = none
  head : m.tracker.agenda.head? = some d
  due : d.due ≤ b.clock.now

/-- The registers `x0` to `x7` of a call for one realm. -/
def Command.argumentsFor (command : Command) (rd : Descriptor) : Arguments :=
  #v[command.code.toUInt64, rd, 0, 0, 0, 0, 0, 0]

/-- The realm manager has the call of the deadline `d` to serve next, and the deadline is off
the agenda. -/
structure Issued (c : Core) (d : Deadline) (m : Machine) (o : Outcome Next) : Prop where
  result : o.result = .ok (.eret .realm)
  taken : m.tracker.agenda.entries = d :: o.machine.tracker.agenda.entries
  call : ∃ command after,
    (m.tracker.phase? d.rd = some (.awaitingRetention false) ∧
        command = .retentionGet ∧ after = .awaitingRetention true ∨
      m.tracker.phase? d.rd = some (.awaitingDestruction d.due) ∧
        command = .dataDestroyAll ∧ after = .idle) ∧
    o.machine.tracker.registry =
      m.tracker.registry.update d.rd (fun x => { x with phase := after }) ∧
    (o.machine.context c .realm).general.arguments = Command.argumentsFor command d.rd ∧
    (o.machine.cpu c).inFlight =
      some ⟨command.code, Command.argumentsFor command d.rd, .timer⟩
  host : o.machine.context c .nonSecure = { m.context c .nonSecure with system := m.live }
  secure : o.machine.context c .secure = m.context c .secure
  live : o.machine.live = (m.context c .realm).system
  beside : m.KeptBeside o.machine c

/-- The interrupted world goes on, and nothing has changed but the timer and what the tracker
remembers of it. -/
structure WentBack (b : Board) (interrupted : World) (m : Machine) (o : Outcome Next) : Prop where
  result : o.result = .ok (.eret interrupted)
  machine : o.machine = { m with
    tracker := { m.tracker with
      timer := o.machine.tracker.timer, notBefore := o.machine.tracker.notBefore }
    armed := o.machine.armed }
  requests : ∃ update : Option TimerUpdate,
    o.requests = [.acknowledge, .endOfInterrupt b.interrupt] ++
      (update.map TimerUpdate.request).toList
  foreign : b.interrupt ≠ timerInterrupt →
    o.machine = m ∧ o.requests = [.acknowledge, .endOfInterrupt b.interrupt]

variable {b : Board} {m : Machine} {c : Core} {interrupted : World} {d : Deadline}

/-! ## Telling the tracker that the timer has fired -/

theorem mayIssue_iff : (interrupted = .nonSecure && (m.cpu c).inFlight.isNone) = true ↔
    interrupted = .nonSecure ∧ (m.cpu c).inFlight = none := by
  rw [Bool.and_eq_true, decide_eq_true_eq, Option.isNone_iff_eq_none]

theorem Tracker.evolve_fired (t : Tracker) (clock : Clock) (issue : Bool) :
    t.evolve [.timerFired clock issue, .timerReprogrammed] =
      (t.fire clock issue).1.reprogram.1 := rfl

/-- Whatever comes of it, the timer is programmed exactly once. -/
theorem requests_fired (b : Board) (m : Machine) (issue : Bool) :
    (tellAll [.timerFired b.clock issue, .timerReprogrammed] b m).requests =
      [(TimerUpdate.toward (m.tracker.fire b.clock issue).1.target?).request] := by
  have hreprogram := Tracker.reprogram_of_fired (m.tracker.fire_timer b.clock issue)
  simp [tellAll, Step.tell, Machine.tell, Tracker.handle, TrackerReply.update?, hreprogram]

theorem GeneralRegisters.arguments_load (r : GeneralRegisters) (args : Arguments) :
    (r.load args.toList).arguments = args := by
  apply Vector.ext
  intro i hi
  have hroom : i < generalCount := Nat.lt_trans hi (by decide)
  simp only [arguments, Vector.getElem_ofFn]
  rw [load_of_lt _ hroom (by simpa using hi), Vector.getElem_toList]

/-! ## The two outcomes -/

theorem Deadline.Issues.args {before after : Phase} {call : AutomaticCall}
    (h : d.Issues before call after) : call.args = call.command.argumentsFor d.rd := by
  cases h <;> rfl

/-- The phase of the realm decides which call is issued. -/
theorem Deadline.Issues.command_eq {before after : Phase} {call : AutomaticCall}
    (h : d.Issues before call after) :
    before = .awaitingRetention false ∧ call.command = .retentionGet ∧
        after = .awaitingRetention true ∨
      before = .awaitingDestruction d.due ∧ call.command = .dataDestroyAll ∧ after = .idle := by
  cases h with
  | question => exact Or.inl ⟨rfl, rfl, rfl⟩
  | destruction => exact Or.inr ⟨rfl, rfl, rfl⟩

/-- The call of a deadline that is found is forwarded once the tracker knows of the timer. -/
theorem handleInterrupt_of_found (ht : m.tracker.Consistent) (hc : b.core = c.val)
    (h : m.FindsHead c b interrupted d) :
    let told := m.told [.timerFired b.clock true, .timerReprogrammed]
    let o := handleInterrupt interrupted b m
    ∃ before call after, m.tracker.phase? d.rd = some before ∧ d.Issues before call after ∧
      told.tracker = (m.tracker.served d after).reprogram.1 ∧
      o.result = .ok (.eret .realm) ∧
      o.machine = told.forwarded c ⟨call.command.code, call.command.argumentsFor d.rd, .timer⟩
        (call.command.argumentsFor d.rd).toList ∧
      ∃ update : TimerUpdate, o.requests =
        [.acknowledge, .endOfInterrupt b.interrupt, update.request, .saveSystem,
          .restoreSystem] := by
  have hissue := mayIssue_iff.mpr ⟨h.host, h.idle⟩
  obtain ⟨before, call, after, hphase, hissues, hserved⟩ := ht.fire_served h.head h.due
  have hcode : callCode (call.command.argumentsFor d.rd) = call.command.code := by
    rw [← hissues.args, call.callCode_args]
  have htracker : (m.told [.timerFired b.clock true, .timerReprogrammed]).tracker =
      (m.tracker.served d after).reprogram.1 := by
    rw [Machine.tracker_told, Tracker.evolve_fired, hserved]
  rw [handleInterrupt_timer interrupted hc h.timer, hissue, hserved, Option.elim_some,
    forward_apply _ _ _ hc, hissues.args, hcode, requests_fired]
  exact ⟨before, call, after, hphase, hissues, htracker, rfl, rfl, _, rfl⟩

theorem issued_of_found (ht : m.tracker.Consistent) (hc : b.core = c.val)
    (h : m.FindsHead c b interrupted d) : Issued c d m (handleInterrupt interrupted b m) := by
  obtain ⟨before, call, after, hphase, hissues, htracker, hresult, hmachine, -⟩ :=
    handleInterrupt_of_found ht hc h
  have hmoved : (handleInterrupt interrupted b m).machine.tracker =
      (m.tracker.served d after).reprogram.1 := by
    rw [hmachine, ← htracker]
    rfl
  refine ⟨hresult, ?_, ⟨call.command, after, ?_, ?_, ?_, ?_⟩, ?_, ?_, ?_, ?_⟩
  · rw [hmoved, Tracker.reprogram_agenda]
    exact (List.cons_head?_tail h.head).symm
  · rw [hphase, Option.some.injEq, Option.some.injEq]
    exact hissues.command_eq
  · rw [hmoved, Tracker.reprogram_registry]
    rfl
  · rw [hmachine, Machine.context_forwarded_realm]
    exact GeneralRegisters.arguments_load _ _
  · rw [hmachine, Machine.inFlight_forwarded, if_pos rfl]
  · rw [hmachine, Machine.context_forwarded, if_pos rfl, Machine.context_told, Machine.live_told]
  · rw [hmachine, Machine.context_forwarded_secure, Machine.context_told]
  · rw [hmachine, Machine.live_forwarded, Machine.context_told]
  · exact obeys_handleInterrupt (Law.keptBeside_trapping c) interrupted b m hc

theorem Tracker.eq_of_kept {t t' : Tracker} (hregistry : t'.registry = t.registry)
    (hagenda : t'.agenda = t.agenda) :
    t' = { t with timer := t'.timer, notBefore := t'.notBefore } := by
  rw [← hregistry, ← hagenda]

/-- Events that leave the records and the deadlines alone leave all but the timer alone. -/
theorem Machine.told_eq_of_kept (m : Machine) {events : List TrackerEvent}
    (hregistry : (m.told events).tracker.registry = m.tracker.registry)
    (hagenda : (m.told events).tracker.agenda = m.tracker.agenda) :
    m.told events = { m with
      tracker := { m.tracker with
        timer := (m.told events).tracker.timer, notBefore := (m.told events).tracker.notBefore }
      armed := (m.told events).armed } := by
  have htold := m.told_eq events
  rwa [← tracker_told, Tracker.eq_of_kept hregistry hagenda] at htold

theorem wentBack_of_not_found (hc : b.core = c.val)
    (h : ¬ ∃ d, m.FindsHead c b interrupted d) :
    WentBack b interrupted m (handleInterrupt interrupted b m) := by
  by_cases htimer : b.interrupt = timerInterrupt
  · -- Either no call can be issued or nothing is due, and in both cases the tracker has none.
    have hnothing : (interrupted = .nonSecure && (m.cpu c).inFlight.isNone) = true →
        (m.tracker.agenda.head?.filter fun d => d.due ≤ b.clock.now) = none := by
      intro hissue
      obtain ⟨hhost, hidle⟩ := mayIssue_iff.mp hissue
      refine Agenda.filter_head?_of_early ?_
      rintro ⟨d, hd, hdue⟩
      exact h ⟨d, htimer, hhost, hidle, hd, hdue⟩
    obtain ⟨hcall, hregistry, hagenda⟩ := m.tracker.fire_none b.clock _ hnothing
    rw [handleInterrupt_timer interrupted hc htimer, hcall, Option.elim_none, requests_fired]
    refine ⟨rfl, ?_, ⟨some _, rfl⟩, fun hforeign => absurd htimer hforeign⟩
    exact m.told_eq_of_kept
      ((m.tracker.fire b.clock _).1.reprogram_registry.trans hregistry)
      ((m.tracker.fire b.clock _).1.reprogram_agenda.trans hagenda)
  · rw [handleInterrupt_foreign interrupted htimer]
    exact ⟨rfl, rfl, ⟨none, rfl⟩, fun _ => ⟨rfl, rfl⟩⟩

/-! ## Every interrupt -/

/-- The interrupt that is acknowledged is ended at once, and no other one later. -/
theorem acknowledged_first (ht : m.tracker.Consistent) (hc : b.core = c.val)
    (interrupted : World) :
    ∃ rest, (handleInterrupt interrupted b m).requests =
        .acknowledge :: .endOfInterrupt b.interrupt :: rest ∧
      ∀ r ∈ rest, r ≠ .acknowledge ∧ ∀ id, r ≠ .endOfInterrupt id := by
  have htimer (update : TimerUpdate) :
      update.request ≠ .acknowledge ∧ ∀ id, update.request ≠ .endOfInterrupt id := by
    cases update <;> simp [TimerUpdate.request]
  by_cases hfound : ∃ d, m.FindsHead c b interrupted d
  · obtain ⟨d, hfound⟩ := hfound
    obtain ⟨before, call, after, -, -, -, -, -, update, hrequests⟩ :=
      handleInterrupt_of_found ht hc hfound
    exact ⟨_, hrequests, by simp [htimer]⟩
  · obtain ⟨update, hrequests⟩ := (wentBack_of_not_found hc hfound).requests
    refine ⟨_, hrequests, ?_⟩
    cases update <;> simp [htimer]

/-- A call is issued only for what was found: otherwise the agenda stays as it is. -/
theorem Issued.found (h : Issued c d m (handleInterrupt interrupted b m)) (hc : b.core = c.val) :
    m.FindsHead c b interrupted d := by
  by_cases hfound : ∃ d', m.FindsHead c b interrupted d'
  · obtain ⟨d', hfound⟩ := hfound
    have hhead : m.tracker.agenda.head? = some d := by
      rw [Agenda.head?, h.taken, List.head?_cons]
    obtain rfl : d' = d := Option.some.inj (hfound.head.symm.trans hhead)
    exact hfound
  · have hagenda : (handleInterrupt interrupted b m).machine.tracker.agenda = m.tracker.agenda := by
      rw [(wentBack_of_not_found hc hfound).machine]
    have htaken := h.taken
    rw [hagenda] at htaken
    exact absurd htaken (List.cons_ne_self d _).symm

/-- An interrupt is acknowledged and ended before anything else. It leads to the call of a
deadline exactly if it is the one of the timer, was taken from the host on a core with no call
in flight, and the deadline is the first that is queued and has fallen due. The call is in
flight then, the deadline is gone, and of the records only that of its realm is changed. In all
other cases the interrupted world goes on, and nothing but the timer is touched. -/
theorem timer_issues_iff_found (run : List Episode) (interrupted : World) (hc : b.core = c.val) :
    let m := ({} : Machine).after run
    let o := handleInterrupt interrupted b m
    (∃ rest, o.requests = .acknowledge :: .endOfInterrupt b.interrupt :: rest ∧
        ∀ r ∈ rest, r ≠ .acknowledge ∧ ∀ id, r ≠ .endOfInterrupt id) ∧
      (∀ d, Issued c d m o ↔ m.FindsHead c b interrupted d) ∧
      ((¬ ∃ d, m.FindsHead c b interrupted d) → WentBack b interrupted m o) ∧
      ∀ d, m.tracker.agenda.head? = some d → ∀ d' ∈ m.tracker.agenda.entries, d.due ≤ d'.due := by
  intro m o
  have ht : m.tracker.Consistent := consistent_after run
  refine ⟨acknowledged_first ht hc interrupted, ?_, wentBack_of_not_found hc, ?_⟩
  · intro d
    exact ⟨fun hissued => hissued.found hc, issued_of_found ht hc⟩
  · intro d hd d' hd'
    obtain ⟨due, hearliest, hle⟩ := ht.agenda.earliest?_le hd'
    rw [Agenda.earliest?, hd, Option.map_some] at hearliest
    exact Option.some.inj hearliest ▸ hle

open Scenario in
/-- A realm is asked for its retention two ticks after its creation. While the core is in the
realm world the timer finds nothing there that it could do. -/
theorem timer_issues_iff_found_of_retention :
    let created := [hostCall 0 0 .realmCreate 0x1000, completion 0 0 0]
    let m := ({} : Machine).after created
    let busy := ({} : Machine).after (created ++ [hostCall 0 1 .version 0])
    let b := (timerInterruptsHost 0 2).board
    Issued 0 ⟨2, 0x1000⟩ m (handleInterrupt .nonSecure b m) ∧
      WentBack b .realm busy (handleInterrupt .realm b busy) := by
  intro created m busy b
  have hc : b.core = (0 : Core).val := (timerInterruptsHost 0 2).here
  have hfound : m.FindsHead 0 b .nonSecure ⟨2, 0x1000⟩ :=
    ⟨by decide, rfl, by decide, by decide, by decide⟩
  have hbusy : ¬ ∃ d, busy.FindsHead 0 b .realm d := by
    rintro ⟨d, hfound⟩
    exact absurd hfound.host (by decide)
  obtain ⟨-, hissued, -⟩ := timer_issues_iff_found created .nonSecure hc
  obtain ⟨-, -, hback, -⟩ := timer_issues_iff_found (created ++ [hostCall 0 1 .version 0]) .realm hc
  exact ⟨(hissued _).mpr hfound, hback hbusy⟩

end RealmDispatch
