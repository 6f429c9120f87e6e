import Mathlib.Logic.Function.Basic
import Mathlib.Logic.Relation
import RealmDispatch.Proofs.CallDispositions
import RealmDispatch.Proofs.RetentionQuestion
import RealmDispatch.Scenario.Script

/-!
# Cores that run in the world the dispatcher sent them to

Every core runs in one world and traps into the dispatcher from there, in any
order and at any time. The answer to a trap says where the core runs next. In
between, software runs on the core and changes the live registers; it goes back
and forth between the normal and the secure world without the dispatcher, but it
neither enters nor leaves the realm world.

A core then runs in the realm world exactly as long as it has a call in flight,
although neither is stored beside the other. The invariant behind this also
follows the question for a retention: the tracker takes it for asked only while
it is in flight on some core, whatever the other cores do to the realm meanwhile.
-/
namespace RealmDispatch

/-- The machine, and the world each core runs in. -/
structure System where
  machine : Machine
  world : Core → World

/-- What takes a core to the dispatcher. -/
inductive Trap where
  | call (args : Arguments) (flags : CallFlags)
  | interrupt

namespace Trap

def step (w : World) : Trap → Step Next
  | call args flags => handleCall args flags
  | interrupt => handleInterrupt w

/-- Whether a core that runs in `w` can trap so. A call says where it comes from;
the realm manager does not report the end of its boot again. -/
def From (w : World) : Trap → Prop
  | call args flags => flags.world = w ∧ ¬ Leaves args flags
  | interrupt => True

end Trap

namespace System

/-- How the dispatcher answers a core that traps. -/
def outcome (s : System) (c : Core) (trap : Trap) (b : Board) : Outcome Next :=
  trap.step (s.world c) b s.machine

/-- One step of one core, with anything the board may answer. -/
inductive Moves : System → System → Prop
  | trap {s : System} {c : Core} {trap : Trap} {b : Board} {w : World} :
      b.core = c.val → trap.From (s.world c) → (s.outcome c trap b).result = .ok (.eret w) →
      Moves s ⟨(s.outcome c trap b).machine, Function.update s.world c w⟩
  | unseen {s : System} {c : Core} {w : World} {live : SystemRegisters} :
      (s.world c = .realm ↔ w = .realm) →
      Moves s ⟨{ s.machine with live }, Function.update s.world c w⟩

/-- Where a run begins: nothing is under way. The tracker may have any history. -/
structure Started (s : System) : Prop where
  outside : ∀ c, s.world c ≠ .realm
  unforwarded : ∀ c, (s.machine.cpu c).inFlight = none
  unentered : ∀ c, (s.machine.slot c).pending = false
  tracked : ∃ events, s.machine.tracker = ({} : Tracker).evolve events
  unasked : ∀ x ∈ s.machine.tracker.registry.records, x.phase ≠ .awaitingRetention true

/-! ## The invariant, and what a step has to keep of it -/

/-- The core has a call in flight that asks the realm for its retention. -/
def AsksOn (m : Machine) (c : Core) (rd : Descriptor) : Prop :=
  ∃ call, (m.cpu c).inFlight = some call ∧ call.Asks rd

/-- Worlds, calls in flight and the tracker fit each other. -/
structure Settled (s : System) : Prop where
  tracker : s.machine.tracker.Consistent
  inFlight : ∀ c, (s.machine.cpu c).inFlight.isSome = true ↔ s.world c = .realm
  asked : ∀ rd, s.machine.tracker.Asked rd → ∃ c, AsksOn s.machine c rd

theorem Started.settled {s : System} (h : s.Started) : s.Settled where
  tracker := by
    obtain ⟨events, hevents⟩ := h.tracked
    rw [hevents]
    exact Tracker.consistent_evolve Tracker.consistent_empty events
  inFlight := by
    intro c
    simp [h.unforwarded c, h.outside c]
  asked := by
    intro rd hasked
    obtain ⟨x, hx, hphase⟩ := Option.map_eq_some_iff.mp hasked
    exact absurd hphase (h.unasked x (Registry.mem_of_lookup? hx))

/-- What is left to check of a step when the core goes on in `w`. -/
structure Keeps (s : System) (c : Core) (w : World) (m : Machine) : Prop where
  tracker : m.tracker.Consistent
  here : (m.cpu c).inFlight.isSome = true ↔ w = .realm
  other : ∀ d, d ≠ c → (m.cpu d).inFlight = (s.machine.cpu d).inFlight
  asked : ∀ rd, m.tracker.Asked rd →
    AsksOn m c rd ∨ s.machine.tracker.Asked rd ∧ ¬ AsksOn s.machine c rd

variable {s s' : System} {c : Core} {w : World} {m : Machine}

theorem Settled.of_keeps (h : s.Settled) (hm : s.Keeps c w m) :
    Settled ⟨m, Function.update s.world c w⟩ where
  tracker := hm.tracker
  inFlight := by
    intro d
    dsimp only
    by_cases hd : d = c
    · subst hd
      rw [Function.update_self]
      exact hm.here
    · rw [Function.update_of_ne hd, hm.other d hd]
      exact h.inFlight d
  asked := by
    intro rd hasked
    rcases hm.asked rd hasked with hhere | ⟨hbefore, hnot⟩
    · exact ⟨c, hhere⟩
    · -- The question is out on another core, and this step leaves it there.
      obtain ⟨d, call, hcall, hasks⟩ := h.asked rd hbefore
      have hd : d ≠ c := by
        intro hd
        subst hd
        exact hnot ⟨call, hcall, hasks⟩
      exact ⟨d, call, (hm.other d hd).trans hcall, hasks⟩

/-- A step that leaves the calls in flight alone and asks no realm. -/
theorem Settled.keeps_of_unforwarded (h : s.Settled) (ht : m.tracker.Consistent)
    (hasked : ∀ rd, m.tracker.Asked rd → s.machine.tracker.Asked rd)
    (hcpu : ∀ d, (m.cpu d).inFlight = (s.machine.cpu d).inFlight)
    (hw : s.world c = .realm ↔ w = .realm) : s.Keeps c w m where
  tracker := ht
  here := by
    rw [hcpu, h.inFlight]
    exact hw
  other := fun d _ => hcpu d
  asked := by
    intro rd hrd
    by_cases hhere : AsksOn s.machine c rd
    · obtain ⟨call, hcall, hasks⟩ := hhere
      exact Or.inl ⟨call, (hcpu c).trans hcall, hasks⟩
    · exact Or.inr ⟨hasked rd hrd, hhere⟩

/-- A step that forwards a call on a core that has none in flight. -/
theorem keeps_of_forwarded {t : Tracker} {call : PendingCall}
    (hfree : (s.machine.cpu c).inFlight = none) (ht : t.Consistent) (htracker : m.tracker = t)
    (hcpu : ∀ d, (m.cpu d).inFlight = if d = c then some call else (s.machine.cpu d).inFlight)
    (hasked : ∀ rd, t.Asked rd → s.machine.tracker.Asked rd ∨ call.Asks rd) :
    s.Keeps c .realm m where
  tracker := htracker ▸ ht
  here := by simp [hcpu]
  other := by
    intro d hd
    rw [hcpu, if_neg hd]
  asked := by
    intro rd hrd
    rcases hasked rd (htracker ▸ hrd) with hbefore | hasks
    · right
      refine ⟨hbefore, ?_⟩
      intro hhere
      obtain ⟨earlier, hearlier, -⟩ := hhere
      rw [hfree] at hearlier
      cases hearlier
    · exact Or.inl ⟨call, by rw [hcpu, if_pos rfl], hasks⟩

/-! ## The traps -/

/-- What a trap comes to: the core goes on somewhere, nothing is reported amiss, and
a call in flight stays so or was completed. -/
structure Continues (s : System) (c : Core) (o : Outcome Next) (w : World) : Prop where
  result : o.result = .ok (.eret w)
  notices : o.notices.any Notice.isMismatch = false
  keeps : s.Keeps c w o.machine
  kept : ∀ call, (s.machine.cpu c).inFlight = some call →
    (o.machine.cpu c).inFlight = some call ∨ (o.machine.cpu c).inFlight = none

theorem Settled.continues_forward (h : s.Settled) {b : Board} {args : Arguments} {hint : Bool}
    {origin : Origin} {events : List TrackerEvent} {rs : List Request} {ns : List Notice}
    (hc : b.core = c.val) (hw : s.world c = .nonSecure)
    (hns : ns.any Notice.isMismatch = false)
    (hasked : ∀ rd, (s.machine.tracker.evolve events).Asked rd →
      s.machine.tracker.Asked rd ∨ PendingCall.Asks ⟨callCode args, args, origin⟩ rd) :
    s.Continues c ((forward args hint origin b (s.machine.told events)).after rs ns) .realm := by
  have hfree : (s.machine.cpu c).inFlight = none := by
    rw [← Option.not_isSome_iff_eq_none, h.inFlight, hw]
    decide
  rw [forward_apply args hint origin hc]
  refine ⟨rfl, ?_, ?_, ?_⟩
  · simp [hfree, hns]
  · refine keeps_of_forwarded hfree (Tracker.consistent_evolve h.tracker events) ?_ ?_ hasked
    · simp [Machine.tracker_told]
    · simp
  · intro call hcall
    rw [hfree] at hcall
    cases hcall

theorem Settled.continues_complete (h : s.Settled) {b : Board} {args : Arguments}
    {flags : CallFlags} (hc : b.core = c.val) (hw : s.world c = .realm) :
    s.Continues c (complete args flags b s.machine) .nonSecure := by
  obtain ⟨call, hcall⟩ := Option.isSome_iff_exists.mp ((h.inFlight c).mpr hw)
  rw [complete_apply hc hcall]
  refine ⟨rfl, ?_, ⟨?_, ?_, ?_, ?_⟩, ?_⟩
  · exact isMismatch_cons rfl
      (isMismatch_append (isMismatch_completionNotices call _) (isMismatch_tellAll _ b _))
  · rw [Machine.tracker_completed]
    exact Tracker.consistent_evolve h.tracker _
  · simp [Machine.inFlight_completed]
  · intro d hd
    rw [Machine.inFlight_completed, if_neg hd]
  · intro rd hasked
    rw [Machine.tracker_completed] at hasked
    obtain ⟨hbefore, hnot⟩ := h.tracker.asked_of_completion hasked
    right
    refine ⟨hbefore, ?_⟩
    intro hhere
    obtain ⟨call', hcall', hasks⟩ := hhere
    obtain rfl : call = call' := Option.some.inj (hcall.symm.trans hcall')
    exact hnot hasks
  · intro _ _
    right
    rw [Machine.inFlight_completed, if_pos rfl]

theorem Settled.continues_stays (h : s.Settled) {o : Outcome Next}
    (ho : Stays c (s.world c) s.machine o) : s.Continues c o (s.world c) := by
  obtain ⟨values, hm⟩ := ho.machine
  refine ⟨ho.result, ho.notices, ?_, ?_⟩
  · rw [hm]
    exact h.keeps_of_unforwarded h.tracker (fun _ hrd => hrd) (by simp) Iff.rfl
  · intro call hcall
    left
    rw [hm, Machine.inFlight_written, hcall]

/-- Whatever the tracker is told without asking a realm, the core goes on as it was. -/
theorem Settled.continues_told (h : s.Settled) (events : List TrackerEvent) {rs : List Request}
    {ns : List Notice} (hns : ns.any Notice.isMismatch = false)
    (hasked : ∀ rd, (s.machine.tracker.evolve events).Asked rd → s.machine.tracker.Asked rd) :
    s.Continues c
      { result := .ok (.eret (s.world c))
        machine := s.machine.told events
        requests := rs
        notices := ns } (s.world c) := by
  have htracker : (s.machine.told events).tracker = s.machine.tracker.evolve events :=
    s.machine.tracker_told events
  refine ⟨rfl, hns, ?_, ?_⟩
  · refine h.keeps_of_unforwarded ?_ ?_ (by simp) Iff.rfl
    · rw [htracker]
      exact Tracker.consistent_evolve h.tracker events
    · intro rd hrd
      rw [htracker] at hrd
      exact hasked rd hrd
  · intro call hcall
    left
    rw [Machine.cpu_told, hcall]

theorem Settled.continues_call (h : s.Settled) {b : Board} {args : Arguments}
    {flags : CallFlags} (hc : b.core = c.val) (hw : flags.world = s.world c)
    (hleaves : ¬ Leaves args flags) :
    ∃ w, s.Continues c (handleCall args flags b s.machine) w := by
  by_cases hforwards : Forwards s.machine args flags
  · refine ⟨.realm, ?_⟩
    rw [handleCall_forwards hforwards]
    refine h.continues_forward hc (hw.symm.trans hforwards.2.1) ?_ ?_
    · exact isMismatch_cons rfl (isMismatch_tellAll _ b _)
    · exact fun rd hasked => Or.inl (h.tracker.asked_of_observed hasked)
  · by_cases hcompletes : Completes s.machine args flags
    · refine ⟨.nonSecure, ?_⟩
      rw [handleCall_completes hcompletes]
      exact h.continues_complete hc (hw.symm.trans hcompletes.2.1)
    · exact ⟨_, h.continues_stays (hw ▸ handleCall_stays hc hforwards hcompletes hleaves)⟩

theorem Settled.continues_interrupt (h : s.Settled) {b : Board} (hc : b.core = c.val) :
    ∃ w, s.Continues c (handleInterrupt (s.world c) b s.machine) w := by
  by_cases htimer : b.interrupt = timerInterrupt
  · have houtcome := handleInterrupt_timer (m := s.machine) (s.world c) hc htimer
    generalize hissue : (decide (s.world c = .nonSecure) && (s.machine.cpu c).inFlight.isNone) =
      issue at houtcome
    have hasked (rd : Descriptor) (hrd : (s.machine.tracker.evolve
        [.timerFired b.clock issue, .timerReprogrammed]).Asked rd) := h.tracker.asked_of_fired hrd
    cases hcall : (s.machine.tracker.fire b.clock issue).2.2 with
    | none =>
        simp only [hcall, Option.elim_none, Outcome.after_mk] at houtcome
        rw [houtcome]
        refine ⟨s.world c, h.continues_told _ ?_ ?_⟩
        · exact isMismatch_append (isMismatch_tellAll _ b _) rfl
        · intro rd hrd
          exact (hasked rd hrd).resolve_right (by simp [hcall])
    | some call =>
        have hw : s.world c = .nonSecure := by
          rw [Tracker.issue_of_fire hcall, Bool.and_eq_true, decide_eq_true_eq] at hissue
          exact hissue.1
        simp only [hcall, Option.elim_some, Outcome.after_after] at houtcome
        rw [houtcome]
        refine ⟨.realm, h.continues_forward hc hw ?_ ?_⟩
        · exact isMismatch_append (isMismatch_tellAll _ b _) (isMismatch_cons rfl rfl)
        · intro rd hrd
          refine (hasked rd hrd).imp_right ?_
          intro hask
          rw [hcall, Option.some.injEq] at hask
          subst hask
          exact ⟨rfl, rfl⟩
  · rw [handleInterrupt_foreign (s.world c) htimer]
    exact ⟨s.world c, h.continues_told [] rfl fun _ hrd => hrd⟩

theorem Settled.continues (h : s.Settled) {trap : Trap} {b : Board} (hc : b.core = c.val)
    (hfrom : trap.From (s.world c)) : ∃ w, s.Continues c (s.outcome c trap b) w := by
  cases trap with
  | call args flags => exact h.continues_call hc hfrom.1 hfrom.2
  | interrupt => exact h.continues_interrupt hc

/-! ## Runs -/

theorem Settled.moves (h : s.Settled) (hmove : Moves s s') : s'.Settled := by
  cases hmove with
  | trap hc hfrom hresult =>
      obtain ⟨w', hcontinues⟩ := h.continues hc hfrom
      have hw := hcontinues.result.symm.trans hresult
      simp only [Except.ok.injEq, Next.eret.injEq] at hw
      subst hw
      exact h.of_keeps hcontinues.keeps
  | unseen hw =>
      exact h.of_keeps (h.keeps_of_unforwarded h.tracker (fun _ hrd => hrd) (fun _ => rfl) hw)

theorem Started.settled_of_run {s₀ : System} (hstart : s₀.Started)
    (hrun : Relation.ReflTransGen Moves s₀ s) : s.Settled := by
  induction hrun with
  | refl => exact hstart.settled
  | tail _ hmove ih => exact ih.moves hmove

/-- At every point of every run a core has a call in flight exactly if it runs in the
realm world. So a trap is always answered with a world to go on in, nothing in
flight is displaced, a completion finds its call unless the boot has failed, and
whenever the tracker waits for the answer of a realm that was asked, the question
is in flight on some core. -/
theorem in_flight_iff_realm {s₀ s : System} (hstart : s₀.Started)
    (hrun : Relation.ReflTransGen Moves s₀ s) :
    (∀ c, (s.machine.cpu c).inFlight.isSome = true ↔ s.world c = .realm) ∧
      (∀ c trap b, b.core = c.val → trap.From (s.world c) →
        (∃ w, (s.outcome c trap b).result = .ok (.eret w)) ∧
          (s.outcome c trap b).notices.any Notice.isMismatch = false ∧
          ∀ d call, (s.machine.cpu d).inFlight = some call →
            ((s.outcome c trap b).machine.cpu d).inFlight = some call ∨
              d = c ∧ ((s.outcome c trap b).machine.cpu d).inFlight = none) ∧
      (∀ c args flags b, b.core = c.val → flags.world = s.world c →
        Completes s.machine args flags →
          (s.outcome c (.call args flags) b).result = .ok (.eret .nonSecure) ∧
            ((s.outcome c (.call args flags) b).machine.cpu c).inFlight = none) ∧
      ∀ x ∈ s.machine.tracker.registry.records, x.phase = .awaitingRetention true →
        ∃ c call, (s.machine.cpu c).inFlight = some call ∧
          call.code = Command.retentionGet.code ∧ call.args.x1 = x.rd := by
  have h : s.Settled := hstart.settled_of_run hrun
  refine ⟨h.inFlight, ?_, ?_, ?_⟩
  · intro c trap b hc hfrom
    obtain ⟨w, hcontinues⟩ := h.continues hc hfrom
    refine ⟨⟨w, hcontinues.result⟩, hcontinues.notices, ?_⟩
    intro d call hcall
    by_cases hd : d = c
    · subst hd
      exact (hcontinues.kept call hcall).imp_right fun hnone => ⟨rfl, hnone⟩
    · exact Or.inl ((hcontinues.keeps.other d hd).trans hcall)
  · intro c args flags b hc hworld hcompletes
    have hcontinues : s.Continues c (complete args flags b s.machine) .nonSecure :=
      h.continues_complete hc (hworld.symm.trans hcompletes.2.1)
    rw [outcome, Trap.step, handleCall_completes hcompletes]
    refine ⟨hcontinues.result, ?_⟩
    rw [← Option.not_isSome_iff_eq_none, hcontinues.keeps.here]
    exact fun hw => nomatch hw
  · intro x hx hphase
    have hasked : s.machine.tracker.Asked x.rd := by
      rw [Tracker.Asked, Tracker.phase?, h.tracker.registry.lookup?_of_mem hx, Option.map_some,
        hphase]
    exact h.asked x.rd hasked

/-- One core is sent to ask a realm, and another one to destroy the same realm. -/
theorem in_flight_iff_realm_of_two_cores :
    ∃ s₀ s : System, s₀.Started ∧ Relation.ReflTransGen Moves s₀ s ∧
      s.world 3 = .realm ∧ s.world 5 = .realm ∧ s.world 7 = .secure ∧
      (∀ c, (s.machine.cpu c).inFlight.isSome = true ↔ s.world c = .realm) ∧
      ∃ c call, (s.machine.cpu c).inFlight = some call ∧
        call.code = Command.retentionGet.code ∧ call.args.x1 = 0x1000 := by
  let board (c : Nat) : Board := { core := c, clock := ⟨9, 1⟩ : Scenario.Readings }.board 0
  let destroy : Trap :=
    .call (Arguments.ofList [Command.realmDestroy.code.toUInt64, 0x1000]) ⟨CallFlags.nonSecureBit⟩
  let events : List TrackerEvent := [.creationObserved 0x1000, .creationCompleted 0x1000 0 ⟨0, 1⟩]
  let s₀ : System := ⟨{ tracker := ({} : Tracker).evolve events }, fun _ => .nonSecure⟩
  let s₁ : System := ⟨s₀.machine, Function.update s₀.world 7 .secure⟩
  let s₂ : System :=
    ⟨(s₁.outcome 3 .interrupt (board 3)).machine, Function.update s₁.world 3 .realm⟩
  let s₃ : System :=
    ⟨(s₂.outcome 5 destroy (board 5)).machine, Function.update s₂.world 5 .realm⟩
  have hstart : s₀.Started := by
    constructor
    · intro c hw
      cases hw
    · decide
    · decide
    · exact ⟨events, rfl⟩
    · decide
  have hmove₁ : Moves s₀ s₁ := .unseen (by decide)
  have hmove₂ : Moves s₁ s₂ := .trap rfl trivial (by decide)
  have hmove₃ : Moves s₂ s₃ := .trap rfl ⟨rfl, fun h => nomatch h.1⟩ (by decide)
  have hrun : Relation.ReflTransGen Moves s₀ s₃ :=
    ((Relation.ReflTransGen.single hmove₁).tail hmove₂).tail hmove₃
  have hrecord : (⟨0x1000, 0, .awaitingRetention true⟩ : Record) ∈
      s₃.machine.tracker.registry.records := by decide
  obtain ⟨hworlds, -, -, hasked⟩ := in_flight_iff_realm hstart hrun
  exact ⟨s₀, s₃, hstart, hrun, rfl, rfl, rfl, hworlds, hasked _ hrecord rfl⟩

end System

end RealmDispatch
