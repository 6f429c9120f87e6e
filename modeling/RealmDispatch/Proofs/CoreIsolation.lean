import RealmDispatch.Proofs.BootOutcomes
import RealmDispatch.Proofs.CallDispositions
import RealmDispatch.Proofs.WorldInterleaving
import RealmDispatch.Proofs.WorldRoundTrip

/-!
# What a trap leaves alone

A trap concerns the core it is taken on. Everything kept for the other cores stays as it
is, and so do all synchronous entries, the entry point and the mark of a failed boot.
Of the three contexts of its own core a trap writes some of the first general
registers or the block of system registers. Which of them depends on what becomes of
the trap, so its deed is named first, and a table says what each deed may write.

The frame is a law of calls and interrupts. The table is read off the closed forms of the
outcomes.
-/
namespace RealmDispatch
open Step

/-! ## The frame -/

/-- Nothing differs but the core `c`, the tracker, the timer and the live registers. -/
structure Machine.KeptBeside (m m' : Machine) (c : Core) : Prop where
  bootFailed : m'.bootFailed = m.bootFailed
  entryPoint : m'.entryPoint = m.entryPoint
  slots : m'.slots = m.slots
  cpu : ∀ d, d ≠ c → m'.cpu d = m.cpu d

theorem Machine.keptBeside_setCpu (m : Machine) (c : Core) (cpu : Cpu) :
    m.KeptBeside (m.setCpu c cpu) c := by
  refine ⟨rfl, rfl, rfl, ?_⟩
  intro d hd
  rw [cpu_setCpu, if_neg hd]

/-- Neither calls nor interrupts touch another core. -/
theorem Law.keptBeside_trapping (c : Core) :
    Law.Trapping (fun m _ m' => m.KeptBeside m' c) c where
  nothing _ := ⟨rfl, rfl, rfl, fun _ _ => rfl⟩
  chained h h' :=
    { bootFailed := h'.bootFailed.trans h.bootFailed
      entryPoint := h'.entryPoint.trans h.entryPoint
      slots := h'.slots.trans h.slots
      cpu := fun d hd => (h'.cpu d hd).trans (h.cpu d hd) }
  request _ _ _ := ⟨rfl, rfl, rfl, fun _ _ => rfl⟩
  context m _ _ := m.keptBeside_setCpu c _
  next m _ := m.keptBeside_setCpu c _
  live _ _ := ⟨rfl, rfl, rfl, fun _ _ => rfl⟩
  inFlight m _ := m.keptBeside_setCpu c _
  tell _ _ := ⟨rfl, rfl, rfl, fun _ _ => rfl⟩

theorem Trap.keptBeside (trap : Trap) (w : World) {b : Board} {c : Core} (m : Machine)
    (hc : b.core = c.val) : m.KeptBeside (trap.step w b m).machine c := by
  cases trap with
  | call args flags => exact obeys_handleCall (Law.keptBeside_trapping c) args flags b m hc
  | interrupt => exact obeys_handleInterrupt (Law.keptBeside_trapping c) w b m hc

/-! ## Deeds -/

/-- What becomes of a trap, as far as saved contexts are concerned. -/
inductive Deed where
  | refuses (caller : World)
  | forwards
  | completes (origin : Origin)
  | serves
  | leaves
  | goesBack
deriving DecidableEq, Repr

namespace Deed

/-- How many registers of a world, from `x0` upwards, a deed may write. -/
def registers : Deed → World → Nat
  | refuses caller, w => if w = caller then 1 else 0
  | forwards, .realm => 8
  | completes .host, .nonSecure => 5
  | serves, .realm => 3
  | _, _ => 0

/-- Whether a deed saves the live system registers for a world. -/
def savesSystem : Deed → World → Bool
  | forwards, .nonSecure => true
  | completes _, .realm => true
  | _, _ => false

theorem registers_le (deed : Deed) (w : World) : deed.registers w ≤ 8 := by
  unfold registers
  split
  · split_ifs <;> omega
  all_goals omega

end Deed

namespace Trap

/-- The call that an interrupt taken from `w` forwards. -/
def issued? (w : World) (b : Board) (m : Machine) (c : Core) : Option AutomaticCall :=
  if b.interrupt = timerInterrupt then
    (m.tracker.fire b.clock (w = .nonSecure && (m.cpu c).inFlight.isNone)).2.2
  else none

/-- The deed of a trap, taken on `c` from `w`. -/
inductive Does (w : World) (b : Board) (m : Machine) (c : Core) : Trap → Deed → Prop
  | refuses {args : Arguments} {flags : CallFlags} : Refused b m c args flags →
      Does w b m c (.call args flags) (.refuses flags.world)
  | forwards {args : Arguments} {flags : CallFlags} : Forwards m args flags →
      Does w b m c (.call args flags) .forwards
  | completes {args : Arguments} {flags : CallFlags} {call : PendingCall} :
      Completes m args flags → (m.cpu c).inFlight = some call →
      Does w b m c (.call args flags) (.completes call.origin)
  | serves {args : Arguments} {flags : CallFlags} {service : Service} :
      Served b m args flags service → Does w b m c (.call args flags) .serves
  | leaves {args : Arguments} {flags : CallFlags} : m.bootFailed = false →
      Leaves args flags → Does w b m c (.call args flags) .leaves
  | issues {call : AutomaticCall} : issued? w b m c = some call →
      Does w b m c .interrupt .forwards
  | goesBack : issued? w b m c = none → Does w b m c .interrupt .goesBack

end Trap

/-- Every context of a core is kept but for what the deed may write. -/
def Deed.Spares (deed : Deed) (c : Core) (m m' : Machine) : Prop :=
  ∀ w, (m.context c w).KeptBut (m'.context c w) (deed.registers w) (deed.savesSystem w)

section Spares
variable {m : Machine} {c : Core}

theorem spares_of_unchanged (deed : Deed) {m' : Machine} (h : ∀ w, m'.context c w = m.context c w) :
    deed.Spares c m m' := by
  intro w
  rw [h]
  exact .refl _

theorem spares_written {deed : Deed} {w : World} {values : List UInt64}
    (h : values.length ≤ deed.registers w) : deed.Spares c m (m.written c w values) := by
  intro v
  rw [Machine.context_written]
  by_cases hv : v = w
  · subst hv
    rw [if_pos ⟨rfl, rfl⟩]
    exact .load _ h
  · rw [if_neg (fun hcv => hv hcv.2)]
    exact .refl _

theorem spares_forwarded (events : List TrackerEvent) (call : PendingCall) (args : Arguments) :
    Deed.forwards.Spares c m ((m.told events).forwarded c call args.toList) := by
  intro w
  cases w with
  | secure =>
      rw [Machine.context_forwarded_secure, Machine.context_told]
      exact .refl _
  | nonSecure =>
      rw [Machine.context_forwarded, if_pos rfl, Machine.context_told]
      exact .saved _ _
  | realm =>
      rw [Machine.context_forwarded_realm, Machine.context_told]
      exact .load _ (Nat.le_of_eq Vector.length_toList)

theorem spares_completed (call : PendingCall) (args : Arguments) (clock : Clock) :
    (Deed.completes call.origin).Spares c m (m.completed c call args clock) := by
  intro w
  cases w with
  | secure =>
      rw [Machine.context_completed_secure]
      exact .refl _
  | nonSecure =>
      rw [Machine.context_completed_nonSecure, PendingCall.answered]
      cases call.origin with
      | host => exact .load _ (Nat.le_refl 5)
      | timer => exact .refl _
  | realm =>
      rw [Machine.context_completed_realm]
      exact .saved _ _

end Spares

namespace Trap
variable {b : Board} {c : Core}

theorem call_spares (w : World) (m : Machine) (args : Arguments) (flags : CallFlags)
    (hc : b.core = c.val) : ∃ deed, Does w b m c (.call args flags) deed ∧
      deed.Spares c m (handleCall args flags b m).machine := by
  cases disposition b m c args flags with
  | forwarded h =>
      refine ⟨.forwards, .forwards h, ?_⟩
      rw [handleCall_forwards h, forward_apply _ _ _ hc]
      exact spares_forwarded _ _ _
  | @completed call h hcall =>
      refine ⟨.completes call.origin, .completes h hcall, ?_⟩
      rw [handleCall_completes h, complete_apply hc hcall]
      exact spares_completed call args b.clock
  | left hboot h =>
      refine ⟨.leaves, .leaves hboot h, ?_⟩
      rw [handleCall_of_leaves hboot h]
      refine spares_of_unchanged _ fun v => ?_
      exact congrArg (fun m : Machine => m.context c v) (machine_leaveEntry args.x1 hc)
  | served h =>
      obtain ⟨values, requests, notices, hlen, -, hcall⟩ := handleCall_served hc h
      refine ⟨.serves, .serves h, ?_⟩
      rw [hcall]
      exact spares_written hlen
  | refused h =>
      obtain ⟨notices, -, hcall⟩ := handleCall_refused hc h
      refine ⟨.refuses flags.world, .refuses h, ?_⟩
      rw [hcall]
      exact spares_written (Nat.le_of_eq (if_pos rfl).symm)

theorem interrupt_spares (w : World) (m : Machine) (hc : b.core = c.val) :
    ∃ deed, Does w b m c .interrupt deed ∧
      deed.Spares c m (handleInterrupt w b m).machine := by
  by_cases htimer : b.interrupt = timerInterrupt
  · have houtcome := handleInterrupt_timer (m := m) w hc htimer
    have hissued : issued? w b m c =
        (m.tracker.fire b.clock (w = .nonSecure && (m.cpu c).inFlight.isNone)).2.2 :=
      if_pos htimer
    rw [houtcome, ← hissued]
    cases hcall : issued? w b m c with
    | none =>
        refine ⟨.goesBack, .goesBack hcall, ?_⟩
        exact spares_of_unchanged _ fun v => m.context_told c v _
    | some call =>
        refine ⟨.forwards, .issues hcall, ?_⟩
        rw [Option.elim_some, forward_apply _ _ _ hc]
        exact spares_forwarded _ _ _
  · refine ⟨.goesBack, .goesBack (if_neg htimer), ?_⟩
    rw [handleInterrupt_foreign w htimer]
    exact spares_of_unchanged _ fun _ => rfl

theorem spares (trap : Trap) (w : World) (m : Machine) (hc : b.core = c.val) :
    ∃ deed, Does w b m c trap deed ∧ deed.Spares c m (trap.step w b m).machine := by
  cases trap with
  | call args flags => exact call_spares w m args flags hc
  | interrupt => exact interrupt_spares w m hc

end Trap

/-- A call or an interrupt on a core keeps the contexts, the next world and the call in flight
of every other core, all synchronous entries, the entry point and the mark of a failed boot.
On its own core no world ever loses where it stopped or its registers from `x8` upwards, and
what else is written is what the deed allows. -/
theorem trap_confined (trap : Trap) (w : World) {b : Board} {c : Core} (m : Machine)
    (hc : b.core = c.val) :
    let m' := (trap.step w b m).machine
    m.KeptBeside m' c ∧
      (∀ v, (m.context c v).KeptBut (m'.context c v) 8 true) ∧
      ∃ deed, Trap.Does w b m c trap deed ∧ deed.Spares c m m' := by
  intro m'
  obtain ⟨deed, hdoes, hspares⟩ := trap.spares w m hc
  exact ⟨trap.keptBeside w m hc, fun v => (hspares v).mono (deed.registers_le v), deed, hdoes,
    hspares⟩

open Scenario in
/-- Core 3 asks for an unassigned command from the secure world, while core 2 runs a realm. -/
theorem trap_confined_of_secure_call :
    let m := ({} : Machine).after [hostCall 2 0 .recEnter 0x1000]
    let trap := Trap.call (Arguments.ofList [0xc4000160, 7]) ⟨0⟩
    let b := (hostCall 3 1 .version 0).board
    let m' := (trap.step .secure b m).machine
    m.KeptBeside m' 3 ∧
      (∀ v, (m.context 3 v).KeptBut (m'.context 3 v) 8 true) ∧
      ∃ deed, Trap.Does .secure b m 3 trap deed ∧ deed.Spares 3 m m' :=
  trap_confined _ .secure _ rfl

end RealmDispatch
