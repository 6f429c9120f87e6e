import Mathlib.Data.Nat.Bitwise
import RealmDispatch.Proofs.CoreIsolation
import RealmDispatch.Proofs.TrackerIndependence

/-!
# Calls that are refused, and calls that are acted on

A call that is refused leaves no trace but the first register of its caller, which then says
that the call is unknown. The grounds of a refusal are all there is to know about it: a
call without such a ground is forwarded, completes the call in flight, is served, or is a way
out of a synchronous entry, and none of these can be taken for a refusal. A service that fails
may write the same answer to the same register, but then the board was asked for it.

Two bits of the flags name the caller. All other bits are arbitrary.
-/
namespace RealmDispatch
open Step

/-! ## Callers and identifiers -/

/-- A flag of one bit is read off the word as a number. -/
theorem CallFlags.holds_eq_testBit (f : CallFlags) {bit : UInt64} {i : Nat}
    (hbit : bit.toNat = 2 ^ i) : f.holds bit = f.bits.toNat.testBit i := by
  have hand : (f.bits &&& bit).toNat = (f.bits.toNat.testBit i).toNat * 2 ^ i := by
    rw [UInt64.toNat_and, hbit, Nat.and_two_pow]
  rw [holds, Bool.eq_iff_iff, bne_iff_ne, Ne, ← UInt64.toNat_inj, hand]
  cases f.bits.toNat.testBit i <;> simp

/-- The world that two bits of a word name. Without the first one it is always the secure one. -/
def worldOfBits (word : Nat) : World :=
  match word.testBit 0, word.testBit 5 with
  | true, true => .realm
  | true, false => .nonSecure
  | false, _ => .secure

theorem CallFlags.world_eq (f : CallFlags) : f.world = worldOfBits f.bits.toNat := by
  have hnonSecure : f.holds nonSecureBit = f.bits.toNat.testBit 0 := f.holds_eq_testBit rfl
  have hrealm : f.holds realmBit = f.bits.toNat.testBit 5 := f.holds_eq_testBit rfl
  rw [world, hnonSecure, hrealm, worldOfBits]
  cases f.bits.toNat.testBit 0 <;> cases f.bits.toNat.testBit 5 <;> rfl

/-- An identifier is unassigned if it stands for no service, or for signatures on a board that
signs nothing. -/
theorem Board.service?_eq_none_iff {b : Board} {code : UInt32} :
    b.service? code = none ↔
      ∀ s : Service, s.code = code → s = .tokenSign ∧ b.signsTokens = false := by
  rw [Board.service?, Option.filter_eq_none_iff]
  constructor
  · intro h s hs
    have hnot := h s (Service.ofCode?_eq_some_iff.mpr hs.symm)
    simpa using hnot
  · intro h s hs
    have hnot := h s (Service.ofCode?_eq_some_iff.mp hs).symm
    simpa using hnot

/-! ## What becomes of a call -/

/-- The caller goes on with the answer that its call is unknown, and nothing else has happened. -/
structure TurnedAway (c : Core) (caller : World) (m : Machine) (o : Outcome Next) : Prop where
  result : o.result = .ok (.eret caller)
  requests : o.requests = []
  answer : (o.machine.context c caller).general.values[0] = unknownCall
  kept : (m.context c caller).KeptBut (o.machine.context c caller) 1 false
  worlds : ∀ w, w ≠ caller → o.machine.context c w = m.context c w
  inFlight : (o.machine.cpu c).inFlight = (m.cpu c).inFlight
  next : (o.machine.cpu c).next = (m.cpu c).next
  beside : m.KeptBeside o.machine c
  live : o.machine.live = m.live
  tracker : o.machine.tracker = m.tracker
  armed : o.machine.armed = m.armed

/-- The realm manager has the call of the host to serve next. -/
structure PassedOn (m : Machine) (c : Core) (args : Arguments) (flags : CallFlags)
    (o : Outcome Next) : Prop where
  caller : flags.world = .nonSecure
  result : o.result = .ok (.eret .realm)
  next : (o.machine.cpu c).next = some .realm
  handedOver : HandedOver m o.machine c args flags.sveHint

/-- The host has its core back, and the answer to the call if it has made it. -/
structure ReportedDone (m : Machine) (c : Core) (call : PendingCall) (args : Arguments)
    (flags : CallFlags) (o : Outcome Next) : Prop where
  caller : flags.world = .realm
  inFlight : (m.cpu c).inFlight = some call
  result : o.result = .ok (.eret .nonSecure)
  next : (o.machine.cpu c).next = some .nonSecure
  emptied : (o.machine.cpu c).inFlight = none
  answered : (o.machine.context c .nonSecure).general =
    call.answered args (m.context c .nonSecure).general

/-- The board was asked for the service, and the realm manager goes on with what it delivers. -/
structure AnsweredBy (service : Service) (b : Board) (m : Machine) (c : Core)
    (args : Arguments) (flags : CallFlags) (o : Outcome Next) : Prop where
  caller : flags.world = .realm
  assigned : callCode args = service.code
  returns : service ≠ .bootComplete
  result : o.result = .ok (.eret .realm)
  requests : o.requests = (perform (some service) args b m).requests
  delivered : ∃ values, (perform (some service) args b m).result = .ok values ∧
    o.machine = m.written c .realm values

/-- The realm manager has called for the end of the entry that waits on the core. Without one
the core halts, since it has nowhere to go. -/
structure LeadsOut (m : Machine) (c : Core) (args : Arguments) (flags : CallFlags)
    (o : Outcome Next) : Prop where
  caller : flags.world = .realm
  assigned : callCode args = Service.bootComplete.code
  result : o.result = if (m.slot c).pending then .ok (.resume (m.slot c).stack args.x1)
    else .error .exitUnmatched
  requests : o.requests = []
  machine : o.machine = m

/-- A call is acted on in one of four ways. -/
inductive ActedOn (b : Board) (m : Machine) (c : Core) (args : Arguments) (flags : CallFlags)
    (o : Outcome Next) : Prop
  | forwarded : PassedOn m c args flags o → ActedOn b m c args flags o
  | completed {call : PendingCall} : ReportedDone m c call args flags o →
      ActedOn b m c args flags o
  | served {service : Service} : AnsweredBy service b m c args flags o →
      ActedOn b m c args flags o
  | left : LeadsOut m c args flags o → ActedOn b m c args flags o

variable {b : Board} {m : Machine} {c : Core} {args : Arguments} {flags : CallFlags}
  {service : Service}

/-! ## Refusals -/

theorem Machine.next_written (m : Machine) (c : Core) (w : World) (values : List UInt64) :
    ((m.written c w values).cpu c).next = (m.cpu c).next := by
  rw [written, cpu_setCpu, if_pos rfl]
  rfl

theorem turnedAway_written (m : Machine) (c : Core) (w : World) (notices : List Notice) :
    TurnedAway c w m
      { result := .ok (.eret w), machine := m.written c w [unknownCall], notices := notices } where
  result := rfl
  requests := rfl
  answer := by
    rw [Machine.context_written, if_pos ⟨rfl, rfl⟩]
    exact GeneralRegisters.load_of_lt _ (by decide) Nat.one_pos
  kept := by
    rw [Machine.context_written, if_pos ⟨rfl, rfl⟩]
    exact .load _ (Nat.le_refl 1)
  worlds := by
    intro v hv
    rw [Machine.context_written, if_neg (fun h => hv h.2)]
  inFlight := m.inFlight_written c c w _
  next := m.next_written c w _
  beside := m.keptBeside_setCpu c _
  live := rfl
  tracker := rfl
  armed := rfl

theorem Refused.turnedAway (h : Refused b m c args flags) (hc : b.core = c.val) :
    TurnedAway c flags.world m (handleCall args flags b m) := by
  obtain ⟨notices, -, hcall⟩ := handleCall_refused hc h
  rw [hcall]
  exact turnedAway_written m c flags.world notices

/-! ## Calls that are acted on -/

theorem Forwards.passedOn (h : Forwards m args flags) (hc : b.core = c.val) :
    PassedOn m c args flags (handleCall args flags b m) := by
  rw [handleCall_forwards h, forward_apply _ _ _ hc]
  refine ⟨h.2.1, rfl, ?_, handedOver_forwarded m _ c args flags.sveHint⟩
  exact (Machine.next_written _ c .realm _).trans (Machine.next_switched _ c .nonSecure .realm)

theorem Completes.reportedDone {call : PendingCall} (h : Completes m args flags)
    (hcall : (m.cpu c).inFlight = some call) (hc : b.core = c.val) :
    ReportedDone m c call args flags (handleCall args flags b m) := by
  rw [handleCall_completes h, complete_apply hc hcall]
  refine ⟨h.2.1, hcall, rfl, m.next_completed c call args b.clock, ?_, ?_⟩
  · rw [Machine.inFlight_completed, if_pos rfl]
  · rw [Machine.context_completed_nonSecure]

theorem Served.answeredBy (h : Served b m args flags service) (hc : b.core = c.val) :
    AnsweredBy service b m c args flags (handleCall args flags b m) := by
  obtain ⟨values, requests, notices, hperform, hlen, -⟩ :=
    delivers_perform (some service) args b m
  have hroom : values.length ≤ generalCount := Nat.le_trans hlen (by decide)
  rw [handleCall_performs hc h hperform hroom]
  refine ⟨h.world, code_of_service? h.assigned, h.returns, rfl, ?_, values, ?_, rfl⟩
  · rw [hperform]
  · rw [hperform]

theorem Leaves.leadsOut (h : Leaves args flags) (hboot : m.bootFailed = false)
    (hc : b.core = c.val) : LeadsOut m c args flags (handleCall args flags b m) := by
  rw [handleCall_of_leaves hboot h]
  by_cases hpending : (m.slot c).pending = true
  · rw [leaveEntry_of_pending args.x1 hc hpending]
    exact ⟨h.1, h.2, (if_pos hpending).symm, rfl, rfl⟩
  · rw [leaveEntry_of_idle args.x1 hc hpending]
    exact ⟨h.1, h.2, (if_neg hpending).symm, rfl, rfl⟩

theorem actedOn_of_not_refused (h : ¬ Refused b m c args flags) (hc : b.core = c.val) :
    ActedOn b m c args flags (handleCall args flags b m) := by
  cases disposition b m c args flags with
  | forwarded hforwards => exact .forwarded (hforwards.passedOn hc)
  | completed hcompletes hcall => exact .completed (hcompletes.reportedDone hcall hc)
  | left hboot hleaves => exact .left (hleaves.leadsOut hboot hc)
  | served hserved => exact .served (hserved.answeredBy hc)
  | refused hrefused => exact absurd hrefused h

/-! ## Neither is taken for the other -/

/-- A service either asks the board for something or answers otherwise than a refusal. -/
theorem perform_asks_or_answers (b : Board) (m : Machine) (args : Arguments)
    (hreturns : service ≠ .bootComplete) :
    (perform (some service) args b m).requests ≠ [] ∨
      ∃ x rest, (perform (some service) args b m).result = .ok (x :: rest) ∧ x ≠ unknownCall := by
  cases service with
  | features =>
      right
      cases hindex : featureRegister b.signsTokens args.x1 with
      | ok value => exact ⟨0, [value], by simp [perform, hindex, featureAnswer], by decide⟩
      | error e =>
          obtain rfl : e = .invalid := by
            unfold featureRegister at hindex
            split at hindex
            · cases hindex
            · exact (Except.error.inj hindex).symm
          exact ⟨ServiceError.invalid.code, [], by simp [perform, hindex, featureAnswer],
            by decide⟩
  | bootComplete => exact absurd rfl hreturns
  | delegate | undelegate | realmKey | platformToken | tokenSign =>
      left
      simp [perform, Outcome.after]

theorem ActedOn.not_turnedAway {o : Outcome Next} (h : ActedOn b m c args flags o) :
    ¬ TurnedAway c flags.world m o := by
  intro haway
  have hresult := haway.result
  cases h with
  | forwarded hpassed =>
      rw [hpassed.result, hpassed.caller] at hresult
      cases hresult
  | completed hdone =>
      rw [hdone.result, hdone.caller] at hresult
      cases hresult
  | left hout =>
      rw [hout.result] at hresult
      split at hresult
      · cases hresult
      · cases hresult
  | served hserved =>
      obtain ⟨values, hvalues, hmachine⟩ := hserved.delivered
      rcases perform_asks_or_answers b m args hserved.returns with hasks | ⟨x, rest, hx, hne⟩
      · rw [← hserved.requests] at hasks
        exact hasks haway.requests
      · obtain rfl : values = x :: rest := Except.ok.inj (hvalues.symm.trans hx)
        have hanswer := haway.answer
        rw [hserved.caller, hmachine, Machine.context_written, if_pos ⟨rfl, rfl⟩] at hanswer
        dsimp only at hanswer
        rw [GeneralRegisters.load_of_lt _ (by decide) (by simp)] at hanswer
        exact hne hanswer

/-- A call is turned away exactly if there is a ground to refuse it, and every other call is
acted on. The grounds depend on the caller through two bits of its flags, and on the services
through those that are assigned. -/
theorem turned_away_iff_refused (m : Machine) (args : Arguments) (flags : CallFlags)
    (hc : b.core = c.val) :
    let o := handleCall args flags b m
    (TurnedAway c flags.world m o ↔ Refused b m c args flags) ∧
      (¬ Refused b m c args flags → ActedOn b m c args flags o) ∧
      flags.world = worldOfBits flags.bits.toNat ∧
      (b.service? (callCode args) = none ↔
        ∀ s : Service, s.code = callCode args → s = .tokenSign ∧ b.signsTokens = false) := by
  intro o
  refine ⟨⟨?_, fun h => h.turnedAway hc⟩, fun h => actedOn_of_not_refused h hc, flags.world_eq,
    Board.service?_eq_none_iff⟩
  intro haway
  by_contra hnot
  exact (actedOn_of_not_refused hnot hc).not_turnedAway haway

open Scenario in
/-- While the realm manager serves a call on core 2, a firmware that signs nothing is asked for
a signature there, and a creation arrives under the reserved encoding of its caller. -/
theorem turned_away_iff_refused_of_reserved_bits :
    let m := ({} : Machine).after [hostCall 2 0 .recEnter 0x1000]
    let b := (hostCall 2 1 .version 0).board
    let signature := Arguments.ofList [0xdead0000c40001b5, 1, 2, 3, 4]
    let creation := Arguments.ofList [Command.realmCreate.code.toUInt64, 0x2000]
    TurnedAway 2 .realm m (handleCall signature ⟨0xfffffffffffeffff⟩ b m) ∧
      TurnedAway 2 .secure m (handleCall creation ⟨0xfffffffffffffffe⟩ b m) := by
  intro m b signature creation
  have hunsigned : Refused b m 2 signature ⟨0xfffffffffffeffff⟩ :=
    .serviceUnassigned (by decide) (by decide) (by decide)
  have hreserved : Refused b m 2 creation ⟨0xfffffffffffffffe⟩ :=
    .commandFromSecure (by decide) (by decide)
  exact ⟨(turned_away_iff_refused m signature _ rfl).1.mpr hunsigned,
    (turned_away_iff_refused m creation _ rfl).1.mpr hreserved⟩

end RealmDispatch
