import RealmDispatch.Proofs.AlikeMachines
import RealmDispatch.Proofs.WorldRoundTrip

/-!
# Calls do not depend on the tracker

The tracker watches commands on their way to the realm manager and back. It keeps records
and deadlines, and programs the timer, but what becomes of a call is not its business.
Two machines that differ only in their trackers answer every call alike, and agree afterwards
in everything but their trackers. In particular every command of the host gets through to
the realm manager, whether the registry is full, the realm is unknown, or its record says that
the command makes no sense.
-/
namespace RealmDispatch
open Step

/-- Everything but the tracker and the timer it arms. -/
def Machine.untracked (m : Machine) : Machine := { m with tracker := {}, armed := none }

/-- Machines that differ only in their trackers look alike to every core. -/
theorem Machine.likeness_untracked (position : Nat) :
    Likeness position fun m m' => m.untracked = m'.untracked where
  bootFailed hm := congrArg (fun m => m.bootFailed) hm
  slot {_ _ c} hm _ := congrArg (fun m => m.slot c) hm
  inFlight {_ _ c} hm _ := congrArg (fun m => (m.cpu c).inFlight) hm
  tell _ hm := hm
  setInFlight {_ _ c} call hm _ := congrArg (fun m => m.setInFlight c call) hm
  switched {_ _ c} source target hm _ := congrArg (fun m => m.switched c source target) hm
  written {_ _ c} w values hm _ := congrArg (fun m => m.written c w values) hm

/-! ## What the realm manager finds of a command -/

variable {b : Board} {m m' : Machine} {c : Core} {args : Arguments} {flags : CallFlags}

theorem handedOver_forwarded (m : Machine) (events : List TrackerEvent) (c : Core)
    (args : Arguments) (sveHint : Bool) :
    HandedOver m ((m.told events).forwarded c ⟨callCode args, args, .host⟩
      (hinted args sveHint).toList) c args sveHint where
  inFlight := by
    rw [Machine.inFlight_forwarded, if_pos rfl]
    rfl
  command := by
    rw [Machine.context_forwarded_realm, Machine.context_told]
    dsimp only
    rw [GeneralRegisters.load_of_lt _ (by decide) (by simp), Vector.getElem_toList]
    exact hinted_x0 args sveHint
  arguments := by
    intro i hi
    have hroom : i.val < generalCount := Nat.lt_trans i.isLt (by decide)
    rw [Machine.context_forwarded_realm, Machine.context_told]
    dsimp only
    rw [GeneralRegisters.load_of_lt _ hroom (by simp), Vector.getElem_toList]
    exact hinted_of_ne args sveHint hi
  kept := by
    intro i hi
    rw [Machine.context_forwarded_realm, Machine.context_told]
    exact GeneralRegisters.load_of_le _ i.isLt (by simpa using hi)

/-- Whatever the tracker knows or believes, a call gets the same answer, and the machine is the
same afterwards but for the tracker and the timer. The board is asked for the same things but
for the timer. A command of the host always reaches the realm manager. -/
theorem tracker_never_routes (hsame : m.untracked = m'.untracked) (b : Board)
    (args : Arguments) (flags : CallFlags) :
    let outcome := handleCall args flags b m
    let outcome' := handleCall args flags b m'
    outcome.result = outcome'.result ∧
      outcome.machine.untracked = outcome'.machine.untracked ∧
      untimed outcome.requests = untimed outcome'.requests ∧
      ∀ c : Core, b.core = c.val → Forwards m args flags →
        outcome.result = .ok (.eret .realm) ∧
          HandedOver m outcome.machine c args flags.sveHint := by
  intro outcome outcome'
  have halike := (Machine.likeness_untracked b.core).respects_handleCall args flags hsame
  refine ⟨halike.result, halike.machine, halike.requests, ?_⟩
  intro c hc hforwards
  have houtcome : outcome = _ := handleCall_forwards hforwards
  rw [houtcome, forward_apply _ _ _ hc]
  exact ⟨rfl, handedOver_forwarded m _ c args flags.sveHint⟩

namespace Scenario

/-- A tracker that has no room left for another realm. -/
def fullTracker : Tracker :=
  ({} : Tracker).evolve
    ((List.range realmCapacity).map fun i => .creationObserved (0x1000 * UInt64.ofNat (i + 1)))

end Scenario

open Scenario in
/-- One realm too many is created, by a host without live SVE state. -/
theorem tracker_never_routes_of_full_registry :
    let full : Machine := { tracker := fullTracker, armed := some 7 }
    let args := Arguments.ofList [Command.realmCreate.code.toUInt64, 0xb000, 0xc000]
    let flags : CallFlags := ⟨CallFlags.nonSecureBit ||| sveHintBit⟩
    let b := (hostCall 4 0 .realmCreate 0xb000).board
    let outcome := handleCall args flags b full
    let outcome' := handleCall args flags b {}
    fullTracker.registry.isFull = true ∧
      outcome.result = outcome'.result ∧
      outcome.machine.untracked = outcome'.machine.untracked ∧
      outcome.result = .ok (.eret .realm) ∧
      HandedOver full outcome.machine 4 args true := by
  intro full args flags b outcome outcome'
  have hforwards : Forwards full args flags := by decide
  have hsame : full.untracked = ({} : Machine).untracked := rfl
  obtain ⟨hresult, hmachine, -, hhanded⟩ := tracker_never_routes hsame b args flags
  obtain ⟨hanswer, hregisters⟩ := hhanded 4 rfl hforwards
  have hhint : flags.sveHint = true := by decide
  rw [hhint] at hregisters
  exact ⟨by decide, hresult, hmachine, hanswer, hregisters⟩

end RealmDispatch
