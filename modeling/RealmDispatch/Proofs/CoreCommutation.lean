import RealmDispatch.Proofs.AlikeMachines
import RealmDispatch.Proofs.CoreIsolation
import RealmDispatch.Proofs.TimerProgramming

/-!
# Traps of different cores in either order

Two traps taken on different cores only meet in the tracker, in its timer and in the one
set of live system registers. Unless both of them tell the tracker something they can be
served in either order: both cores get the same answers, and the machine is the same
afterwards, but for system registers.

A trap leaves everything but its own core alone, and what it does to its own core depends
on nothing but this core, if the tracker keeps out of it. So the other trap neither sees
that it came first nor changes what came of it.
-/
namespace RealmDispatch
open Step

/-! ## Machines without system registers -/

def Context.bare (ctx : Context) : Context := { ctx with system := {} }

def Worlds.bare (ws : Worlds) : Worlds :=
  { secure := ws.secure.bare, nonSecure := ws.nonSecure.bare, realm := ws.realm.bare }

def Cpu.bare (cpu : Cpu) : Cpu := { cpu with worlds := cpu.worlds.bare }

/-- Everything but the system registers, saved or live. -/
def Machine.bare (m : Machine) : Machine := { m with cpus := m.cpus.map Cpu.bare, live := {} }

theorem Cpu.bare_load (cpu : Cpu) (w : World) (values : List UInt64) :
    (cpu.load w values).bare = cpu.bare.load w values := by
  cases w <;> rfl

theorem Cpu.bare_save (cpu : Cpu) (w : World) (live : SystemRegisters) :
    (cpu.setContext w { cpu.context w with system := live }).bare = cpu.bare := by
  cases w <;> rfl

/-- All that a switch shows of itself is the world the core goes on in. -/
theorem Machine.bare_cpu_switched (m : Machine) (c : Core) (source target : World) :
    ((m.switched c source target).cpu c).bare = { (m.cpu c).bare with next := some target } := by
  have hsaved : ((m.saveSystem c source).cpu c).bare = (m.cpu c).bare := by
    rw [saveSystem, cpu_setCpu, if_pos rfl]
    exact Cpu.bare_save _ source m.live
  rw [switched, cpu_setCpu, if_pos rfl, ← hsaved]
  rfl

namespace Machine

/-- The same is kept for the core `c`, but for its system registers. -/
structure SameOn (m m' : Machine) (c : Core) : Prop where
  bootFailed : m.bootFailed = m'.bootFailed
  slot : m.slot c = m'.slot c
  cpu : (m.cpu c).bare = (m'.cpu c).bare

theorem SameOn.symm {m m' : Machine} {c : Core} (h : m.SameOn m' c) : m'.SameOn m c :=
  ⟨h.bootFailed.symm, h.slot.symm, h.cpu.symm⟩

theorem SameOn.inFlight {m m' : Machine} {c : Core} (h : m.SameOn m' c) :
    (m.cpu c).inFlight = (m'.cpu c).inFlight := by
  have hcall := congrArg Cpu.inFlight h.cpu
  exact hcall

/-- On machines on which the same is kept for a core, calls on this core cannot be told apart. -/
theorem likeness_sameOn (c : Core) : Likeness c.val fun m m' => m.SameOn m' c where
  bootFailed hm := hm.bootFailed
  slot hm hc := Fin.ext hc ▸ hm.slot
  inFlight hm hc := Fin.ext hc ▸ hm.inFlight
  tell _ hm := ⟨hm.bootFailed, hm.slot, hm.cpu⟩
  setInFlight := by
    intro m m' d call hm hc
    obtain rfl : c = d := Fin.ext hc
    refine ⟨hm.bootFailed, hm.slot, ?_⟩
    rw [setInFlight, setInFlight, cpu_setCpu, cpu_setCpu, if_pos rfl, if_pos rfl]
    exact congrArg (fun cpu : Cpu => { cpu with inFlight := call }) hm.cpu
  switched := by
    intro m m' d source target hm hc
    obtain rfl : c = d := Fin.ext hc
    refine ⟨hm.bootFailed, hm.slot, ?_⟩
    rw [bare_cpu_switched, bare_cpu_switched, hm.cpu]
  written := by
    intro m m' d w values hm hc
    obtain rfl : c = d := Fin.ext hc
    refine ⟨hm.bootFailed, hm.slot, ?_⟩
    rw [written, written, cpu_setCpu, cpu_setCpu, if_pos rfl, if_pos rfl, Cpu.bare_load,
      Cpu.bare_load, hm.cpu]

/-- The trackers are the same too, and so is what the timer is armed with. -/
structure SameTracker (m m' : Machine) : Prop where
  tracker : m.tracker = m'.tracker
  armed : m.armed = m'.armed

end Machine

theorem Likeness.withTracker {position : Nat} {R : Machine → Machine → Prop}
    (h : Likeness position R) : Likeness position fun m m' => R m m' ∧ m.SameTracker m' where
  bootFailed hm := h.bootFailed hm.1
  slot hm := h.slot hm.1
  inFlight hm := h.inFlight hm.1
  tell := by
    intro m m' e hm
    refine ⟨h.tell e hm.1, ?_, ?_⟩
    · rw [Machine.tell, Machine.tell, hm.2.tracker]
    · rw [Machine.tell, Machine.tell, hm.2.tracker, hm.2.armed]
  setInFlight call hm hc := ⟨h.setInFlight call hm.1 hc, hm.2.tracker, hm.2.armed⟩
  switched source target hm hc := ⟨h.switched source target hm.1 hc, hm.2.tracker, hm.2.armed⟩
  written w values hm hc := ⟨h.written w values hm.1 hc, hm.2.tracker, hm.2.armed⟩

/-! ## Traps that leave the tracker alone -/

namespace Trap

/-- The trap, taken on `c`, tells the tracker something. -/
inductive Tracks (b : Board) (m : Machine) (c : Core) : Trap → Prop
  | observes {args : Arguments} {flags : CallFlags} : Forwards m args flags →
      callCode args ∈ [Command.realmCreate.code, Command.realmActivate.code] →
      Tracks b m c (.call args flags)
  | completes {args : Arguments} {flags : CallFlags} {call : PendingCall} :
      Completes m args flags → (m.cpu c).inFlight = some call →
      call.code ∈ [Command.realmCreate.code, Command.retentionGet.code,
        Command.realmDestroy.code] →
      Tracks b m c (.call args flags)
  | fires : b.interrupt = timerInterrupt → Tracks b m c .interrupt

end Trap

theorem observedEvents_eq_nil {args : Arguments} (clock : Clock)
    (h : callCode args ∉ [Command.realmCreate.code, Command.realmActivate.code]) :
    observedEvents args clock = [] := by
  unfold observedEvents
  split
  · rename_i hcommand
    simp [← Command.code_of_ofCode? hcommand] at h
  · rename_i hcommand
    simp [← Command.code_of_ofCode? hcommand] at h
  · rfl

theorem completionEvents_eq_nil (call : PendingCall) (status : UInt64) (clock : Clock)
    (h : call.code ∉ [Command.realmCreate.code, Command.retentionGet.code,
      Command.realmDestroy.code]) :
    completionEvents call status clock = [] := by
  unfold completionEvents
  split
  · rename_i hcommand
    simp [← Command.code_of_ofCode? hcommand] at h
  · rename_i hcommand
    simp [← Command.code_of_ofCode? hcommand] at h
  · rename_i hcommand
    simp [← Command.code_of_ofCode? hcommand] at h
  · rfl

namespace Trap
variable {trap : Trap} {b : Board} {c : Core} {m m' : Machine}

/-- What a trap does not tell the tracker, the tracker does not show. -/
theorem sameTracker_of_untracked (h : ¬ trap.Tracks b m c) (w : World) (hc : b.core = c.val) :
    (trap.step w b m).machine.SameTracker m := by
  cases trap with
  | interrupt =>
      have hforeign : b.interrupt ≠ timerInterrupt := fun htimer => h (.fires htimer)
      rw [step, handleInterrupt_foreign w hforeign]
      exact ⟨rfl, rfl⟩
  | call args flags =>
      rw [step]
      cases disposition b m c args flags with
      | forwarded hforwards =>
          have hsilent := observedEvents_eq_nil b.clock fun hcode => h (.observes hforwards hcode)
          rw [handleCall_forwards hforwards, hsilent, forward_apply _ _ _ hc]
          exact ⟨rfl, rfl⟩
      | @completed call hcompletes hcall =>
          have hsilent := completionEvents_eq_nil call args.x1 b.clock fun hcode =>
            h (.completes hcompletes hcall hcode)
          rw [handleCall_completes hcompletes, complete_apply hc hcall]
          constructor
          · rw [Machine.tracker_completed, hsilent]
            rfl
          · rw [Machine.armed_completed, hsilent]
            rfl
      | left hboot hleaves =>
          rw [handleCall_of_leaves hboot hleaves]
          have hkept := machine_leaveEntry (m := m) args.x1 hc
          exact ⟨congrArg Machine.tracker hkept, congrArg Machine.armed hkept⟩
      | served hserved =>
          obtain ⟨values, requests, notices, -, -, hcall⟩ := handleCall_served hc hserved
          rw [hcall]
          exact ⟨rfl, rfl⟩
      | refused hrefused =>
          obtain ⟨notices, -, hcall⟩ := handleCall_refused hc hrefused
          rw [hcall]
          exact ⟨rfl, rfl⟩

/-- Whether a trap tells the tracker something is a matter of its own core. -/
theorem tracks_of_sameOn (hm : m.SameOn m' c) (h : trap.Tracks b m c) :
    trap.Tracks b m' c := by
  have hboot := hm.bootFailed
  have hcall := hm.inFlight
  cases h with
  | observes hforwards hcode => exact .observes ⟨hboot ▸ hforwards.1, hforwards.2⟩ hcode
  | completes hcompletes hflight hcode =>
      exact .completes ⟨hboot ▸ hcompletes.1, hcompletes.2⟩ (hcall ▸ hflight) hcode
  | fires htimer => exact .fires htimer

/-- A trap cannot tell alike machines apart, and an interrupt of the timer needs alike trackers. -/
theorem respects {R : Machine → Machine → Prop} (h : Likeness b.core R) (w : World)
    (htimer : trap = .interrupt → b.interrupt = timerInterrupt →
      ∀ m m', R m m' → m.tracker = m'.tracker) : Respects R b (trap.step w) := by
  cases trap with
  | call args flags => exact h.respects_handleCall args flags
  | interrupt =>
      by_cases hinterrupt : b.interrupt = timerInterrupt
      · exact h.respects_handleInterrupt (htimer rfl hinterrupt) w
      · intro m m' hm
        rw [step, handleInterrupt_foreign w hinterrupt, handleInterrupt_foreign w hinterrupt]
        exact ⟨rfl, hm, rfl⟩

end Trap

/-! ## Either order -/

/-- To another core a trap leaves everything as it was. -/
theorem Machine.KeptBeside.sameOn {m m' : Machine} {c d : Core} (h : m.KeptBeside m' c)
    (hd : d ≠ c) : m.SameOn m' d where
  bootFailed := h.bootFailed.symm
  slot := by rw [slot, slot, h.slots]
  cpu := by rw [h.cpu d hd]

theorem Machine.bare_eq_of {m m' : Machine} (hboot : m.bootFailed = m'.bootFailed)
    (hentry : m.entryPoint = m'.entryPoint) (hslots : m.slots = m'.slots)
    (hcpu : ∀ c, (m.cpu c).bare = (m'.cpu c).bare) (htracker : m.SameTracker m') :
    m.bare = m'.bare := by
  have hcpus : m.cpus.map Cpu.bare = m'.cpus.map Cpu.bare := by
    ext1 i hi
    rw [Vector.getElem_map, Vector.getElem_map]
    exact hcpu ⟨i, hi⟩
  unfold bare
  rw [hboot, hentry, hslots, hcpus, htracker.tracker, htracker.armed]

section Order
variable {s t : Trap} {v w : World} {b b' : Board} {c d : Core} {m : Machine}

/-- One of the traps tells the tracker nothing. -/
theorem steps_commute_of_untracked (hc : b.core = c.val) (hd : b'.core = d.val) (hne : c ≠ d)
    (ht : ¬ t.Tracks b' m d) :
    let ms := (s.step v b m).machine
    let mt := (t.step w b' m).machine
    (s.step v b mt).result = (s.step v b m).result ∧
      (t.step w b' ms).result = (t.step w b' m).result ∧
      (t.step w b' ms).machine.bare = (s.step v b mt).machine.bare := by
  intro ms mt
  have hs : m.KeptBeside ms c := s.keptBeside v m hc
  have ht' : m.KeptBeside mt d := t.keptBeside w m hd
  have hst := t.keptBeside w ms hd
  have hts := s.keptBeside v mt hc
  have hquiet : mt.SameTracker m := Trap.sameTracker_of_untracked ht w hd
  -- The second trap runs on its own core, which the first one has left alone.
  have hsecond : (t.step w b' m).Alike (fun m m' => m.SameOn m' d) (t.step w b' ms) := by
    refine Trap.respects ?_ w ?_ (hs.sameOn hne.symm)
    · exact hd ▸ Machine.likeness_sameOn d
    · intro htrap htimer
      subst htrap
      exact absurd (.fires htimer) ht
  -- The first trap finds its own core and the tracker as they are without the second one.
  have hfirst : (s.step v b m).Alike (fun m m' => m.SameOn m' c ∧ m.SameTracker m')
      (s.step v b mt) := by
    refine Trap.respects ?_ v ?_ ⟨ht'.sameOn hne, hquiet.tracker.symm, hquiet.armed.symm⟩
    · exact hc ▸ (Machine.likeness_sameOn c).withTracker
    · exact fun _ _ m m' hm => hm.2.tracker
  have hstill : (t.step w b' ms).machine.SameTracker ms := by
    apply Trap.sameTracker_of_untracked _ w hd
    exact fun htracks => ht (Trap.tracks_of_sameOn (hs.sameOn hne.symm).symm htracks)
  refine ⟨hfirst.result.symm, hsecond.result.symm, ?_⟩
  apply Machine.bare_eq_of
  · rw [hst.bootFailed, hs.bootFailed, hts.bootFailed, ht'.bootFailed]
  · rw [hst.entryPoint, hs.entryPoint, hts.entryPoint, ht'.entryPoint]
  · rw [hst.slots, hs.slots, hts.slots, ht'.slots]
  · intro e
    by_cases hec : e = c
    · subst hec
      rw [hst.cpu e hne, hfirst.machine.1.cpu]
    · by_cases hed : e = d
      · subst hed
        rw [hts.cpu e hec, hsecond.machine.cpu]
      · rw [hst.cpu e hed, hs.cpu e hec, hts.cpu e hec, ht'.cpu e hed]
  · exact ⟨hstill.tracker.trans hfirst.machine.2.tracker,
      hstill.armed.trans hfirst.machine.2.armed⟩

end Order

/-- Two traps of different cores, of which at most one tells the tracker something, can be
served in either order. Every core gets the same answer, and the saved contexts, the calls in
flight, the next worlds, the tracker and the timer are the same afterwards, but for system
registers. Either trap finds the same clock and the same services whether it comes first or
second. -/
theorem steps_commute (s t : Trap) (v w : World) {b b' : Board} {c d : Core} (m : Machine)
    (hc : b.core = c.val) (hd : b'.core = d.val) (hne : c ≠ d)
    (hone : ¬ (s.Tracks b m c ∧ t.Tracks b' m d)) :
    let sFirst := s.step v b m
    let tSecond := t.step w b' sFirst.machine
    let tFirst := t.step w b' m
    let sSecond := s.step v b tFirst.machine
    sFirst.result = sSecond.result ∧ tFirst.result = tSecond.result ∧
      tSecond.machine.bare = sSecond.machine.bare := by
  intro sFirst tSecond tFirst sSecond
  by_cases ht : t.Tracks b' m d
  · have hs : ¬ s.Tracks b m c := fun hs => hone ⟨hs, ht⟩
    obtain ⟨htwice, hstwice, hbare⟩ :=
      steps_commute_of_untracked (v := w) (w := v) hd hc hne.symm hs
    exact ⟨hstwice.symm, htwice.symm, hbare.symm⟩
  · obtain ⟨hstwice, htwice, hbare⟩ :=
      steps_commute_of_untracked (s := s) (v := v) (w := w) hc hd hne ht
    exact ⟨hstwice.symm, htwice.symm, hbare⟩

namespace Scenario

/-- The host on core 2 has asked for data, and the host on core 1 creates a realm. -/
def dataAsked : Machine := ({} : Machine).after [hostCall 2 0 .dataCreate 0x2000]

/-- A command of the host that names one realm. -/
def command (command : Command) (rd : Descriptor) : Trap :=
  .call (Arguments.ofList [command.code.toUInt64, rd]) ⟨CallFlags.nonSecureBit⟩

/-- The realm manager completes with a status. -/
def completing (status : UInt64) : Trap :=
  .call (Arguments.ofList [Command.requestComplete.code.toUInt64, status])
    ⟨CallFlags.nonSecureBit ||| CallFlags.realmBit⟩

end Scenario

open Scenario in
/-- A creation on core 1 and the completion of a creation of data on core 2. -/
theorem steps_commute_of_creation :
    let b := (hostCall 1 5 .realmCreate 0x1000).board
    let b' := (completion 2 7 0).board
    let s := command .realmCreate 0x1000
    let t := completing 0
    let sFirst := s.step .nonSecure b dataAsked
    let tSecond := t.step .realm b' sFirst.machine
    let tFirst := t.step .realm b' dataAsked
    let sSecond := s.step .nonSecure b tFirst.machine
    sFirst.result = sSecond.result ∧ tFirst.result = tSecond.result ∧
      tSecond.machine.bare = sSecond.machine.bare := by
  have hsilent : ¬ (completing 0).Tracks (completion 2 7 0).board dataAsked 2 := by
    intro htracks
    cases htracks with
    | observes hforwards => exact absurd hforwards (by decide)
    | @completes _ _ call _ hcall hcode =>
        have hdata : (dataAsked.cpu 2).inFlight.map PendingCall.code =
            some Command.dataCreate.code := by decide
        rw [hcall] at hdata
        rw [Option.some.inj hdata] at hcode
        exact absurd hcode (by decide)
  exact steps_commute _ _ _ _ dataAsked rfl rfl (by decide) fun h => hsilent h.2

open Scenario in
/-- Of two creations the registry remembers which one came first. -/
example :
    let s := (command .realmCreate 0x1000).step .nonSecure (hostCall 1 5 .realmCreate 0x1000).board
    let t := (command .realmCreate 0x2000).step .nonSecure (hostCall 2 5 .realmCreate 0x2000).board
    (t (s {}).machine).machine.tracker ≠ (s (t {}).machine).machine.tracker := by
  decide

end RealmDispatch
