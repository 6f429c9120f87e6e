import RealmDispatch.Proofs.RunHistory
import RealmDispatch.Proofs.SavedRegisters

/-!
# What the host finds when its core comes back

A forwarded call takes a core to the realm world. The live registers of the host
are saved on the way in and made live again on the way out, and the rest of its
context lies saved throughout. In between the realm manager runs on the core: it
asks for services, changes the live registers and is interrupted. Other cores do
what they like, with the one set of live registers there is.

A core that waits for a completion keeps the context of its host as it was saved.
So the completion finds it again, whatever happened in the meantime.
-/
namespace RealmDispatch

/-- The general registers the host goes on with. Those of a host that was interrupted
by the timer stay as they are. -/
def PendingCall.answered (call : PendingCall) (args : Arguments)
    (r : GeneralRegisters) : GeneralRegisters :=
  match call.origin with
  | .host => r.load (hostAnswer args)
  | .timer => r

/-! ## Saved contexts and live registers -/

namespace Machine
section Primitives
variable (m : Machine) (c d : Core) (v w source target : World) (values : List UInt64)
variable (call : Option PendingCall) (events : List TrackerEvent)

theorem context_setCpu (cpu : Cpu) :
    (m.setCpu c cpu).context d v = if d = c then cpu.context v else m.context d v := by
  rw [context, cpu_setCpu]
  by_cases hd : d = c
  · rw [if_pos hd, if_pos hd]
  · rw [if_neg hd, if_neg hd]
    rfl

/-- To write a saved context leaves the other worlds and the other cores alone. -/
theorem context_setContext (ctx : Context) :
    (m.setCpu c ((m.cpu c).setContext w ctx)).context d v =
      if d = c ∧ v = w then ctx else m.context d v := by
  rw [context_setCpu, Cpu.context_setContext]
  by_cases hd : d = c
  · subst hd
    simp [context]
  · simp [hd]

@[simp] theorem context_written : (m.written c w values).context d v =
    if d = c ∧ v = w then
      { m.context c w with general := (m.context c w).general.load values }
    else m.context d v :=
  m.context_setContext c d v w _

@[simp] theorem context_setInFlight :
    (m.setInFlight c call).context d v = m.context d v := by
  rw [setInFlight, context_setCpu]
  by_cases hd : d = c
  · rw [if_pos hd, hd]
    rfl
  · rw [if_neg hd]

theorem context_saveSystem : (m.saveSystem c source).context d v =
    if d = c ∧ v = source then { m.context c source with system := m.live }
    else m.context d v :=
  m.context_setContext c d v source _

@[simp] theorem context_switched : (m.switched c source target).context d v =
    if d = c ∧ v = source then { m.context c source with system := m.live }
    else m.context d v := by
  rw [← context_saveSystem, switched, context_setCpu]
  by_cases hd : d = c
  · rw [if_pos hd, hd]
    rfl
  · rw [if_neg hd]
    rfl

/-- The world that is entered brings its saved registers with it. -/
theorem live_switched (h : target ≠ source) :
    (m.switched c source target).live = (m.context c target).system := by
  have hlive : (m.switched c source target).live =
      ((m.saveSystem c source).context c target).system := rfl
  rw [hlive, context_saveSystem, if_neg (fun hw => h hw.2)]

theorem next_switched : ((m.switched c source target).cpu c).next = some target := by
  rw [switched, cpu_setCpu, if_pos rfl]

@[simp] theorem live_written : (m.written c w values).live = m.live := rfl

@[simp] theorem live_setInFlight : (m.setInFlight c call).live = m.live := rfl

@[simp] theorem context_told : (m.told events).context d v = m.context d v := by
  rw [context, cpu_told]
  rfl

@[simp] theorem live_told : (m.told events).live = m.live := by
  rw [told_eq]

@[simp] theorem bootFailed_told : (m.told events).bootFailed = m.bootFailed := by
  rw [told_eq]

end Primitives

section Forwarded
variable (m : Machine) (c d : Core) (call : PendingCall) (values : List UInt64)

theorem bootFailed_forwarded : (m.forwarded c call values).bootFailed = m.bootFailed := rfl

theorem inFlight_forwarded : ((m.forwarded c call values).cpu d).inFlight =
    if d = c then some call else (m.cpu d).inFlight := by
  simp [forwarded]

/-- Of the host's context only the system registers are written. -/
theorem context_forwarded : (m.forwarded c call values).context d .nonSecure =
    if d = c then { m.context c .nonSecure with system := m.live }
    else m.context d .nonSecure := by
  simp [forwarded]

/-- Of the realm manager's context only general registers are. -/
theorem context_forwarded_realm : (m.forwarded c call values).context c .realm =
    { m.context c .realm with general := (m.context c .realm).general.load values } := by
  simp [forwarded]

theorem context_forwarded_secure :
    (m.forwarded c call values).context c .secure = m.context c .secure := by
  simp [forwarded]

/-- The realm manager brings its saved system registers with it. -/
theorem live_forwarded :
    (m.forwarded c call values).live = (m.context c .realm).system := by
  simp [forwarded, live_switched]

end Forwarded

section Completed
variable (m : Machine) (c d : Core) (call : PendingCall) (args : Arguments) (clock : Clock)

theorem bootFailed_completed :
    (m.completed c call args clock).bootFailed = m.bootFailed := by
  obtain ⟨code, cargs, origin⟩ := call
  have htold (m : Machine) (events : List TrackerEvent) :
      ((m.told events).switched c .realm .nonSecure).bootFailed = m.bootFailed :=
    bootFailed_told m events
  cases origin
  · exact htold _ _
  · exact htold _ _

theorem context_completed_of_ne (hd : d ≠ c) (w : World) :
    (m.completed c call args clock).context d w = m.context d w := by
  obtain ⟨code, cargs, origin⟩ := call
  cases origin <;> simp [completed, hd]

theorem next_completed :
    ((m.completed c call args clock).cpu c).next = some .nonSecure := by
  obtain ⟨code, cargs, origin⟩ := call
  cases origin
  · simp [completed, written, Cpu.load, Cpu.setContext, next_switched]
  · simp [completed, next_switched]

/-- The host's system registers are live again. -/
theorem live_completed :
    (m.completed c call args clock).live = (m.context c .nonSecure).system := by
  obtain ⟨code, cargs, origin⟩ := call
  cases origin <;> simp [completed, live_switched]

theorem context_completed_secure :
    (m.completed c call args clock).context c .secure = m.context c .secure := by
  obtain ⟨code, cargs, origin⟩ := call
  cases origin <;> simp [completed]

theorem context_completed_realm : (m.completed c call args clock).context c .realm =
    { m.context c .realm with system := m.live } := by
  obtain ⟨code, cargs, origin⟩ := call
  cases origin <;> simp [completed]

theorem context_completed_nonSecure : (m.completed c call args clock).context c .nonSecure =
    { m.context c .nonSecure with
      general := call.answered args (m.context c .nonSecure).general } := by
  obtain ⟨code, cargs, origin⟩ := call
  cases origin <;> simp [completed, PendingCall.answered]

end Completed
end Machine

/-! ## Waiting for the completion -/

/-- The core has handed a call on, and its host will go on in the context. -/
structure Machine.Waiting (m : Machine) (c : Core) (call : PendingCall) (host : Context) :
    Prop where
  bootFailed : m.bootFailed = false
  inFlight : (m.cpu c).inFlight = some call
  host : m.context c .nonSecure = host

namespace Episode

/-- What can happen while `c` waits. Other cores trap as they like; `c` traps from the realm
world, and neither completes its call nor leaves a synchronous entry. -/
def Meanwhile (e : Episode) (c : Core) : Prop :=
  match e.activity with
  | .operation (.call args flags) =>
      e.core = c → flags.world = .realm ∧ callCode args ≠ Command.requestComplete.code ∧
        callCode args ≠ Service.bootComplete.code
  | .operation (.interrupt interrupted) => e.core = c → interrupted = .realm
  | .software _ => True
  | _ => False

instance (e : Episode) (c : Core) : Decidable (e.Meanwhile c) :=
  match e with
  | ⟨_, _, .operation (.call ..), _⟩ => inferInstanceAs (Decidable (_ → _))
  | ⟨_, _, .operation (.interrupt _), _⟩ => inferInstanceAs (Decidable (_ → _))
  | ⟨_, _, .software _, _⟩ => .isTrue trivial
  | ⟨_, _, .comeback .., _⟩ | ⟨_, _, .operation .setup, _⟩ | ⟨_, _, .operation .coldBoot, _⟩
  | ⟨_, _, .operation .warmBoot, _⟩ | ⟨_, _, .operation .initTimer, _⟩
  | ⟨_, _, .operation .enter, _⟩ | ⟨_, _, .operation (.leave _), _⟩ => .isFalse id

variable {e : Episode} {m : Machine} {c : Core}

theorem Meanwhile.caller (h : e.Meanwhile c) (hc : e.core = c) {w : World}
    (hw : e.activity.caller? = some w) : w = .realm := by
  unfold Meanwhile at h
  unfold Activity.caller? at hw
  split at h
  · rename_i hactivity
    rw [hactivity] at hw
    cases hw
    exact (h hc).1
  · rename_i hactivity
    rw [hactivity] at hw
    cases hw
    exact h hc
  · rename_i hactivity
    rw [hactivity] at hw
    cases hw
  · exact h.elim

theorem Meanwhile.completed? (h : e.Meanwhile c) (hc : e.core = c) : e.completed? m = none := by
  unfold Episode.completed?
  split
  · rename_i args flags hactivity
    rw [Meanwhile, hactivity] at h
    rw [if_neg]
    intro hcompletes
    exact (h hc).2.1 hcompletes.2.2
  · rfl

theorem Meanwhile.next_untrapped (h : e.Meanwhile c) (hcaller : e.activity.caller? = none) :
    ∃ live, e.next m = { m with live } := by
  unfold Meanwhile at h
  split at h
  · rename_i hactivity
    rw [hactivity] at hcaller
    cases hcaller
  · rename_i hactivity
    rw [hactivity] at hcaller
    cases hcaller
  · rename_i live hactivity
    refine ⟨live, ?_⟩
    rw [next, hactivity]
    rfl
  · exact h.elim

end Episode

namespace Machine.Waiting
variable {m : Machine} {c : Core} {call : PendingCall} {host : Context}

/-- Neither the call in flight nor the context of the host changes while the core waits. -/
theorem next (h : m.Waiting c call host) {e : Episode} (he : e.Meanwhile c) :
    (e.next m).Waiting c call host := by
  obtain ⟨hboot, hcall, hhost⟩ := h
  have heffect := e.effect m
  generalize hnext : e.next m = m' at heffect
  cases heffect with
  | forwards hforwarded hcompleted hcaller =>
      have hcore : c ≠ e.core := by
        intro hc
        cases he.caller hc.symm hcaller
      constructor
      · rw [bootFailed_forwarded, bootFailed_told, hboot]
      · rw [inFlight_forwarded, if_neg hcore, cpu_told, hcall]
      · rw [context_forwarded, if_neg hcore, context_told, hhost]
  | completes hforwarded hcompleted hcaller htold =>
      have hcore : c ≠ e.core := by
        intro hc
        rw [he.completed? hc.symm] at hcompleted
        cases hcompleted
      constructor
      · rw [bootFailed_completed, hboot]
      · rw [inFlight_completed, if_neg hcore, hcall]
      · rw [context_completed_of_ne _ _ _ _ _ _ hcore, hhost]
  | @goesOn w values hforwarded hcompleted hcaller =>
      have hcontext : ¬ (c = e.core ∧ .nonSecure = w) := by
        intro hc
        have hw := he.caller hc.1.symm hcaller
        rw [← hc.2] at hw
        cases hw
      constructor
      · exact (bootFailed_told m _).trans hboot
      · rw [inFlight_written, cpu_told, hcall]
      · rw [context_written, if_neg hcontext, context_told, hhost]
  | untrapped hforwarded hcompleted hcaller htold hbeside =>
      obtain ⟨live, hlive⟩ := he.next_untrapped (m := m) hcaller
      rw [← hnext, hlive]
      exact ⟨hboot, hcall, hhost⟩

theorem after (h : m.Waiting c call host) {run : List Episode}
    (hrun : ∀ e ∈ run, e.Meanwhile c) : (m.after run).Waiting c call host := by
  induction run generalizing m with
  | nil => exact h
  | cons e run ih =>
      have hfirst := h.next (hrun e List.mem_cons_self)
      have hrest : ∀ u ∈ run, u.Meanwhile c := fun u hu => hrun u (List.mem_cons_of_mem e hu)
      exact ih hfirst hrest

end Machine.Waiting

/-- A core that hands a call on waits for its completion, with the host's registers saved. -/
theorem Episode.waiting_next {e : Episode} {m : Machine} {call : PendingCall}
    (hboot : m.bootFailed = false) (hcall : e.forwarded? m = some call) :
    (e.next m).Waiting e.core call
      { m.context e.core .nonSecure with system := m.live } := by
  have heffect := e.effect m
  generalize e.next m = m' at heffect
  cases heffect with
  | forwards hforwarded hcompleted hcaller =>
      cases hcall.symm.trans hforwarded
      constructor
      · rw [Machine.bootFailed_forwarded, Machine.bootFailed_told, hboot]
      · rw [Machine.inFlight_forwarded, if_pos rfl]
      · rw [Machine.context_forwarded, if_pos rfl, Machine.context_told, Machine.live_told]
  | completes hforwarded => cases hcall.symm.trans hforwarded
  | goesOn hforwarded => cases hcall.symm.trans hforwarded
  | untrapped hforwarded => cases hcall.symm.trans hforwarded

/-! ## The way back -/

theorem roundTrip_completed {m during : Machine} {c : Core} {call : PendingCall}
    (h : during.Waiting c call { m.context c .nonSecure with system := m.live })
    (args : Arguments) (clock : Clock) :
    RoundTrip c call.origin args m during (during.completed c call args clock) where
  inFlight := by rw [Machine.inFlight_completed, if_pos rfl]
  next := during.next_completed c call args clock
  live := by rw [Machine.live_completed, h.host]
  realm := by rw [Machine.context_completed_realm]
  elr := by rw [Machine.context_completed_nonSecure, h.host]
  spsr := by rw [Machine.context_completed_nonSecure, h.host]
  answered := by
    intro horigin i
    have hroom : i.val < generalCount := Nat.lt_trans i.isLt (by decide)
    have hlength : i.val < (hostAnswer args).length := i.isLt
    rw [Machine.context_completed_nonSecure, PendingCall.answered, horigin]
    dsimp only
    rw [GeneralRegisters.load_of_lt _ hroom hlength]
    exact hostAnswer_getElem args i hlength
  kept := by
    intro i hi
    rw [Machine.context_completed_nonSecure, h.host, PendingCall.answered]
    cases horigin : call.origin with
    | timer => rfl
    | host =>
        have hfive : 5 ≤ i.val := by simpa [horigin] using hi
        exact GeneralRegisters.load_of_le _ i.isLt hfive

/-- A host whose core served a call in the realm world finds its registers as it left them,
but for the answer of a call it made itself. -/
theorem completion_restores_host {e : Episode} {m : Machine} {call : PendingCall}
    {meanwhile : List Episode} {b : Board} {args : Arguments} {flags : CallFlags}
    (hboot : m.bootFailed = false) (hcall : e.forwarded? m = some call)
    (hmeanwhile : ∀ u ∈ meanwhile, u.Meanwhile e.core) (hc : b.core = e.core.val)
    (hworld : flags.world = .realm)
    (hcode : callCode args = Command.requestComplete.code) :
    let during := (e.next m).after meanwhile
    let outcome := handleCall args flags b during
    outcome.result = .ok (.eret .nonSecure) ∧
      RoundTrip e.core call.origin args m during outcome.machine := by
  intro during outcome
  have hwaiting : during.Waiting e.core call
      { m.context e.core .nonSecure with system := m.live } :=
    (e.waiting_next hboot hcall).after hmeanwhile
  have hcompletes : Completes during args flags := ⟨hwaiting.bootFailed, hworld, hcode⟩
  have houtcome : outcome = _ :=
    (handleCall_completes hcompletes).trans (complete_apply hc hwaiting.inFlight)
  rw [houtcome]
  exact ⟨rfl, roundTrip_completed hwaiting args b.clock⟩

namespace Scenario

/-- A realm was created on core 0, and a host runs on core 2. -/
def beforeRetention : Machine :=
  ({} : Machine).after [hostCall 0 0 .realmCreate 0x1000, completion 0 0 0,
    episode 2 1 (.software ⟨Vector.replicate SystemRegister.count 0x77⟩)]

/-- The realm manager uses core 2 and is interrupted, and core 1 makes a call. -/
def whileAsked : List Episode :=
  [episode 2 1 (.software ⟨Vector.replicate SystemRegister.count 0x99⟩),
    episode 2 1 (.operation (.call (Arguments.ofList [Service.features.code.toUInt64])
      ⟨CallFlags.nonSecureBit ||| CallFlags.realmBit⟩)),
    hostCall 1 1 .realmActivate 0x1000,
    episode 2 2 (.operation (.interrupt .realm))]

end Scenario

open Scenario in
/-- The timer interrupts the host on core 2 to ask a realm for its retention. -/
theorem completion_restores_host_of_retention :
    let before := beforeRetention
    let during := ((timerInterruptsHost 2 2).next before).after whileAsked
    let answer := Arguments.ofList [Command.requestComplete.code.toUInt64, 60]
    let outcome := handleCall answer ⟨CallFlags.nonSecureBit ||| CallFlags.realmBit⟩
      (completion 2 3 60).board during
    outcome.result = .ok (.eret .nonSecure) ∧
      RoundTrip 2 .timer answer before during outcome.machine := by
  have hboot : beforeRetention.bootFailed = false := by decide
  have hcall : (timerInterruptsHost 2 2).forwarded? beforeRetention =
      some ⟨Command.retentionGet.code, (AutomaticCall.askRetention 0x1000).args, .timer⟩ := by
    decide
  have hmeanwhile : ∀ u ∈ whileAsked, u.Meanwhile 2 := by decide
  exact completion_restores_host hboot hcall hmeanwhile rfl (by decide) (by decide)

end RealmDispatch
