import RealmDispatch.Proofs.DispatcherRuns

/-!
# What boots and synchronous entries come to

A setup fails one of its checks, or it fixes the entry point and makes a realm context
start there. A synchronous entry is refused, or it gives the core to the realm manager,
and a boot is a synchronous entry with something before and after it. Each case is the
outcome of the step in closed form, like those of calls and interrupts.

The machine at the moment the realm manager gets the core is of interest of its own,
since the realm manager relies on it. `Entry.prepare` is a synchronous entry up to that
moment. After it the entry only stores the stack that was left behind.
-/
namespace RealmDispatch
open Step

/-! ## Setups -/

/-- What the checks of a setup come to: an image to start, unless one of them fails. -/
def Board.checked (b : Board) : Except BootError EntryPoint :=
  if b.realmsSupported then
    match b.startable? with
    | none => .error .noImage
    | some found =>
        match b.manifestError with
        | some code => .error (.manifestLoad code)
        | none => .ok found
  else .error .realmsUnsupported

theorem Board.pc_of_checked {b : Board} {found : EntryPoint} (h : b.checked = .ok found) :
    found.pc ≠ 0 := by
  have hstartable : b.startable? = some found := by
    unfold checked at h
    split at h
    · split at h
      · cases h
      · rename_i e hstartable
        split at h
        · cases h
        · rw [hstartable, Except.ok.inj h]
    · cases h
  have hpc := (Option.filter_eq_some_iff.mp hstartable).2
  simpa using hpc

/-- What a setup tells the realm manager in the first registers. -/
def Board.bootArguments (b : Board) (c : Core) : List UInt64 :=
  [UInt64.ofNat c, interfaceVersion, UInt64.ofNat coreCount, b.shared.base]

/-- With the realm context of a core starting afresh. -/
def Machine.restarted (m : Machine) (c : Core) (e : EntryPoint) (args : List UInt64) : Machine :=
  m.setCpu c ((m.cpu c).initRealm { e with args := Arguments.ofList args })

theorem checkBoard_apply (b : Board) (m : Machine) :
    ∃ requests notices, checkBoard b m =
      { result := .ok b.checked, machine := m, requests := requests, notices := notices } := by
  unfold checkBoard Board.checked
  cases hrealms : b.realmsSupported with
  | false => simp [hrealms]
  | true =>
      cases himage : b.startable? with
      | none => simp [hrealms, himage]
      | some found =>
          cases hmanifest : b.manifestError with
          | none => simp [hrealms, himage, hmanifest]
          | some code => simp [hrealms, himage, hmanifest]

section Setup
variable {b : Board} {c : Core} (m : Machine)

/-- A setup that fails changes nothing but the flag, whatever it has failed at. -/
theorem setup_failed {cause : BootError} (h : b.checked = .error cause) :
    (setup b m).result = .ok (.boot (.error cause)) ∧
      (setup b m).machine = { m with bootFailed := true } := by
  obtain ⟨requests, notices, hchecks⟩ := checkBoard_apply b m
  rw [h] at hchecks
  simp [setup, hchecks]

/-- The first setup that passes fixes the entry point. Later ones start from the same. -/
theorem setup_passed (hc : b.core = c.val) {found : EntryPoint} (h : b.checked = .ok found) :
    let e := m.entryPoint.getD found
    (setup b m).result = .ok (.boot (.ok ())) ∧
      (setup b m).machine =
        ({ m with entryPoint := some e } : Machine).restarted c e (b.bootArguments c) := by
  obtain ⟨requests, notices, hchecks⟩ := checkBoard_apply b m
  rw [h] at hchecks
  simp [setup, hchecks, core_eq hc, startRealm, initTimer, Machine.restarted,
    Board.bootArguments]

end Setup

/-! ## Synchronous entries -/

/-- Whether a core may be given to the realm manager. -/
structure Machine.Admits (m : Machine) (c : Core) : Prop where
  initialised : (m.cpu c).realmInitialised = true
  free : (m.slot c).pending = false

namespace Machine
variable (m : Machine) (c : Core)

/-- The machine as the realm manager gets the core. -/
def prepared : Machine :=
  ((m.setSlot c { m.slot c with pending := true }).restoreSystem c .realm).setCpu c
    { m.cpu c with next := some .realm }

/-- The machine while the realm manager has the core: the stack left behind is stored. -/
def entered (stack : UInt64) : Machine := (m.prepared c).setSlot c ⟨stack, true⟩

/-- The machine after the realm manager has come back on `d` from an entry on `c`. -/
def left (d : Core) : Machine :=
  (m.saveSystem d .realm).setSlot c { m.slot c with pending := false }

section
variable (d : Core) (cpu : Cpu) (w : World) (e : EntryPoint) (args : List UInt64)
  (stack : UInt64)

@[simp] theorem slot_setCpu : (m.setCpu c cpu).slot d = m.slot d := rfl

@[simp] theorem slot_saveSystem : (m.saveSystem c w).slot d = m.slot d := rfl

@[simp] theorem slot_restoreSystem : (m.restoreSystem c w).slot d = m.slot d := rfl

@[simp] theorem slot_failed : ({ m with bootFailed := true } : Machine).slot d = m.slot d := rfl

@[simp] theorem slot_restarted : (m.restarted c e args).slot d = m.slot d := rfl

@[simp] theorem slot_prepared :
    (m.prepared c).slot d = if d = c then { m.slot c with pending := true } else m.slot d := by
  simp [prepared]

@[simp] theorem slot_entered :
    (m.entered c stack).slot d = if d = c then ⟨stack, true⟩ else m.slot d := by
  by_cases hd : d = c
  · simp [entered, hd]
  · simp [entered, hd]

@[simp] theorem slot_left (d' : Core) :
    (m.left c d).slot d' = if d' = c then { m.slot c with pending := false } else m.slot d' := by
  simp [left]

end

end Machine

namespace Entry

/-- The part of a synchronous entry before the realm manager gets the core. -/
def prepare : Step Core := do
  let c ← Step.core
  let m ← Step.machine
  if !(m.cpu c).realmInitialised then Step.halt .realmUninitialised
  else if (m.slot c).pending then Step.halt .entryNested
  else do
    Step.modifySlot c fun s => { s with pending := true }
    Step.restoreSystem c .realm
    Step.modifyCpu c fun cpu => { cpu with next := some .realm }
    pure c

section
variable {b : Board} {m : Machine} {c : Core} (hc : b.core = c.val)
include hc

theorem prepare_apply (h : m.Admits c) :
    prepare b m =
      { result := .ok c, machine := m.prepared c, requests := [.restoreSystem] } := by
  simp [prepare, core_eq hc, h.initialised, h.free, modifySlot, restoreSystem, Machine.prepared]
  rfl

theorem prepare_uninitialised (h : (m.cpu c).realmInitialised = false) :
    prepare b m = { result := .error .realmUninitialised, machine := m } := by
  simp [prepare, core_eq hc, h, Step.halt, Outcome.andThen]

theorem prepare_nested (h : (m.cpu c).realmInitialised = true)
    (hpending : (m.slot c).pending = true) :
    prepare b m = { result := .error .entryNested, machine := m } := by
  simp [prepare, core_eq hc, h, hpending, Step.halt, Outcome.andThen]

end

/-- After `prepare` the core is given away, and the stack is stored. -/
theorem begin_eq (purpose : Purpose) :
    Entry.begin purpose = (do
      let c ← prepare
      Step.request .enterRealm
      let b ← Step.board
      Step.modifySlot c fun s => { s with stack := b.stack }
      pure ⟨c, purpose⟩) := by
  funext b m
  -- Both sides stop at the same checks, so the cases are those of the checks.
  by_cases hcore : b.core < coreCount
  · obtain ⟨c, hc⟩ : ∃ c : Core, b.core = c.val := ⟨⟨b.core, hcore⟩, rfl⟩
    by_cases hready : (m.cpu c).realmInitialised = true
    · by_cases hpending : (m.slot c).pending = true
      · rw [bind_apply, prepare_nested hc hready hpending]
        simp [Entry.begin, core_eq hc, hready, hpending, Step.halt, Outcome.andThen]
      · have hadmits : m.Admits c := ⟨hready, by simpa using hpending⟩
        rw [bind_apply, prepare_apply hc hadmits]
        simp [Entry.begin, core_eq hc, hready, hpending, modifySlot, restoreSystem,
          Machine.prepared]
        rfl
    · have hready : (m.cpu c).realmInitialised = false := by simpa using hready
      rw [bind_apply, prepare_uninitialised hc hready]
      simp [Entry.begin, core_eq hc, hready, Step.halt, Outcome.andThen]
  · simp [Entry.begin, prepare, Step.core, hcore, Outcome.andThen]

section
variable {b : Board} {m : Machine} {c : Core} (purpose : Purpose) (hc : b.core = c.val)
include hc

theorem begin_apply (h : m.Admits c) :
    Entry.begin purpose b m =
      { result := .ok ⟨c, purpose⟩
        machine := m.entered c b.stack
        requests := [.restoreSystem, .enterRealm] } := by
  rw [begin_eq, bind_apply, prepare_apply hc h]
  simp [modifySlot, Machine.entered]

theorem begin_uninitialised (h : (m.cpu c).realmInitialised = false) :
    Entry.begin purpose b m = { result := .error .realmUninitialised, machine := m } := by
  rw [begin_eq, bind_apply, prepare_uninitialised hc h]
  rfl

theorem begin_nested (h : (m.cpu c).realmInitialised = true)
    (hpending : (m.slot c).pending = true) :
    Entry.begin purpose b m = { result := .error .entryNested, machine := m } := by
  rw [begin_eq, bind_apply, prepare_nested hc h hpending]
  rfl

/-- An entry that is refused halts the core and changes nothing. -/
theorem begin_halts (h : ¬ m.Admits c) :
    ∃ halt, Entry.begin purpose b m = { result := .error halt, machine := m } := by
  by_cases hready : (m.cpu c).realmInitialised = true
  · have hpending : (m.slot c).pending = true := by
      by_contra hfree
      exact h ⟨hready, by simpa using hfree⟩
    exact ⟨.entryNested, begin_nested purpose hc hready hpending⟩
  · exact ⟨.realmUninitialised, begin_uninitialised purpose hc (by simpa using hready)⟩

end

/-- Whether a status fails the boot that the entry was made for. -/
def fails (entry : Entry) (status : UInt64) : Bool := entry.purpose != .plain && status != 0

/-- What the operation that made the entry answers in the end. -/
def answer (entry : Entry) (status : UInt64) : Answer :=
  match entry.purpose with
  | .plain => .status status
  | .coldBoot | .warmBoot =>
      .boot (if status = 0 then .ok () else .error (.managerBoot status))

theorem finish_apply {b : Board} {m : Machine} {d : Core} (entry : Entry) (status : UInt64)
    (hd : b.core = d.val) :
    ∃ notices, entry.finish status b m =
      { result := .ok (entry.answer status)
        machine :=
          if entry.fails status then { m.left entry.core d with bootFailed := true }
          else m.left entry.core d
        requests := [.saveSystem]
        notices := notices } := by
  obtain ⟨c, purpose⟩ := entry
  have hslot : (m.saveSystem d .realm).slot c = m.slot c := rfl
  by_cases hstatus : status = 0
  · cases purpose <;>
      simp [Entry.finish, core_eq hd, saveSystem, modifySlot, bootStatus, hstatus, answer, fails,
        Machine.left, hslot]
  · cases purpose <;>
      simp [Entry.finish, core_eq hd, saveSystem, modifySlot, bootStatus, hstatus, answer, fails,
        Machine.left, hslot]

/-- A plain entry answers with what the realm manager has come back with. -/
theorem finish_plain {b : Board} {m : Machine} {c d : Core} (status : UInt64)
    (hd : b.core = d.val) :
    Entry.finish ⟨c, .plain⟩ status b m =
      { result := .ok (.status status), machine := m.left c d, requests := [.saveSystem] } := by
  have hslot : (m.saveSystem d .realm).slot c = m.slot c := rfl
  simp [Entry.finish, core_eq hd, saveSystem, modifySlot, Machine.left, hslot]

/-- A boot is told whether the status was 0, and is remembered to have failed if not. -/
theorem finish_boot {b : Board} {m : Machine} {c d : Core} {purpose : Purpose}
    (hboot : purpose ≠ .plain) (status : UInt64) (hd : b.core = d.val) :
    ∃ notices, Entry.finish ⟨c, purpose⟩ status b m =
      { result := .ok (.boot (if status = 0 then .ok () else .error (.managerBoot status)))
        machine := if status = 0 then m.left c d else { m.left c d with bootFailed := true }
        requests := [.saveSystem]
        notices := notices } := by
  obtain ⟨notices, hfinish⟩ := Entry.finish_apply (m := m) ⟨c, purpose⟩ status hd
  refine ⟨notices, ?_⟩
  rw [hfinish]
  cases purpose with
  | plain => exact absurd rfl hboot
  | _ => by_cases hstatus : status = 0 <;> simp [answer, fails, hstatus]

end Entry

/-! ## Operations that begin with an entry -/

/-- The synchronous entry that an operation on `c` makes: what it is for, and the machine
that it finds. A boot that is refused makes none. -/
def Operation.begins? (op : Operation) (c : Core) (m : Machine) : Option (Purpose × Machine) :=
  match op with
  | .enter => some (.plain, m)
  | .coldBoot => if m.bootFailed then none else some (.coldBoot, m)
  | .warmBoot =>
      if m.bootFailed then none
      else m.entryPoint.map fun e => (.warmBoot, m.restarted c e [UInt64.ofNat c])
  | _ => none

section Operation
variable {b : Board} {m m₀ : Machine} {c : Core} {op : Operation} {purpose : Purpose}

theorem coldBoot_refused (b : Board) (h : m.bootFailed = true) :
    coldBoot b m =
      { result := .ok (.answered (.boot (.error .bootFailed))), machine := m } := by
  simp [coldBoot, h]

theorem warmBoot_refused (b : Board) (h : m.bootFailed = true ∨ m.entryPoint = none) :
    warmBoot b m =
      { result := .ok (.answered (.boot (.error .bootFailed))), machine := m } := by
  rcases h with h | h
  · simp [warmBoot, h]
  · cases hboot : m.bootFailed <;> simp [warmBoot, h, hboot]

/-- Apart from the entry such an operation only gives notices and asks for the timer. -/
theorem start_of_entry (hc : b.core = c.val) (h : op.begins? c m = some (purpose, m₀)) :
    ∃ requests notices, .enterRealm ∉ requests ∧
      op.start b m = ((do
        let entry ← Entry.begin purpose
        pure (.entered entry) : Step Progress) b m₀).after requests notices := by
  cases op with
  | enter =>
      cases h
      exact ⟨[], [], by simp, rfl⟩
  | coldBoot =>
      simp only [Operation.begins?, Option.ite_none_left_eq_some] at h
      obtain ⟨hboot, h⟩ := h
      cases h
      refine ⟨[], [.coldBootBegun], by simp, ?_⟩
      simp [Operation.start, coldBoot, hboot]
  | warmBoot =>
      simp only [Operation.begins?, Option.ite_none_left_eq_some, Option.map_eq_some_iff] at h
      obtain ⟨hboot, e, he, h⟩ := h
      cases h
      refine ⟨[.enableInterrupt timerInterrupt timerPriority], [], by simp, ?_⟩
      simp [Operation.start, warmBoot, hboot, he, core_eq hc, startRealm, initTimer,
        Machine.restarted]
  | _ => cases h

/-- A core that can be given away is given away. -/
theorem start_admits (hc : b.core = c.val) (h : op.begins? c m = some (purpose, m₀))
    (hadmits : m₀.Admits c) :
    ∃ requests notices, .enterRealm ∉ requests ∧ op.start b m =
      { result := .ok (.entered ⟨c, purpose⟩)
        machine := m₀.entered c b.stack
        requests := requests ++ [.enterRealm]
        notices := notices } := by
  obtain ⟨requests, notices, hrequests, hstart⟩ := start_of_entry hc h
  refine ⟨requests ++ [.restoreSystem], notices, by simp [hrequests], ?_⟩
  rw [hstart, bind_apply, Entry.begin_apply purpose hc hadmits]
  simp

/-- One that cannot halts. -/
theorem start_refused (hc : b.core = c.val) (h : op.begins? c m = some (purpose, m₀))
    (hadmits : ¬ m₀.Admits c) :
    ∃ halt requests notices, .enterRealm ∉ requests ∧ op.start b m =
      { result := .error halt, machine := m₀, requests := requests, notices := notices } := by
  obtain ⟨requests, notices, hrequests, hstart⟩ := start_of_entry hc h
  obtain ⟨halt, hhalt⟩ := Entry.begin_halts purpose hc hadmits
  refine ⟨halt, requests, notices, hrequests, ?_⟩
  rw [hstart, bind_apply, hhalt]
  simp [Outcome.andThen]

end Operation

namespace Episode
variable {e : Episode} {m m₀ : Machine} {purpose : Purpose}

/-- The synchronous entry that the episode makes. -/
def begins? (e : Episode) (m : Machine) : Option (Purpose × Machine) :=
  match e.activity with
  | .operation op => op.begins? e.core m
  | _ => none

/-- Everything an episode can do that is neither a call nor an interrupt. -/
inductive Untrapped (e : Episode) (m : Machine) : Machine → Prop
  | nothing {op : Operation} : e.activity = .operation op → op ≠ .setup → e.begins? m = none →
      Untrapped e m m
  | setupFailed {cause : BootError} : e.activity = .operation .setup →
      e.board.checked = .error cause → Untrapped e m { m with bootFailed := true }
  | setupPassed {found : EntryPoint} : e.activity = .operation .setup →
      e.board.checked = .ok found →
      Untrapped e m (({ m with entryPoint := some (m.entryPoint.getD found) } : Machine).restarted
        e.core (m.entryPoint.getD found) (e.board.bootArguments e.core))
  | entered {purpose : Purpose} {m₀ : Machine} : e.begins? m = some (purpose, m₀) →
      m₀.Admits e.core →
      Untrapped e m (m₀.entered e.core e.board.stack)
  | refused {purpose : Purpose} {m₀ : Machine} : e.begins? m = some (purpose, m₀) →
      ¬ m₀.Admits e.core → Untrapped e m m₀
  | cameBack {entry : Entry} {status : UInt64} : e.activity = .comeback entry status →
      Untrapped e m (if entry.fails status then { m.left entry.core e.core with bootFailed := true }
        else m.left entry.core e.core)
  | software {live : SystemRegisters} : e.activity = .software live →
      Untrapped e m { m with live }

/-- A trap is no setup. -/
theorem operation_of_caller {w : World} (h : e.activity.caller? = some w) :
    ∃ op, e.activity = .operation op ∧ op ≠ .setup := by
  cases hactivity : e.activity with
  | operation op =>
      refine ⟨op, rfl, ?_⟩
      rintro rfl
      rw [hactivity] at h
      cases h
  | _ =>
      rw [hactivity] at h
      cases h

/-- A setup makes no entry. -/
theorem operation_of_begins (h : e.begins? m = some (purpose, m₀)) :
    ∃ op, e.activity = .operation op ∧ op ≠ .setup := by
  cases hactivity : e.activity with
  | operation op =>
      refine ⟨op, rfl, ?_⟩
      rintro rfl
      rw [begins?, hactivity] at h
      cases h
  | _ =>
      rw [begins?, hactivity] at h
      cases h

/-- An entry finds the machine as it is, unless a warm boot has made its core start afresh. -/
theorem found_of_begins (h : e.begins? m = some (purpose, m₀)) :
    m₀ = m ∨ ∃ found, m.entryPoint = some found ∧
      m₀ = m.restarted e.core found [UInt64.ofNat e.core] := by
  obtain ⟨c, b, activity, hc⟩ := e
  cases activity with
  | operation op =>
      rw [begins?] at h
      cases op with
      | enter =>
          cases h
          exact Or.inl rfl
      | coldBoot =>
          simp only [Operation.begins?, Option.ite_none_left_eq_some] at h
          cases h.2
          exact Or.inl rfl
      | warmBoot =>
          simp only [Operation.begins?, Option.ite_none_left_eq_some, Option.map_eq_some_iff] at h
          obtain ⟨-, found, hfound, hrestarted⟩ := h
          cases hrestarted
          exact Or.inr ⟨found, hfound, rfl⟩
      | _ => cases h
  | _ => cases h

theorem entryPoint_of_begins (h : e.begins? m = some (purpose, m₀)) :
    m₀.entryPoint = m.entryPoint := by
  rcases found_of_begins h with rfl | ⟨found, -, rfl⟩
  · rfl
  · rfl

theorem bootFailed_of_begins (h : e.begins? m = some (purpose, m₀)) :
    m₀.bootFailed = m.bootFailed := by
  rcases found_of_begins h with rfl | ⟨found, -, rfl⟩
  · rfl
  · rfl

theorem slot_of_begins (h : e.begins? m = some (purpose, m₀)) (c : Core) :
    m₀.slot c = m.slot c := by
  rcases found_of_begins h with rfl | ⟨found, -, rfl⟩
  · rfl
  · rfl

theorem next_entered (h : e.begins? m = some (purpose, m₀)) (hadmits : m₀.Admits e.core) :
    e.next m = m₀.entered e.core e.board.stack := by
  obtain ⟨c, b, activity, hc⟩ := e
  cases activity with
  | operation op =>
      obtain ⟨requests, notices, -, hstart⟩ := start_admits hc h hadmits
      exact congrArg Outcome.machine hstart
  | _ => cases h

theorem next_refused (h : e.begins? m = some (purpose, m₀)) (hadmits : ¬ m₀.Admits e.core) :
    e.next m = m₀ := by
  obtain ⟨c, b, activity, hc⟩ := e
  cases activity with
  | operation op =>
      obtain ⟨halt, requests, notices, -, hstart⟩ := start_refused hc h hadmits
      exact congrArg Outcome.machine hstart
  | _ => cases h

theorem untrapped_of_setup (h : e.activity = .operation .setup) : e.Untrapped m (e.next m) := by
  have hnext : e.next m = (setup e.board m).machine := by
    rw [next, h]
    exact machine_answered setup .answered e.board m
  rw [hnext]
  cases hchecked : e.board.checked with
  | error cause =>
      rw [(setup_failed m hchecked).2]
      exact .setupFailed h hchecked
  | ok found =>
      rw [(setup_passed m e.here hchecked).2]
      exact .setupPassed h hchecked

/-- A boot that makes no entry is refused. -/
theorem boot_refused {op : Operation} (hboot : op = .coldBoot ∨ op = .warmBoot) {c : Core}
    (h : op.begins? c m = none) (b : Board) :
    op.start b m =
      { result := .ok (.answered (.boot (.error .bootFailed))), machine := m } := by
  rcases hboot with rfl | rfl
  · have hfailed : m.bootFailed = true := by
      by_contra hserved
      simp [Operation.begins?, hserved] at h
    exact coldBoot_refused b hfailed
  · have hfailed : m.bootFailed = true ∨ m.entryPoint = none := by
      by_cases hserved : m.bootFailed = true
      · exact Or.inl hserved
      · exact Or.inr (by simpa [Operation.begins?, hserved] using h)
    exact warmBoot_refused b hfailed

/-- The closed forms of all that is neither a call nor an interrupt. -/
theorem untrapped (m : Machine) (h : e.activity.caller? = none) : e.Untrapped m (e.next m) := by
  cases hbegins : e.begins? m with
  | some entry =>
      by_cases hadmits : entry.2.Admits e.core
      · rw [next_entered hbegins hadmits]
        exact .entered hbegins hadmits
      · rw [next_refused hbegins hadmits]
        exact .refused hbegins hadmits
  | none =>
      cases hactivity : e.activity with
      | software live =>
          rw [next, hactivity]
          exact .software hactivity
      | comeback entry status =>
          obtain ⟨notices, hfinish⟩ := entry.finish_apply (m := m) status e.here
          rw [next, hactivity, Activity.perform, hfinish]
          exact .cameBack hactivity
      | operation op =>
          have hnone : op.begins? e.core m = none := by rwa [begins?, hactivity] at hbegins
          have hsame (hop : op ≠ .setup) (hnext : (op.start e.board m).machine = m) :
              e.Untrapped m (e.next m) := by
            rw [next, hactivity, Activity.perform, hnext]
            exact .nothing hactivity hop hbegins
          cases op with
          | setup => exact untrapped_of_setup hactivity
          | coldBoot => exact hsame (by simp) (by rw [boot_refused (Or.inl rfl) hnone])
          | warmBoot => exact hsame (by simp) (by rw [boot_refused (Or.inr rfl) hnone])
          | initTimer => exact hsame (by simp) rfl
          | enter => cases hnone
          | leave value =>
              refine hsame (by simp) ?_
              rw [Operation.start, machine_answered _ fun next => .answered (.next next)]
              exact machine_leaveEntry value e.here
          | call args flags =>
              rw [hactivity] at h
              cases h
          | interrupt interrupted =>
              rw [hactivity] at h
              cases h

end Episode

/-! ## Giving the core away -/

theorem Law.coreKept_booting (c : Core) : Law.Booting (fun _ rs _ => .enterRealm ∉ rs) c where
  nothing _ := List.not_mem_nil
  chained hfirst hsecond := by
    rw [List.mem_append]
    rintro (hin | hin)
    · exact hfirst hin
    · exact hsecond hin
  request _ r hr := by
    rw [List.mem_singleton]
    rintro rfl
    cases hr
  context _ _ _ := List.not_mem_nil
  next _ _ := List.not_mem_nil
  live _ _ := List.not_mem_nil
  bootFailed _ := List.not_mem_nil
  entryPoint _ _ := List.not_mem_nil

theorem Law.coreKept_trapping (c : Core) : Law.Trapping (fun _ rs _ => .enterRealm ∉ rs) c where
  toBasic := (coreKept_booting c).toBasic
  inFlight _ _ := List.not_mem_nil
  tell m e := by
    cases (m.tracker.handle e).2.2.update? with
    | none => exact List.not_mem_nil
    | some update => cases update <;> simp [TimerUpdate.request]

namespace Episode
variable {e : Episode} {m m₀ : Machine} {purpose : Purpose}

/-- The realm manager gets the core last of all. -/
theorem requests_of_entry (h : e.begins? m = some (purpose, m₀)) (hadmits : m₀.Admits e.core) :
    ∃ requests, .enterRealm ∉ requests ∧ e.requests m = requests ++ [.enterRealm] := by
  obtain ⟨c, b, activity, hc⟩ := e
  cases activity with
  | operation op =>
      obtain ⟨requests, notices, hrequests, hstart⟩ := start_admits hc h hadmits
      exact ⟨requests, hrequests, congrArg Outcome.requests hstart⟩
  | _ => cases h

/-- Calls and interrupts do not give the core away, nor do setups and all that is no entry. -/
theorem core_kept (h : e.begins? m = none) : .enterRealm ∉ e.requests m := by
  cases hcaller : e.activity.caller? with
  | some w => exact obeys_of_trapped (Law.coreKept_trapping e.core) hcaller m
  | none =>
      obtain ⟨c, b, activity, hc⟩ := e
      have hbooting := Law.coreKept_booting c
      have hb := hbooting.toBasic
      cases activity with
      | software live => exact List.not_mem_nil
      | comeback entry status =>
          obtain ⟨notices, hfinish⟩ := entry.finish_apply (m := m) status hc
          rw [requests, Activity.requests, hfinish]
          simp
      | operation op =>
          have hnone : op.begins? c m = none := h
          cases op with
          | setup => exact Obeys.bind hb (obeys_setup hbooting) (fun _ => .pure hb _) b m hc
          | coldBoot =>
              rw [requests, Activity.requests, boot_refused (Or.inl rfl) hnone]
              exact List.not_mem_nil
          | warmBoot =>
              rw [requests, Activity.requests, boot_refused (Or.inr rfl) hnone]
              exact List.not_mem_nil
          | initTimer => exact Obeys.bind hb (.request hb rfl) (fun _ => .pure hb _) b m hc
          | enter => cases hnone
          | leave value =>
              exact Obeys.bind hb (obeys_leaveEntry hb value) (fun _ => .pure hb _) b m hc
          | call args flags => cases hcaller
          | interrupt interrupted => cases hcaller

/-- Only a synchronous entry that is not refused gives the core to the realm manager. -/
theorem entry_of_requests (h : .enterRealm ∈ e.requests m) :
    ∃ purpose m₀, e.begins? m = some (purpose, m₀) ∧ m₀.Admits e.core := by
  cases hbegins : e.begins? m with
  | none => exact absurd h (core_kept hbegins)
  | some entry =>
      obtain ⟨purpose, m₀⟩ := entry
      refine ⟨purpose, m₀, rfl, ?_⟩
      by_contra hadmits
      obtain ⟨c, b, activity, hc⟩ := e
      cases activity with
      | operation op =>
          obtain ⟨halt, rs, ns, hrs, hstart⟩ := start_refused hc hbegins hadmits
          rw [requests, Activity.requests, hstart] at h
          exact hrs h
      | _ => cases hbegins

end Episode
end RealmDispatch
