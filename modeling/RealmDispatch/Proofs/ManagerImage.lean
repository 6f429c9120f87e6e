import RealmDispatch.Proofs.PendingEntries

/-!
# The image of the realm manager

The loader is asked for the image at every setup, and it may answer differently each
time. The first image that a setup finds, with all checks passed, is the one every core
starts from: later setups make their core start there again, and so do warm boots. So
the realm context of a core either was never started, or it starts at that image.

The realm manager is only entered through a synchronous entry, which looks at the context
first. What it relies on when it gets the core therefore holds in every run.
-/
namespace RealmDispatch
open Step

/-- The image that an episode sets up, if all checks pass. -/
def Episode.image? (e : Episode) : Option EntryPoint :=
  match e.activity with
  | .operation .setup => e.board.checked.toOption
  | _ => none

namespace Machine

/-- Where the realm context of a core starts, and in which state. -/
def realmStart (m : Machine) (c : Core) : UInt64 × UInt64 :=
  ((m.context c .realm).elr, (m.context c .realm).spsr)

section Start
variable (m : Machine) (c d : Core)

@[simp] theorem realmStart_written (w : World) (values : List UInt64) :
    (m.written c w values).realmStart d = m.realmStart d := by
  by_cases h : d = c ∧ World.realm = w
  · obtain ⟨rfl, rfl⟩ := h
    simp [realmStart]
  · simp [realmStart, h]

@[simp] theorem realmStart_told (events : List TrackerEvent) :
    (m.told events).realmStart d = m.realmStart d := by
  simp [realmStart]

@[simp] theorem realmStart_switched (source target : World) :
    (m.switched c source target).realmStart d = m.realmStart d := by
  by_cases h : d = c ∧ World.realm = source
  · obtain ⟨rfl, rfl⟩ := h
    simp [realmStart]
  · simp [realmStart, h]

@[simp] theorem realmStart_setInFlight (call : Option PendingCall) :
    (m.setInFlight c call).realmStart d = m.realmStart d := by
  simp [realmStart]

theorem realmStart_completed (call : PendingCall) (args : Arguments) (clock : Clock) :
    (m.completed c call args clock).realmStart d = m.realmStart d := by
  obtain ⟨code, cargs, origin⟩ := call
  cases origin <;> simp [completed]

@[simp] theorem realmStart_restarted (e : EntryPoint) (args : List UInt64) :
    (m.restarted c e args).realmStart d = if d = c then (e.pc, e.spsr) else m.realmStart d := by
  by_cases hd : d = c
  · simp [realmStart, restarted, Cpu.initRealm, context_setCpu, hd, EntryPoint.context]
  · simp [realmStart, restarted, context_setCpu, hd]

/-- To give a core away chooses its next world and makes its registers live. -/
theorem context_prepared (w : World) : (m.prepared c).context d w = m.context d w := by
  rw [prepared, context_setCpu]
  by_cases hd : d = c
  · rw [if_pos hd, hd]
    rfl
  · rw [if_neg hd]
    rfl

@[simp] theorem realmStart_entered (stack : UInt64) :
    (m.entered c stack).realmStart d = m.realmStart d := by
  have hcontext : (m.entered c stack).context d .realm = m.context d .realm :=
    m.context_prepared c d .realm
  rw [realmStart, hcontext, realmStart]

@[simp] theorem realmStart_left (d' : Core) : (m.left c d).realmStart d' = m.realmStart d' := by
  have hcontext : (m.left c d).context d' .realm = (m.saveSystem d .realm).context d' .realm := rfl
  rw [realmStart, hcontext, context_saveSystem]
  by_cases hd : d' = d
  · rw [if_pos ⟨hd, rfl⟩, hd]
    rfl
  · rw [if_neg (fun h => hd h.1)]
    rfl

end Start
end Machine

/-! ## Fixing the entry point -/

theorem Law.entryPoint_trapping (c : Core) :
    Law.Trapping (fun m _ m' => m'.entryPoint = m.entryPoint) c where
  nothing _ := rfl
  chained hfirst hsecond := hsecond.trans hfirst
  request _ _ _ := rfl
  context _ _ _ := rfl
  next _ _ := rfl
  live _ _ := rfl
  inFlight _ _ := rfl
  tell _ _ := rfl

namespace Episode
variable {e : Episode} {m : Machine}

theorem image?_of_operation (h : ∃ op, e.activity = .operation op ∧ op ≠ .setup) :
    e.image? = none := by
  obtain ⟨op, hactivity, hop⟩ := h
  rw [image?, hactivity]
  cases op with
  | setup => exact absurd rfl hop
  | _ => rfl

/-- A setup fixes the entry point, unless it is fixed already. -/
theorem entryPoint_next (e : Episode) (m : Machine) :
    (e.next m).entryPoint = m.entryPoint.or e.image? := by
  cases hcaller : e.activity.caller? with
  | some w =>
      rw [image?_of_operation (operation_of_caller hcaller), Option.or_none]
      exact obeys_of_trapped (Law.entryPoint_trapping e.core) hcaller m
  | none =>
      have huntrapped := untrapped m hcaller
      generalize e.next m = m' at huntrapped
      cases huntrapped with
      | nothing hactivity hop hbegins =>
          rw [image?_of_operation ⟨_, hactivity, hop⟩, Option.or_none]
      | setupFailed hsetup hchecked =>
          rw [image?, hsetup]
          simp [hchecked, Except.toOption]
      | setupPassed hsetup hchecked =>
          rw [image?, hsetup]
          cases m.entryPoint <;> simp [hchecked, Except.toOption, Machine.restarted, Machine.setCpu]
      | entered hbegins hadmits =>
          have hkept := entryPoint_of_begins hbegins
          rw [image?_of_operation (operation_of_begins hbegins), Option.or_none, ← hkept]
          rfl
      | refused hbegins hadmits =>
          rw [image?_of_operation (operation_of_begins hbegins), Option.or_none]
          exact entryPoint_of_begins hbegins
      | @cameBack entry status hback =>
          rw [image?, hback, Option.or_none]
          cases entry.fails status <;> rfl
      | software hlive => rw [image?, hlive, Option.or_none]

end Episode

/-- The entry point is the first image that was set up. -/
theorem entryPoint_after (run : List Episode) :
    (({} : Machine).after run).entryPoint = run.findSome? Episode.image? := by
  induction run using List.reverseRecOn with
  | nil => rfl
  | append_singleton run e ih =>
      rw [Machine.after_snoc, Episode.entryPoint_next, ih, List.findSome?_append,
        List.findSome?_singleton]

theorem Episode.pc_of_image? {e : Episode} {image : EntryPoint} (h : e.image? = some image) :
    image.pc ≠ 0 := by
  unfold image? at h
  split at h
  · cases hchecked : e.board.checked with
    | error cause =>
        rw [hchecked] at h
        cases h
    | ok found =>
        rw [hchecked] at h
        cases h
        exact Board.pc_of_checked hchecked
  · cases h

/-- The entry point is somewhere. -/
theorem pc_after {run : List Episode} {image : EntryPoint}
    (h : (({} : Machine).after run).entryPoint = some image) : image.pc ≠ 0 := by
  rw [entryPoint_after] at h
  obtain ⟨e, -, himage⟩ := List.exists_of_findSome?_eq_some h
  exact Episode.pc_of_image? himage

/-! ## Where the realm contexts start -/

/-- The realm context of every core starts at the image, or was never started. -/
def Machine.StartsImage (m : Machine) : Prop :=
  ∀ c, m.realmStart c = (0, 0) ∨
    ∃ image, m.entryPoint = some image ∧ m.realmStart c = (image.pc, image.spsr)

theorem Episode.realmStart_of_begins {e : Episode} {m m₀ : Machine} {purpose : Purpose}
    (h : e.begins? m = some (purpose, m₀)) (c : Core) :
    m₀.realmStart c = m.realmStart c ∨
      ∃ image, m₀.entryPoint = some image ∧ m₀.realmStart c = (image.pc, image.spsr) := by
  rcases found_of_begins h with rfl | ⟨image, himage, rfl⟩
  · exact Or.inl rfl
  · rw [Machine.realmStart_restarted]
    by_cases hc : c = e.core
    · exact Or.inr ⟨image, himage, if_pos hc⟩
    · exact Or.inl (if_neg hc)

/-- A context that starts somewhere else than before starts at the image. -/
theorem Episode.realmStart_next (e : Episode) (m : Machine) (c : Core) :
    (e.next m).realmStart c = m.realmStart c ∨
      ∃ image, (e.next m).entryPoint = some image ∧
        (e.next m).realmStart c = (image.pc, image.spsr) := by
  cases hcaller : e.activity.caller? with
  | some w =>
      left
      have heffect := e.effect m
      generalize e.next m = m' at heffect
      cases heffect with
      | forwards hforwarded hcompleted hcaller => simp [Machine.forwarded]
      | completes hforwarded hcompleted hcaller htold => exact m.realmStart_completed ..
      | goesOn hforwarded hcompleted hcaller => simp
      | untrapped hforwarded hcompleted huntrapped htold hbeside =>
          rw [huntrapped] at hcaller
          cases hcaller
  | none =>
      have huntrapped := untrapped m hcaller
      generalize e.next m = m' at huntrapped
      cases huntrapped with
      | nothing hactivity hop hbegins => exact Or.inl rfl
      | setupFailed hsetup hchecked => exact Or.inl rfl
      | @setupPassed found hsetup hchecked =>
          rw [Machine.realmStart_restarted]
          by_cases hc : c = e.core
          · exact Or.inr ⟨_, rfl, if_pos hc⟩
          · exact Or.inl (if_neg hc)
      | entered hbegins hadmits =>
          rw [Machine.realmStart_entered]
          exact realmStart_of_begins hbegins c
      | refused hbegins hadmits => exact realmStart_of_begins hbegins c
      | @cameBack entry status hback =>
          left
          cases entry.fails status
          · exact m.realmStart_left entry.core e.core c
          · exact m.realmStart_left entry.core e.core c
      | software hlive => exact Or.inl rfl

/-- An image that was set up stays the image. -/
theorem Episode.entryPoint_kept {e : Episode} {m : Machine} {image : EntryPoint}
    (h : m.entryPoint = some image) : (e.next m).entryPoint = some image := by
  rw [entryPoint_next, h, Option.some_or]

theorem Machine.entryPoint_kept {m : Machine} {image : EntryPoint} (h : m.entryPoint = some image)
    (run : List Episode) : (m.after run).entryPoint = some image := by
  induction run generalizing m with
  | nil => exact h
  | cons e run ih => exact ih (e.entryPoint_kept h)

theorem Machine.StartsImage.of_start {m m' : Machine} (h : m.StartsImage)
    (hkept : ∀ image, m.entryPoint = some image → m'.entryPoint = some image)
    (hstart : ∀ c, m'.realmStart c = m.realmStart c ∨
      ∃ image, m'.entryPoint = some image ∧ m'.realmStart c = (image.pc, image.spsr)) :
    m'.StartsImage := by
  intro c
  rcases hstart c with hsame | himage
  · rw [hsame]
    rcases h c with hnever | ⟨image, himage, hc⟩
    · exact Or.inl hnever
    · exact Or.inr ⟨image, hkept image himage, hc⟩
  · exact Or.inr himage

theorem startsImage_after (run : List Episode) : (({} : Machine).after run).StartsImage := by
  induction run using List.reverseRecOn with
  | nil =>
      intro c
      left
      simp [Machine.after, Machine.realmStart, Machine.context, Machine.cpu, Cpu.context,
        Worlds.get]
  | append_singleton run e ih =>
      rw [Machine.after_snoc]
      exact ih.of_start (fun _ => e.entryPoint_kept) (e.realmStart_next _)

/-! ## Giving a core to the realm manager -/

/-- What the realm manager relies on when it gets a core. -/
structure Machine.ReadyFor (m : Machine) (c : Core) : Prop where
  initialised : (m.cpu c).realmInitialised = true
  live : m.live = (m.context c .realm).system
  pending : (m.slot c).pending = true

theorem Machine.Admits.ready {m : Machine} {c : Core} (h : m.Admits c) :
    (m.prepared c).ReadyFor c where
  initialised := by
    have hcontext : (m.prepared c).context c .realm = m.context c .realm :=
      m.context_prepared c c .realm
    rw [← h.initialised]
    exact congrArg (fun ctx : Context => ctx.elr != 0) hcontext
  live := by
    rw [context_prepared]
    rfl
  pending := by simp

/-- The episode gives its core to the realm manager, and the machine is `m₁` as it does. -/
def Episode.HandsOver (e : Episode) (m m₁ : Machine) : Prop :=
  ∃ purpose m₀, e.begins? m = some (purpose, m₀) ∧
    (Entry.prepare e.board m₀).result = .ok e.core ∧ (Entry.prepare e.board m₀).machine = m₁

/-- A context that is initialised starts at the image. -/
theorem Machine.StartsImage.image {m : Machine} (h : m.StartsImage) {c : Core}
    (hc : (m.cpu c).realmInitialised = true) :
    ∃ image, m.entryPoint = some image ∧ m.realmStart c = (image.pc, image.spsr) := by
  rcases h c with hnever | himage
  · have helr : (m.context c .realm).elr = 0 := congrArg Prod.fst hnever
    have hnot : (m.cpu c).realmInitialised = false := by
      rw [Cpu.realmInitialised]
      simpa [context] using helr
    exact absurd (hnot.symm.trans hc) Bool.false_ne_true
  · exact himage

/-- In every run, the entry point is the first image that was set up with all checks passed.
It starts somewhere, it stays the same for good, and the realm context of every core starts
there or was never started. A setup that fails at a check changes the flag and nothing else.
Whenever an episode gives its core to the realm manager, which is the last thing it asks for,
the realm context of the core is initialised and starts at the image, its registers are live
and the slot is pending. After that the stack is stored. -/
theorem manager_image_fixed (run : List Episode) :
    let m := ({} : Machine).after run
    m.entryPoint = run.findSome? Episode.image? ∧
      (∀ image, m.entryPoint = some image →
        image.pc ≠ 0 ∧ ∀ later, (m.after later).entryPoint = some image) ∧
      (∀ c, m.realmStart c = (0, 0) ∨
        ∃ image, m.entryPoint = some image ∧ m.realmStart c = (image.pc, image.spsr)) ∧
      (∀ b cause, b.checked = .error cause →
        (setup b m).result = .ok (.boot (.error cause)) ∧
          (setup b m).machine = { m with bootFailed := true }) ∧
      ∀ e : Episode, .enterRealm ∈ e.requests m → ∃ m₁ image requests,
        e.HandsOver m m₁ ∧ m₁.ReadyFor e.core ∧
          m₁.entryPoint = some image ∧ m₁.realmStart e.core = (image.pc, image.spsr) ∧
          e.next m = m₁.setSlot e.core ⟨e.board.stack, true⟩ ∧
          .enterRealm ∉ requests ∧ e.requests m = requests ++ [.enterRealm] := by
  intro m
  have hstarts : m.StartsImage := startsImage_after run
  refine ⟨entryPoint_after run, ?_, hstarts, fun b cause => setup_failed m, ?_⟩
  · intro image himage
    exact ⟨pc_after himage, Machine.entryPoint_kept himage⟩
  · intro e hrequests
    obtain ⟨purpose, m₀, hbegins, hadmits⟩ := Episode.entry_of_requests hrequests
    obtain ⟨requests, hnone, hall⟩ := Episode.requests_of_entry hbegins hadmits
    have hprepared := Entry.prepare_apply e.here hadmits
    have hstarts₀ : m₀.StartsImage := by
      refine hstarts.of_start ?_ (Episode.realmStart_of_begins hbegins)
      intro image himage
      rw [Episode.entryPoint_of_begins hbegins, himage]
    obtain ⟨image, himage, hstart⟩ := hstarts₀.image hadmits.initialised
    have hgiven : (m₀.prepared e.core).realmStart e.core = (image.pc, image.spsr) := by
      rw [← hstart, Machine.realmStart, Machine.context_prepared, Machine.realmStart]
    refine ⟨m₀.prepared e.core, image, requests, ⟨purpose, m₀, hbegins, ?_, ?_⟩,
      hadmits.ready, himage, hgiven, ?_, hnone, hall⟩
    · rw [hprepared]
    · rw [hprepared]
    · exact Episode.next_entered hbegins hadmits

open Scenario in
/-- The cold boot after a setup gives the core away. -/
theorem manager_image_fixed_of_coldBoot :
    ∃ m₁, (episode 0 0 (.operation .coldBoot)).HandsOver
        (({} : Machine).after [episode 0 0 (.operation .setup)]) m₁ ∧ m₁.ReadyFor 0 := by
  have hrequested : .enterRealm ∈ (episode 0 0 (.operation .coldBoot)).requests
      (({} : Machine).after [episode 0 0 (.operation .setup)]) := by decide
  have hfixed := manager_image_fixed [episode 0 0 (.operation .setup)]
  obtain ⟨m₁, image, requests, hgiven, hready, -⟩ := hfixed.2.2.2.2 _ hrequested
  exact ⟨m₁, hgiven, hready⟩

end RealmDispatch
