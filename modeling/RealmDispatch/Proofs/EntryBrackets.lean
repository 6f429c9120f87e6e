import RealmDispatch.Proofs.ManagerImage

/-!
# Synchronous entries as brackets

While a synchronous entry waits, its core is inside the realm manager, and the dispatcher
is called again: on the same core, and on others, which may boot in the meantime. The
realm manager comes back from an entry once, and only after everything that was begun
on the core inside of it is over.

Between the two halves of an entry the slot of its core stays as the entry has left it. A
second entry on the core is refused as long as that is so, and an entry on another core
has a slot of its own. What comes between the halves can change everything else. The
halves themselves change what they have to, which is said here by giving the whole
machine that each of them leaves.
-/
namespace RealmDispatch
open Step

/-! ## Entries that begin -/

/-- Without an entry an operation answers, or it halts. -/
theorem not_entered_of_begins {op : Operation} {b : Board} {m : Machine} {c : Core}
    (h : op.begins? c m = none) (entry : Entry) :
    (op.start b m).result ≠ .ok (.entered entry) := by
  cases op with
  | setup => exact answered_ne_entered setup id b m entry
  | coldBoot =>
      rw [Episode.boot_refused (Or.inl rfl) h]
      simp
  | warmBoot =>
      rw [Episode.boot_refused (Or.inr rfl) h]
      simp
  | initTimer => exact answered_ne_entered initTimer (fun _ => .done) b m entry
  | enter => cases h
  | leave value => exact answered_ne_entered (leaveEntry value) .next b m entry
  | call args flags => exact answered_ne_entered (handleCall args flags) .next b m entry
  | interrupt interrupted => exact answered_ne_entered (handleInterrupt interrupted) .next b m entry

namespace Episode
variable {e : Episode} {m : Machine} {c : Core}

/-- An entry begins on the core that calls for it, and its slot is free. -/
theorem free_of_enters (h : e.Enters m c) : (m.slot c).pending = false := by
  obtain ⟨op, purpose, hactivity, hresult⟩ := h
  cases hbegins : op.begins? e.core m with
  | none => exact absurd hresult (not_entered_of_begins hbegins _)
  | some entry =>
      obtain ⟨purpose', m₀⟩ := entry
      have hbegins' : e.begins? m = some (purpose', m₀) := by
        rw [begins?, hactivity]
        exact hbegins
      by_cases hadmits : m₀.Admits e.core
      · obtain ⟨rs, ns, -, hstart⟩ := start_admits e.here hbegins hadmits
        rw [hstart] at hresult
        cases hresult
        rw [← slot_of_begins hbegins', hadmits.free]
      · obtain ⟨halt, rs, ns, -, hstart⟩ := start_refused e.here hbegins hadmits
        rw [hstart] at hresult
        cases hresult

end Episode

/-! ## Cores that are held -/

theorem Machine.realmInitialised_iff (m : Machine) (c : Core) :
    (m.cpu c).realmInitialised = true ↔ (m.realmStart c).1 ≠ 0 := by
  simp [Cpu.realmInitialised, realmStart, context]

/-- A context that starts where it did, or at an image, is as initialised as it was. -/
theorem Machine.initialised_of_start {m m' : Machine} {c : Core}
    (h : (m.cpu c).realmInitialised = true)
    (hstart : m'.realmStart c = m.realmStart c ∨
      ∃ image, m'.entryPoint = some image ∧ m'.realmStart c = (image.pc, image.spsr))
    (hpc : ∀ image, m'.entryPoint = some image → image.pc ≠ 0) :
    (m'.cpu c).realmInitialised = true := by
  rw [realmInitialised_iff] at h ⊢
  rcases hstart with hsame | ⟨image, himage, hsame⟩
  · rwa [hsame]
  · rw [hsame]
    exact hpc image himage

theorem initialised_next {run : List Episode} {c : Core}
    (h : ((({} : Machine).after run).cpu c).realmInitialised = true) (e : Episode) :
    ((e.next (({} : Machine).after run)).cpu c).realmInitialised = true := by
  refine Machine.initialised_of_start h (e.realmStart_next _ c) ?_
  intro image himage
  rw [← Machine.after_snoc] at himage
  exact pc_after himage

/-- A warm boot does not spoil the realm context of its core. -/
theorem initialised_of_begins {run : List Episode} {e : Episode} {m₀ : Machine}
    {purpose : Purpose} (h : e.begins? (({} : Machine).after run) = some (purpose, m₀))
    {c : Core} (hc : ((({} : Machine).after run).cpu c).realmInitialised = true) :
    (m₀.cpu c).realmInitialised = true := by
  refine Machine.initialised_of_start hc (Episode.realmStart_of_begins h c) ?_
  intro image himage
  rw [Episode.entryPoint_of_begins h] at himage
  exact pc_after himage

/-- The realm manager comes back to `c` in the run only from entries that the run began there. -/
def Machine.Bracketed (m : Machine) (c : Core) (run : List Episode) : Prop :=
  ¬ Happened (fun before e => e.ComesBack c ∧
    ¬ Happened (fun earlier e => e.Enters (m.after earlier) c) before) run

/-- A run in which the realm manager does not come back to `c` at all. -/
theorem Machine.bracketed_of_no_comeback (m : Machine) {c : Core} {run : List Episode}
    (h : ∀ e ∈ run, ¬ e.ComesBack c) : m.Bracketed c run := by
  rintro ⟨i, ⟨hback, -⟩, -⟩
  exact h _ (List.getElem_mem i.isLt) hback

/-- The core waits in an entry that has left the stack. -/
structure Machine.Held (m : Machine) (c : Core) (stack : UInt64) : Prop where
  initialised : (m.cpu c).realmInitialised = true
  slot : m.slot c = ⟨stack, true⟩

/-- Nothing that happens on any core takes away what a core waits for. -/
theorem held_next {run : List Episode} {c : Core} {stack : UInt64}
    (h : (({} : Machine).after run).Held c stack) {e : Episode} (hback : ¬ e.ComesBack c) :
    (e.next (({} : Machine).after run)).Held c stack ∧
      ¬ e.Enters (({} : Machine).after run) c := by
  have henters : ¬ e.Enters (({} : Machine).after run) c := by
    intro henters
    have hfree := Episode.free_of_enters henters
    rw [h.slot] at hfree
    cases hfree
  refine ⟨⟨initialised_next h.initialised e, ?_⟩, henters⟩
  rcases e.slot_next (({} : Machine).after run) c with ⟨hagain, -⟩ | ⟨hcomes, -⟩ | ⟨-, -, hsame⟩
  · exact absurd hagain henters
  · exact absurd hcomes hback
  · rw [hsame, h.slot]

theorem held_during {run during : List Episode} {c : Core} {stack : UInt64}
    (h : (({} : Machine).after run).Held c stack)
    (hduring : (({} : Machine).after run).Bracketed c during) :
    ((({} : Machine).after run).after during).Held c stack ∧
      ¬ Happened (fun before e => e.Enters ((({} : Machine).after run).after before) c) during := by
  induction during using List.reverseRecOn with
  | nil => exact ⟨h, not_happened_nil⟩
  | append_singleton during e ih =>
      rw [Machine.Bracketed, happened_snoc, not_or] at hduring
      obtain ⟨hearlier, hback⟩ := hduring
      obtain ⟨hheld, hnone⟩ := ih hearlier
      -- No entry on the core has begun on the way, so there is none to come back from.
      have hback : ¬ e.ComesBack c := fun hcomes => hback ⟨hcomes, hnone⟩
      have hreached := ({} : Machine).after_append run during
      rw [Machine.after_snoc, happened_snoc, not_or, ← hreached]
      rw [← hreached] at hheld
      obtain ⟨hnext, henters⟩ := held_next hheld hback
      exact ⟨hnext, hnone, henters⟩

/-! ## The two halves and what comes between -/

/-- All that the first half of an entry changes. -/
theorem Machine.entered_eq (m : Machine) (c : Core) (stack : UInt64) :
    m.entered c stack =
      (({ m with live := (m.context c .realm).system } : Machine).setCpu c
        { m.cpu c with next := some .realm }).setSlot c ⟨stack, true⟩ := by
  unfold entered prepared setSlot setCpu restoreSystem
  rw [Vector.set_set]
  rfl

/-- All that the second half changes. -/
theorem Machine.left_eq (m : Machine) (c : Core) :
    m.left c c =
      (m.setCpu c ((m.cpu c).setContext .realm
        { m.context c .realm with system := m.live })).setSlot c
          { m.slot c with pending := false } :=
  rfl

/-- A synchronous entry, plain or for a boot, on a core that can be given away, in any run,
with anything in between.

The first half makes the slot pending before the realm manager gets the core, and stores the
stack. Of the rest of the machine it changes the live registers and the next world. In between
the slot stays as it is: every other entry on the core is refused as nested, an entry on
another core is made if its own slot is free, and a core that waits leaves with the stack of
the entry that is waiting there. The second half saves the live registers and frees the slot.
A plain entry answers with the status, and a boot is told whether it was 0. -/
theorem entry_bracketed (run during : List Episode) {e : Episode} {purpose : Purpose}
    {m₀ : Machine} (hbegins : e.begins? (({} : Machine).after run) = some (purpose, m₀))
    (hadmits : m₀.Admits e.core)
    (hduring : (e.next (({} : Machine).after run)).Bracketed e.core during) :
    let c := e.core
    let m := ({} : Machine).after run
    let m' := (e.next m).after during
    let freed := (m'.setCpu c ((m'.cpu c).setContext .realm
      { m'.context c .realm with system := m'.live })).setSlot c ⟨e.board.stack, false⟩
    (Entry.prepare e.board m₀ =
        { result := .ok c, machine := m₀.prepared c, requests := [.restoreSystem] } ∧
      ((m₀.prepared c).slot c).pending = true ∧
      Entry.begin purpose e.board m₀ =
        { result := .ok ⟨c, purpose⟩
          machine := e.next m
          requests := [.restoreSystem, .enterRealm] } ∧
      e.next m =
        (({ m₀ with live := (m₀.context c .realm).system } : Machine).setCpu c
          { m₀.cpu c with next := some .realm }).setSlot c ⟨e.board.stack, true⟩) ∧
      (m'.slot c = ⟨e.board.stack, true⟩ ∧
        (∀ (e' : Episode) purpose' m₁, e'.begins? m' = some (purpose', m₁) →
          (e'.core = c → Entry.begin purpose' e'.board m₁ =
            { result := .error .entryNested, machine := m₁ }) ∧
          (e'.core ≠ c → m₁.Admits e'.core →
            Entry.begin purpose' e'.board m₁ =
              { result := .ok ⟨e'.core, purpose'⟩
                machine := m₁.entered e'.core e'.board.stack
                requests := [.restoreSystem, .enterRealm] } ∧
              ∀ d, (m₁.entered e'.core e'.board.stack).slot d =
                if d = e'.core then ⟨e'.board.stack, true⟩ else m'.slot d)) ∧
        ∀ (b : Board) (d : Core) value, b.core = d.val → (m'.slot d).pending = true →
          WaitsIn d (m'.slot d).stack (run ++ e :: during) ∧
            leaveEntry value b m' =
              { result := .ok (.resume (m'.slot d).stack value), machine := m' }) ∧
      ∀ (b : Board) status, b.core = c.val →
        (purpose = .plain → Entry.finish ⟨c, purpose⟩ status b m' =
          { result := .ok (.status status), machine := freed, requests := [.saveSystem] }) ∧
        (purpose ≠ .plain → ∃ notices, Entry.finish ⟨c, purpose⟩ status b m' =
          { result := .ok (.boot (if status = 0 then .ok () else .error (.managerBoot status)))
            machine := if status = 0 then freed else { freed with bootFailed := true }
            requests := [.saveSystem]
            notices := notices }) := by
  intro c m m' freed
  have hnext : e.next m = m₀.entered c e.board.stack := Episode.next_entered hbegins hadmits
  have hfirst : ({} : Machine).after (run ++ [e]) = e.next m := Machine.after_snoc {} run e
  have hall : ({} : Machine).after (run ++ e :: during) = m' := Machine.after_append {} run _
  have hheld : m'.Held c e.board.stack := by
    have hbegun : (({} : Machine).after (run ++ [e])).Held c e.board.stack := by
      rw [hfirst, hnext]
      exact ⟨hadmits.ready.initialised, by simp⟩
    rw [← hfirst] at hduring
    have hkept := (held_during hbegun hduring).1
    rwa [hfirst] at hkept
  have hfreed : m'.left c c = freed := by
    rw [Machine.left_eq, hheld.slot]
  refine ⟨⟨Entry.prepare_apply e.here hadmits, by simp, ?_, ?_⟩, ⟨hheld.slot, ?_, ?_⟩, ?_⟩
  · rw [Entry.begin_apply purpose e.here hadmits, hnext]
  · rw [hnext, Machine.entered_eq]
  · intro e' purpose' m₁ hbegins'
    constructor
    · intro hc
      rw [← hall] at hheld hbegins'
      have hpending : (m₁.slot c).pending = true := by
        rw [Episode.slot_of_begins hbegins', hheld.slot]
      exact Entry.begin_nested purpose' (hc ▸ e'.here)
        (initialised_of_begins hbegins' hheld.initialised) hpending
    · intro hc hadmits'
      refine ⟨Entry.begin_apply purpose' e'.here hadmits', ?_⟩
      intro d
      rw [Machine.slot_entered, Episode.slot_of_begins hbegins']
  · intro b d value hd hpending
    refine ⟨?_, leaveEntry_of_pending value hd hpending⟩
    rw [← hall] at hpending ⊢
    exact waitsIn_of_pending hpending
  · intro b status hc
    constructor
    · rintro rfl
      rw [Entry.finish_plain status hc, hfreed]
    · intro hboot
      rw [← hfreed]
      exact Entry.finish_boot hboot status hc

namespace Scenario

/-- The second core boots, from beginning to end. -/
def secondCoreBoots : List Episode :=
  [episode 1 0 (.operation .warmBoot), episode 1 0 (.comeback ⟨1, .warmBoot⟩ 0)]

end Scenario

open Scenario in
/-- The second core boots while the first one is inside the realm manager. -/
theorem entry_bracketed_of_secondCoreBoots :
    (Entry.finish ⟨0, .plain⟩ 7 (episode 0 1 (.operation .enter)).board
      (({} : Machine).after ([episode 0 0 (.operation .setup), episode 0 0 (.operation .enter)] ++
        secondCoreBoots))).result = .ok (.status 7) := by
  have hadmits : (({} : Machine).after [episode 0 0 (.operation .setup)]).Admits 0 :=
    ⟨by decide, by decide⟩
  have hduring : ((({} : Machine).after
      [episode 0 0 (.operation .setup), episode 0 0 (.operation .enter)])).Bracketed 0
        secondCoreBoots := by
    apply Machine.bracketed_of_no_comeback
    simp [secondCoreBoots, Episode.ComesBack, episode, coreCount]
  have hbracketed := entry_bracketed [episode 0 0 (.operation .setup)] secondCoreBoots
    (e := episode 0 0 (.operation .enter)) rfl hadmits hduring
  exact congrArg Outcome.result
    ((hbracketed.2.2 (episode 0 1 (.operation .enter)).board 7 rfl).1 rfl)

end RealmDispatch
