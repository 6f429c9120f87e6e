import RealmDispatch.Proofs.CallDispositions
import RealmDispatch.Proofs.ManagerImage
import RealmDispatch.Proofs.PendingEntries
import RealmDispatch.Proofs.TimerProgramming

/-!
# When a core halts

A halt takes the machine down, so the dispatcher only halts on a violation of the protocol
of synchronous entries: an entry into a realm context that was never started, an entry
inside an entry, or a way out of an entry that was never made. Calls with any registers,
interrupts and setups do not halt otherwise, whatever has happened before. In particular
no step writes past the last register, the tables of the tracker never hold more than they
have room for, and counter values do not wrap.

That a warm boot finds its realm context started is not a check of the warm boot. It holds
because a setup refuses an image that starts nowhere.
-/
namespace RealmDispatch
open Step

variable {b : Board} {m : Machine} {c : Core} {op : Operation} {halt : Halt}

/-- The violations of the protocol that operations commit on `c`, with the halts they end in. -/
inductive Violates (m : Machine) (c : Core) : Operation → Halt → Prop
  | call {args : Arguments} {flags : CallFlags} : m.bootFailed = false → Leaves args flags →
      (m.slot c).pending = false → Violates m c (.call args flags) .exitUnmatched
  | leave {value : UInt64} : (m.slot c).pending = false →
      Violates m c (.leave value) .exitUnmatched
  | uninitialised : (m.cpu c).realmInitialised = false →
      Violates m c .enter .realmUninitialised
  | nested : (m.cpu c).realmInitialised = true → (m.slot c).pending = true →
      Violates m c .enter .entryNested
  | coldBoot {halt : Halt} : m.bootFailed = false → Violates m c .enter halt →
      Violates m c .coldBoot halt
  | warmBoot {e : EntryPoint} : m.bootFailed = false → m.entryPoint = some e →
      (m.slot c).pending = true → Violates m c .warmBoot .entryNested

/-! ## Entries -/

theorem begin_halts_iff (purpose : Purpose) (hc : b.core = c.val) :
    (Entry.begin purpose b m).result = .error halt ↔ Violates m c .enter halt := by
  constructor
  · intro h
    by_cases hready : (m.cpu c).realmInitialised = true
    · by_cases hpending : (m.slot c).pending = true
      · rw [Entry.begin_nested purpose hc hready hpending] at h
        cases h
        exact .nested hready hpending
      · rw [Entry.begin_apply purpose hc ⟨hready, by simpa using hpending⟩] at h
        cases h
    · have hunready : (m.cpu c).realmInitialised = false := by simpa using hready
      rw [Entry.begin_uninitialised purpose hc hunready] at h
      cases h
      exact .uninitialised hunready
  · intro h
    cases h with
    | uninitialised hunready => rw [Entry.begin_uninitialised purpose hc hunready]
    | nested hready hpending => rw [Entry.begin_nested purpose hc hready hpending]

/-- A step that only passes its value on halts where the first part does. -/
theorem halts_passed_on {α β : Type} (x : Step α) (f : α → β) :
    ((do
      let a ← x
      pure (f a) : Step β) b m).result = .error halt ↔ (x b m).result = .error halt := by
  rw [bind_apply]
  cases hx : (x b m).result with
  | error e =>
      rw [Outcome.andThen_halt hx]
      simp
  | ok a =>
      rw [Outcome.andThen_ok hx]
      simp

/-- So it does not halt if the first part passes. -/
theorem not_halts_of_passes {α β : Type} {x : Step α} (f : α → β)
    (h : ∃ a, (x b m).result = .ok a) :
    ¬ ((do
      let a ← x
      pure (f a) : Step β) b m).result = .error halt := by
  obtain ⟨a, ha⟩ := h
  rw [halts_passed_on, ha]
  exact fun hhalt => nomatch hhalt

/-- An operation that begins with an entry halts where the entry does. -/
theorem entry_halts_iff (hc : b.core = c.val) {purpose : Purpose} {m₀ : Machine}
    (h : op.begins? c m = some (purpose, m₀)) :
    (op.start b m).result = .error halt ↔ Violates m₀ c .enter halt := by
  obtain ⟨requests, notices, -, hstart⟩ := start_of_entry hc h
  rw [hstart, ← begin_halts_iff purpose hc]
  exact halts_passed_on _ _

/-- A realm context that was just started is not uninitialised. -/
theorem violates_restarted {e : EntryPoint} {args : List UInt64} (hpc : e.pc ≠ 0) :
    Violates (m.restarted c e args) c .enter halt ↔
      halt = .entryNested ∧ (m.slot c).pending = true := by
  have hready : ((m.restarted c e args).cpu c).realmInitialised = true := by
    simp [Machine.restarted, Cpu.realmInitialised, Cpu.initRealm, EntryPoint.context, hpc]
  constructor
  · intro h
    cases h with
    | uninitialised hunready =>
        rw [hready] at hunready
        cases hunready
    | nested _ hpending => exact ⟨rfl, hpending⟩
  · rintro ⟨rfl, hpending⟩
    exact .nested hready hpending

/-! ## Operations -/

theorem leaveEntry_halts_iff (value : UInt64) (hc : b.core = c.val) :
    (leaveEntry value b m).result = .error halt ↔
      halt = .exitUnmatched ∧ (m.slot c).pending = false := by
  by_cases hpending : (m.slot c).pending = true
  · rw [leaveEntry_of_pending value hc hpending]
    simp [hpending]
  · rw [leaveEntry_of_idle value hc hpending]
    simp [hpending, eq_comm]

theorem handleCall_halts_iff (args : Arguments) (flags : CallFlags) (hc : b.core = c.val) :
    (handleCall args flags b m).result = .error halt ↔
      Violates m c (.call args flags) halt := by
  constructor
  · intro h
    cases disposition b m c args flags with
    | forwarded hforwards =>
        rw [handleCall_forwards hforwards, forward_apply _ _ _ hc] at h
        cases h
    | completed hcompletes hcall =>
        rw [handleCall_completes hcompletes, complete_apply hc hcall] at h
        cases h
    | left hboot hleaves =>
        rw [handleCall_of_leaves hboot hleaves] at h
        obtain ⟨rfl, hidle⟩ := (leaveEntry_halts_iff args.x1 hc).mp h
        exact .call hboot hleaves hidle
    | served hserved =>
        obtain ⟨values, requests, notices, -, -, hcall⟩ := handleCall_served hc hserved
        rw [hcall] at h
        cases h
    | refused hrefused =>
        obtain ⟨notices, -, hcall⟩ := handleCall_refused hc hrefused
        rw [hcall] at h
        cases h
  · intro h
    cases h with
    | call hboot hleaves hidle =>
        rw [handleCall_of_leaves hboot hleaves]
        exact (leaveEntry_halts_iff args.x1 hc).mpr ⟨rfl, hidle⟩

theorem handleInterrupt_passes (interrupted : World) (hc : b.core = c.val) :
    ∃ next, (handleInterrupt interrupted b m).result = .ok next := by
  by_cases htimer : b.interrupt = timerInterrupt
  · rw [handleInterrupt_timer interrupted hc htimer]
    cases (m.tracker.fire b.clock (interrupted = .nonSecure && (m.cpu c).inFlight.isNone)).2.2 with
    | none => exact ⟨_, rfl⟩
    | some call =>
        rw [Option.elim_some, forward_apply _ _ _ hc]
        exact ⟨_, rfl⟩
  · rw [handleInterrupt_foreign interrupted htimer]
    exact ⟨_, rfl⟩

theorem setup_passes (hc : b.core = c.val) : ∃ answer, (setup b m).result = .ok answer := by
  cases hchecked : b.checked with
  | error cause => exact ⟨_, (setup_failed m hchecked).1⟩
  | ok found => exact ⟨_, (setup_passed m hc hchecked).1⟩

/-- Where every entry point starts somewhere, operations halt on violations and on nothing else. -/
theorem start_halts_iff (hc : b.core = c.val)
    (hpc : ∀ e, m.entryPoint = some e → e.pc ≠ 0) :
    (op.start b m).result = .error halt ↔ Violates m c op halt := by
  cases op with
  | setup =>
      refine iff_of_false (not_halts_of_passes _ (setup_passes hc)) ?_
      intro h
      cases h
  | initTimer =>
      refine iff_of_false (not_halts_of_passes _ ⟨_, rfl⟩) ?_
      intro h
      cases h
  | interrupt interrupted =>
      refine iff_of_false (not_halts_of_passes _ (handleInterrupt_passes interrupted hc)) ?_
      intro h
      cases h
  | call args flags =>
      exact (halts_passed_on _ _).trans
        (handleCall_halts_iff args flags hc)
  | leave value =>
      refine (halts_passed_on _ _).trans
        ((leaveEntry_halts_iff value hc).trans ⟨?_, ?_⟩)
      · rintro ⟨rfl, hidle⟩
        exact .leave hidle
      · intro h
        cases h with
        | leave hidle => exact ⟨rfl, hidle⟩
  | enter => exact entry_halts_iff hc rfl
  | coldBoot =>
      by_cases hboot : m.bootFailed = true
      · rw [Operation.start, coldBoot_refused b hboot]
        constructor
        · intro h
          cases h
        · intro h
          cases h with
          | coldBoot hpassed _ =>
              rw [hpassed] at hboot
              cases hboot
      · have hbegins : Operation.coldBoot.begins? c m = some (.coldBoot, m) := if_neg hboot
        refine (entry_halts_iff hc hbegins).trans ⟨.coldBoot (by simpa using hboot), ?_⟩
        intro h
        cases h with
        | coldBoot _ hentry => exact hentry
  | warmBoot =>
      cases hbegins : Operation.warmBoot.begins? c m with
      | none =>
          rw [Episode.boot_refused (Or.inr rfl) hbegins]
          constructor
          · intro h
            cases h
          · intro h
            cases h with
            | warmBoot hboot he _ => simp [Operation.begins?, hboot, he] at hbegins
      | some entry =>
          obtain ⟨purpose, m₀⟩ := entry
          have hfound := hbegins
          simp only [Operation.begins?, Option.ite_none_left_eq_some,
            Option.map_eq_some_iff] at hfound
          obtain ⟨hboot, e, he, hm₀⟩ := hfound
          cases hm₀
          refine (entry_halts_iff hc hbegins).trans ((violates_restarted (hpc e he)).trans ⟨?_, ?_⟩)
          · rintro ⟨rfl, hpending⟩
            exact .warmBoot (by simpa using hboot) he hpending
          · intro h
            cases h with
            | warmBoot _ _ hpending => exact ⟨rfl, hpending⟩

/-! ## Tables and counters -/

/-- The tables of the tracker hold no more than they have room for. -/
structure Tracker.Fits (t : Tracker) : Prop where
  records : t.registry.size ≤ realmCapacity
  deadlines : t.agenda.size ≤ realmCapacity

/-- Every deadline belongs to a record, so the deadlines need no more room than the records. -/
theorem Tracker.Consistent.fits {t : Tracker} (h : t.Consistent) : t.Fits where
  records := h.registry.bounded
  deadlines := by
    have hsub : t.agenda.entries.map Deadline.rd ⊆ t.registry.records.map Record.rd := by
      intro rd hmem
      obtain ⟨d, hd, rfl⟩ := List.mem_map.mp hmem
      obtain ⟨course, hcourse, -⟩ := h.waits_of_queued hd
      exact hcourse.mem_rds
    have hlen := (h.agenda.distinct.subperm hsub).length_le
    rw [List.length_map, List.length_map] at hlen
    exact Nat.le_trans hlen h.registry.bounded

/-- Spans of time are added exactly, up to the end of the counter. -/
structure Clock.NeverWraps (clock : Clock) : Prop where
  seconds : ∀ seconds, (clock.afterSeconds seconds).toNat =
    min (clock.now.toNat + seconds.toNat * clock.frequency.toNat) Counter.last.toNat
  milliseconds : ∀ milliseconds, (clock.afterMilliseconds milliseconds).toNat =
    min (clock.now.toNat +
      max (min (milliseconds.toNat * clock.frequency.toNat) Counter.last.toNat / 1000) 1)
      Counter.last.toNat

theorem Clock.neverWraps (clock : Clock) : clock.NeverWraps where
  seconds := by
    intro seconds
    rw [afterSeconds_eq_exactly, exactly, Counter.toNat_clamp]
  milliseconds := by
    intro milliseconds
    rw [afterMilliseconds, Counter.toNat_add, Counter.toNat_max, UInt64.toNat_div,
      Counter.toNat_mul]
    rfl

/-- At every point of every run an operation on a core that exists halts exactly if it
violates the protocol of synchronous entries, and the realm manager always comes back from
an entry. The tables of the tracker have room for all it is told, in this step and later, and
counter values end at the last one. -/
theorem halts_only_on_violations (run : List Episode) (hc : b.core = c.val) :
    let m := ({} : Machine).after run
    (∀ op halt, (Operation.start op b m).result = .error halt ↔ Violates m c op halt) ∧
      (∀ entry status, (Entry.finish entry status b m).result = .ok (entry.answer status)) ∧
      (∀ events, (m.tracker.evolve events).Fits) ∧
      b.clock.NeverWraps := by
  intro m
  refine ⟨?_, ?_, ?_, b.clock.neverWraps⟩
  · exact fun op halt => start_halts_iff hc fun e he => pc_after he
  · intro entry status
    obtain ⟨notices, hfinish⟩ := entry.finish_apply (m := m) status hc
    rw [hfinish]
  · exact fun events => (Tracker.consistent_evolve (consistent_after run) events).fits

open Scenario in
/-- While two cores boot, one of them is powered on again, and a third one reports a boot that
was never begun. -/
theorem halts_only_on_violations_while_booting :
    let m := ({} : Machine).after bothCoresBooting
    let report := Operation.call (bootReport 0) ⟨CallFlags.nonSecureBit ||| CallFlags.realmBit⟩
    (Operation.warmBoot.start (episode 1 0 (.operation .warmBoot)).board m).result =
        .error .entryNested ∧
      (report.start (episode 2 0 (.operation report)).board m).result =
        .error .exitUnmatched := by
  intro m report
  have himage : m.entryPoint = some ⟨0xffc00000, 0x3c9, Arguments.ofList []⟩ := by decide
  have hnested : Violates m 1 .warmBoot .entryNested := .warmBoot (by decide) himage (by decide)
  have hunmatched : Violates m 2 report .exitUnmatched :=
    .call (by decide) ⟨by decide, by decide⟩ (by decide)
  have hwarm := halts_only_on_violations (c := 1) bothCoresBooting
    (episode 1 0 (.operation .warmBoot)).here
  have hreport := halts_only_on_violations (c := 2) bothCoresBooting
    (episode 2 0 (.operation report)).here
  exact ⟨(hwarm.1 _ _).mpr hnested, (hreport.1 _ _).mpr hunmatched⟩

end RealmDispatch
