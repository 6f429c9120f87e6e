import RealmDispatch.Proofs.BootOutcomes
import RealmDispatch.Proofs.FailedBoot

/-!
# Synchronous entries that are pending

A synchronous entry leaves its stack in the slot of its core and waits. Until the
realm manager comes back from it, nothing that happens on any core touches the slot:
calls and interrupts have nothing to do with slots, entries of other cores have slots
of their own, and a second entry on the same core is refused. So the end of the boot,
reported on the core, unwinds to the stack of the entry that is waiting there.

The report is a service like others, though, and no service is performed once a boot
has failed, on whatever core. An entry that is pending then stays pending.
-/
namespace RealmDispatch
open Step

/-! ## Changes of slots -/

theorem Law.slot_booting (c : Core) : Law.Booting (fun m _ m' => m'.slot = m.slot) c where
  nothing _ := rfl
  chained hfirst hsecond := hsecond.trans hfirst
  request _ _ _ := rfl
  context _ _ _ := rfl
  next _ _ := rfl
  live _ _ := rfl
  bootFailed _ := rfl
  entryPoint _ _ := rfl

theorem Law.slot_trapping (c : Core) : Law.Trapping (fun m _ m' => m'.slot = m.slot) c where
  toBasic := (slot_booting c).toBasic
  inFlight _ _ := rfl
  tell _ _ := rfl

/-- An operation that answers does not end in an entry. -/
theorem answered_ne_entered {α : Type} (x : Step α) (f : α → Answer) (b : Board) (m : Machine)
    (entry : Entry) : ((do
      let a ← x
      pure (.answered (f a)) : Step Progress) b m).result ≠ .ok (.entered entry) := by
  rw [bind_apply]
  unfold Outcome.andThen
  split
  · simp
  · simp [Outcome.after]

/-- What a step that may end in a synchronous entry does to the slots. -/
inductive SlotChange (c : Core) (b : Board) (m : Machine) (o : Outcome Progress) : Prop
  | entered (purpose : Purpose) : o.result = .ok (.entered ⟨c, purpose⟩) →
      o.machine.slot = Function.update m.slot c ⟨b.stack, true⟩ → SlotChange c b m o
  | kept : (∀ entry, o.result ≠ .ok (.entered entry)) → o.machine.slot = m.slot →
      SlotChange c b m o

/-- Run on `c`, the step uses the slot of `c` if it ends in an entry, and no slot if not. -/
def Step.MayEnter (c : Core) (x : Step Progress) : Prop :=
  ∀ (b : Board) (m : Machine), b.core = c.val → SlotChange c b m (x b m)

namespace Step.MayEnter
variable {α : Type} {c : Core}

theorem answered {x : Step α} (h : Obeys (fun m _ m' => m'.slot = m.slot) c x)
    (f : α → Answer) : MayEnter c (do
      let a ← x
      pure (.answered (f a))) := by
  intro b m hc
  refine .kept (answered_ne_entered x f b m) ?_
  rw [Episode.machine_answered _ fun a => .answered (f a)]
  exact h b m hc

theorem pure (a : Answer) : MayEnter c (Pure.pure (.answered a)) :=
  fun _ _ _ => .kept (by simp) rfl

theorem bind {x : Step α} {f : α → Step Progress}
    (hx : Obeys (fun m _ m' => m'.slot = m.slot) c x) (hf : ∀ a, MayEnter c (f a)) :
    MayEnter c (x >>= f) := by
  intro b m hc
  have hfirst := hx b m hc
  rw [bind_apply]
  unfold Outcome.andThen
  split
  · exact .kept (by simp) hfirst
  · rename_i a _
    cases hf a b (x b m).machine hc with
    | entered purpose hresult hslot =>
        rw [hfirst] at hslot
        exact .entered purpose hresult hslot
    | kept hresult hslot => exact .kept hresult (hslot.trans hfirst)

theorem core_bind {f : Core → Step Progress} (hf : MayEnter c (f c)) :
    MayEnter c (Step.core >>= f) := by
  intro b m hc
  rw [bind_apply, core_eq hc, Outcome.andThen_mk_ok]
  exact hf b m hc

theorem ite {p : Prop} [Decidable p] {x y : Step Progress} (hx : MayEnter c x)
    (hy : MayEnter c y) : MayEnter c (if p then x else y) := by
  split
  · exact hx
  · exact hy

theorem begin (purpose : Purpose) : MayEnter c (do
    let entry ← Entry.begin purpose
    Pure.pure (.entered entry)) := by
  intro b m hc
  rw [bind_apply]
  by_cases hadmits : m.Admits c
  · rw [Entry.begin_apply purpose hc hadmits, Outcome.andThen_mk_ok]
    refine .entered purpose rfl ?_
    funext d
    rw [Function.update_apply]
    exact m.slot_entered c d b.stack
  · obtain ⟨halt, hhalted⟩ := Entry.begin_halts purpose hc hadmits
    rw [hhalted]
    exact .kept (by simp [Outcome.andThen]) rfl

end Step.MayEnter

theorem mayEnter_coldBoot (c : Core) : MayEnter c coldBoot := by
  have hb := (Law.slot_booting c).toBasic
  exact .bind (.machine hb) fun m => .ite (.pure _) (.bind (.notify hb _) fun _ => .begin _)

theorem mayEnter_warmBoot (c : Core) : MayEnter c warmBoot := by
  have hb := (Law.slot_booting c).toBasic
  refine .bind (.machine hb) fun m => ?_
  split
  · refine .core_bind (.bind (obeys_startRealm (Law.slot_booting c) _ _) fun _ => ?_)
    exact .bind (.request hb rfl) fun _ => .begin _
  · exact .pure _

/-- Every operation that is started on `c` uses the slot of `c` at most. -/
theorem mayEnter_start (c : Core) (op : Operation) : MayEnter c op.start := by
  have hbooting := Law.slot_booting c
  have htrapping := Law.slot_trapping c
  have hb := hbooting.toBasic
  cases op with
  | setup => exact .answered (obeys_setup hbooting) id
  | coldBoot => exact mayEnter_coldBoot c
  | warmBoot => exact mayEnter_warmBoot c
  | initTimer => exact .answered (.request hb rfl) fun _ => .done
  | enter => exact .begin .plain
  | leave value => exact .answered (obeys_leaveEntry hb value) .next
  | call args flags => exact .answered (obeys_handleCall htrapping args flags) .next
  | interrupt interrupted => exact .answered (obeys_handleInterrupt htrapping interrupted) .next

/-- The slot that is freed is the one of the core the entry began on. -/
theorem slot_finish {b : Board} {m : Machine} {c : Core} (entry : Entry) (status : UInt64)
    (hc : b.core = c.val) :
    (entry.finish status b m).machine.slot =
      Function.update m.slot entry.core { m.slot entry.core with pending := false } := by
  obtain ⟨notices, hfinish⟩ := entry.finish_apply (m := m) status hc
  funext d
  rw [hfinish, Function.update_apply]
  by_cases hfails : entry.fails status = true
  · simp [hfails]
  · simp [hfails]

/-! ## Entries that are pending -/

namespace Episode
variable {e : Episode} {m : Machine} {c : Core}

/-- A synchronous entry begins on `c`. -/
def Enters (e : Episode) (m : Machine) (c : Core) : Prop :=
  ∃ op purpose, e.activity = .operation op ∧
    (op.start e.board m).result = .ok (.entered ⟨c, purpose⟩)

/-- The realm manager comes back from a synchronous entry that began on `c`. -/
def ComesBack (e : Episode) (c : Core) : Prop :=
  ∃ purpose status, e.activity = .comeback ⟨c, purpose⟩ status

theorem enters_iff {op : Operation} (h : e.activity = .operation op) :
    e.Enters m c ↔ ∃ purpose, (op.start e.board m).result = .ok (.entered ⟨c, purpose⟩) := by
  constructor
  · rintro ⟨op', purpose, hop, hresult⟩
    cases h.symm.trans hop
    exact ⟨purpose, hresult⟩
  · rintro ⟨purpose, hresult⟩
    exact ⟨op, purpose, h, hresult⟩

theorem slot_operation {op : Operation} (h : e.activity = .operation op) :
    (e.Enters m c ∧ (e.next m).slot c = ⟨e.board.stack, true⟩) ∨
      (¬ e.Enters m c ∧ (e.next m).slot c = m.slot c) := by
  have hnext : e.next m = (op.start e.board m).machine := by rw [next, h, Activity.perform]
  rw [hnext, enters_iff h]
  cases mayEnter_start e.core op e.board m e.here with
  | entered purpose hresult hslot =>
      rw [hslot, hresult]
      by_cases hc : c = e.core
      · left
        rw [hc, Function.update_self]
        exact ⟨⟨purpose, rfl⟩, rfl⟩
      · right
        rw [Function.update_of_ne hc]
        refine ⟨?_, rfl⟩
        rintro ⟨purpose', hother⟩
        cases hother
        exact hc rfl
  | kept hresult hslot =>
      right
      rw [hslot]
      refine ⟨?_, rfl⟩
      rintro ⟨purpose, hentered⟩
      exact hresult _ hentered

/-- An entry sets the slot of its core, the way back frees it, and nothing else touches it. -/
theorem slot_next (e : Episode) (m : Machine) (c : Core) :
    (e.Enters m c ∧ (e.next m).slot c = ⟨e.board.stack, true⟩) ∨
      (e.ComesBack c ∧ ((e.next m).slot c).pending = false) ∨
      (¬ e.Enters m c ∧ ¬ e.ComesBack c ∧ (e.next m).slot c = m.slot c) := by
  cases hactivity : e.activity with
  | operation op =>
      have hcomesBack : ¬ e.ComesBack c := by
        rintro ⟨purpose, status, h⟩
        cases hactivity.symm.trans h
      rcases slot_operation (m := m) (c := c) hactivity with hentered | ⟨henters, hslot⟩
      · exact Or.inl hentered
      · exact Or.inr (Or.inr ⟨henters, hcomesBack, hslot⟩)
  | comeback entry status =>
      have henters : ¬ e.Enters m c := by
        rintro ⟨op, purpose, h, hresult⟩
        cases hactivity.symm.trans h
      have hslot : (e.next m).slot =
          Function.update m.slot entry.core { m.slot entry.core with pending := false } := by
        rw [next, hactivity]
        exact slot_finish entry status e.here
      rw [hslot]
      by_cases hc : c = entry.core
      · rw [hc, Function.update_self]
        exact Or.inr (Or.inl ⟨⟨entry.purpose, status, hactivity⟩, rfl⟩)
      · rw [Function.update_of_ne hc]
        refine Or.inr (Or.inr ⟨henters, ?_, rfl⟩)
        rintro ⟨purpose, status', h⟩
        cases hactivity.symm.trans h
        exact hc rfl
  | software live =>
      have henters : ¬ e.Enters m c := by
        rintro ⟨op, purpose, h, hresult⟩
        cases hactivity.symm.trans h
      have hcomesBack : ¬ e.ComesBack c := by
        rintro ⟨purpose, status, h⟩
        cases hactivity.symm.trans h
      refine Or.inr (Or.inr ⟨henters, hcomesBack, ?_⟩)
      rw [next, hactivity]
      rfl

end Episode

/-- The entry on `c` that was begun last has left `stack` in the slot, and the realm manager
has not come back from it. -/
def WaitsIn (c : Core) (stack : UInt64) (run : List Episode) : Prop :=
  Since (fun before e => e.Enters (({} : Machine).after before) c ∧ e.board.stack = stack)
    (fun before e => e.Enters (({} : Machine).after before) c ∨ e.ComesBack c) run

/-- The slot of a core belongs to the entry the core is waiting in. -/
theorem waitsIn_of_pending {run : List Episode} {c : Core}
    (h : ((({} : Machine).after run).slot c).pending = true) :
    WaitsIn c ((({} : Machine).after run).slot c).stack run := by
  induction run using List.reverseRecOn with
  | nil =>
      have hidle : (({} : Machine).slot c).pending = false := by simp [Machine.slot]
      exact absurd (hidle.symm.trans h) Bool.false_ne_true
  | append_singleton run e ih =>
      rw [Machine.after_snoc] at h ⊢
      rcases e.slot_next (({} : Machine).after run) c with
        ⟨henters, hslot⟩ | ⟨-, hfree⟩ | ⟨henters, hcomesBack, hslot⟩
      · rw [hslot]
        exact since_snoc.mpr (Or.inl ⟨henters, rfl⟩)
      · exact absurd (hfree.symm.trans h) Bool.false_ne_true
      · rw [hslot] at h ⊢
        refine since_snoc.mpr (Or.inr ⟨ih h, ?_⟩)
        rintro (hagain | hback)
        · exact henters hagain
        · exact hcomesBack hback

/-! ## The end of the boot -/

/-- A core that waits in a synchronous entry can leave it as long as no boot has failed: the
end of the boot, reported on the core, unwinds to the stack that this entry has left, with
the value that was reported, whatever other cores have done meanwhile. Once a boot has
failed the report is refused, and the core goes on waiting. -/
theorem pending_entry_left {run : List Episode} {b : Board} {c : Core} {args : Arguments}
    {flags : CallFlags} (hpending : ((({} : Machine).after run).slot c).pending = true)
    (hc : b.core = c.val) (hleaves : Leaves args flags) :
    let m := ({} : Machine).after run
    let outcome := handleCall args flags b m
    WaitsIn c (m.slot c).stack run ∧
      (m.bootFailed = false →
        outcome.result = .ok (.resume (m.slot c).stack args.x1) ∧ outcome.machine = m) ∧
      (m.bootFailed = true →
        outcome.result = .ok (.eret .realm) ∧
          outcome.machine = m.written c .realm [unknownCall]) := by
  intro m outcome
  refine ⟨waitsIn_of_pending hpending, ?_, ?_⟩
  · intro hboot
    have hresumed : outcome = _ := handleCall_of_leaves hboot hleaves
    rw [hresumed, leaveEntry_of_pending args.x1 hc hpending]
    exact ⟨rfl, rfl⟩
  · intro hboot
    obtain ⟨notice, hrefused⟩ := handleCall_of_failed args flags hboot hc
    have hworld : flags.world = .realm := hleaves.1
    rw [hworld] at hrefused
    exact ⟨congrArg Outcome.result hrefused, congrArg Outcome.machine hrefused⟩

namespace Scenario

/-- The realm manager boots on the first core, and on the second one meanwhile. -/
def bothCoresBooting : List Episode :=
  [episode 0 0 (.operation .setup), episode 0 0 (.operation .coldBoot),
    episode 1 0 (.operation .warmBoot)]

/-- The second core fails while the first one is booting. -/
def failedMeanwhile : List Episode :=
  bothCoresBooting ++ [episode 1 0 (.comeback ⟨1, .warmBoot⟩ 1)]

/-- The registers of the realm manager as it reports the end of its boot. -/
def bootReport (status : UInt64) : Arguments :=
  Arguments.ofList [Service.bootComplete.code.toUInt64, status]

end Scenario

open Scenario in
/-- The first core is done before the second one. -/
theorem pending_entry_left_of_both :
    (handleCall (bootReport 7) ⟨CallFlags.nonSecureBit ||| CallFlags.realmBit⟩
      (episode 0 0 (.operation .setup)).board (({} : Machine).after bothCoresBooting)).result =
        .ok (.resume 0xc0de0000 7) := by
  have hpending : ((({} : Machine).after bothCoresBooting).slot 0).pending = true := by decide
  have hleaves : Leaves (bootReport 7) ⟨CallFlags.nonSecureBit ||| CallFlags.realmBit⟩ :=
    ⟨by decide, by decide⟩
  have hboot : (({} : Machine).after bothCoresBooting).bootFailed = false := by decide
  have hstack : ((({} : Machine).after bothCoresBooting).slot 0).stack = 0xc0de0000 := by decide
  have hleft := pending_entry_left hpending (episode 0 0 (.operation .setup)).here hleaves
  exact hstack ▸ (hleft.2.1 hboot).1

open Scenario in
/-- The second core has failed by the time the first one reports. -/
theorem pending_entry_kept_in :
    ¬ ∀ (run : List Episode) (b : Board) (c : Core) (args : Arguments) (flags : CallFlags),
      ((({} : Machine).after run).slot c).pending = true → b.core = c.val → Leaves args flags →
      (handleCall args flags b (({} : Machine).after run)).result =
        .ok (.resume ((({} : Machine).after run).slot c).stack args.x1) := by
  intro hclaim
  have hleft := hclaim failedMeanwhile (episode 0 0 (.operation .setup)).board 0 (bootReport 0)
    ⟨CallFlags.nonSecureBit ||| CallFlags.realmBit⟩ (by decide)
    (episode 0 0 (.operation .setup)).here ⟨by decide, by decide⟩
  revert hleft
  decide

end RealmDispatch
