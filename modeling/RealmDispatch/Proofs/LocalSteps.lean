import RealmDispatch.Proofs.StepLaws

/-!
# Steps that only touch the calling core

Calls and interrupts aside, no operation of the dispatcher tells the tracker
anything, and none of them changes what is kept for another core: a boot or a
synchronous entry concerns the core it runs on. This is a law of such operations,
since it adds up and none of their single changes breaks it.
-/
namespace RealmDispatch
open Step

/-- The trackers are the same, and so are all cores but one. -/
structure Machine.AgreesBeside (m m' : Machine) (c : Core) : Prop where
  tracker : m'.tracker = m.tracker
  cpu : ∀ d, d ≠ c → m'.cpu d = m.cpu d

theorem Machine.AgreesBeside.refl (m : Machine) (c : Core) : m.AgreesBeside m c :=
  ⟨rfl, fun _ _ => rfl⟩

theorem Machine.AgreesBeside.trans {m m' m'' : Machine} {c : Core} (h : m.AgreesBeside m' c)
    (h' : m'.AgreesBeside m'' c) : m.AgreesBeside m'' c where
  tracker := h'.tracker.trans h.tracker
  cpu := fun d hd => (h'.cpu d hd).trans (h.cpu d hd)

theorem Machine.agreesBeside_setCpu (m : Machine) (c : Core) (cpu : Cpu) :
    m.AgreesBeside (m.setCpu c cpu) c := by
  refine ⟨rfl, ?_⟩
  intro d hd
  rw [Machine.cpu_setCpu, if_neg hd]

theorem Machine.entering_agreesBeside (c : Core) :
    Law.Entering (fun m _ m' => m.AgreesBeside m' c) c where
  nothing m := .refl m c
  chained h h' := h.trans h'
  request m _ _ := .refl m c
  context m _ _ := m.agreesBeside_setCpu c _
  next m _ := m.agreesBeside_setCpu c _
  live _ _ := ⟨rfl, fun _ _ => rfl⟩
  bootFailed _ := ⟨rfl, fun _ _ => rfl⟩
  entryPoint _ _ := ⟨rfl, fun _ _ => rfl⟩
  slot _ _ _ := ⟨rfl, fun _ _ => rfl⟩
  enterRealm m := .refl m c

/-- Run on `c`, the step tells the tracker nothing and touches no other core. -/
def Step.LocalTo {α : Type} (c : Core) (x : Step α) : Prop :=
  ∀ (b : Board) (m : Machine), b.core = c.val → m.AgreesBeside (x b m).machine c

theorem localTo_finish (c : Core) (entry : Entry) (status : UInt64) :
    LocalTo c (entry.finish status) :=
  obeys_finish (Machine.entering_agreesBeside c) entry status

theorem localTo_start (c : Core) {op : Operation}
    (hcall : ∀ args flags, op ≠ .call args flags)
    (hinterrupt : ∀ interrupted, op ≠ .interrupt interrupted) : LocalTo c op.start :=
  obeys_start_of_untrapped (Machine.entering_agreesBeside c) hcall hinterrupt

end RealmDispatch
