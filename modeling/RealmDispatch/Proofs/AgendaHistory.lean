import RealmDispatch.Proofs.AgendaOrder
import RealmDispatch.Proofs.Histories

/-!
# What an agenda owes to its history

The operations on an agenda may come in any order and with any arguments. Whatever they were,
the agenda holds the requests that are still alive: a deadline is alive from the schedule that
was granted it until its realm is given another one, or it is cancelled, or it is popped. They
stand in the order in which they fall due, and those that fall due together in the order in
which they were granted. No list but that of the agenda does this.

So an agenda is a stable priority queue with one slot per realm. A schedule is refused only when
every slot is taken by another realm, and takes nothing away then.
-/
namespace RealmDispatch

inductive AgendaOperation where
  | schedule (rd : Descriptor) (due : UInt64)
  | cancel (rd : Descriptor)
  | popDue (now : UInt64)
deriving DecidableEq, Repr

namespace Agenda
variable {a : Agenda} {op : AgendaOperation} {ops : List AgendaOperation} {d e : Deadline}
  {rd : Descriptor} {due now : UInt64} {ds es : List Deadline}

def next (a : Agenda) : AgendaOperation → Agenda
  | .schedule rd due => (a.schedule rd due).1
  | .cancel rd => (a.cancel rd).1
  | .popDue now => (a.popDue now).1

/-- The agenda after the operations, the first of which found it empty. -/
def after (ops : List AgendaOperation) : Agenda := ops.foldl next {}

theorem after_snoc (ops : List AgendaOperation) (op : AgendaOperation) :
    after (ops ++ [op]) = (after ops).next op := by simp [after]

/-! ## Requests -/

/-- The operation is a schedule of the deadline, and there is room for it. -/
def Grants (a : Agenda) (d : Deadline) (op : AgendaOperation) : Prop :=
  op = .schedule d.rd d.due ∧ (a.schedule d.rd d.due).2 = true

/-- The operation gives the realm another deadline or takes the one away that it has. -/
inductive Releases (a : Agenda) : Descriptor → AgendaOperation → Prop where
  | replaced (rd : Descriptor) (due : UInt64) (h : (a.schedule rd due).2 = true) :
      Releases a rd (.schedule rd due)
  | cancelled (rd : Descriptor) : Releases a rd (.cancel rd)
  | popped (now : UInt64) (d : Deadline) (h : (a.popDue now).2 = some d) :
      Releases a d.rd (.popDue now)

/-- Told after the others, the operation is a schedule of the realm that there is room for. -/
def Schedules (rd : Descriptor) (before : List AgendaOperation) (op : AgendaOperation) : Prop :=
  ∃ due, (after before).Grants ⟨due, rd⟩ op

/-- The deadline was granted, and its realm has neither been given another one since nor lost
it. -/
def Live (ops : List AgendaOperation) (d : Deadline) : Prop :=
  Since (fun before op => (after before).Grants d op)
    (fun before op => (after before).Releases d.rd op) ops

/-- The deadline falls due before the other one, or together with it and was granted earlier. -/
def Precedes (ops : List AgendaOperation) (d e : Deadline) : Prop :=
  d.due < e.due ∨ d.due = e.due ∧ LastBefore (Schedules d.rd) (Schedules e.rd) ops

/-- The list holds what is alive after the operations, one deadline per realm, in order. -/
structure Queues (ops : List AgendaOperation) (ds : List Deadline) : Prop where
  live : ∀ d, d ∈ ds ↔ Live ops d
  distinct : (ds.map Deadline.rd).Nodup
  ordered : ds.Pairwise (Precedes ops)

theorem Schedules.rd_unique {rd' : Descriptor} {before : List AgendaOperation}
    (h : Schedules rd before op) (h' : Schedules rd' before op) : rd = rd' := by
  obtain ⟨due, rfl, -⟩ := h
  obtain ⟨due', hop, -⟩ := h'
  cases hop
  rfl

/-- Which of two deadlines comes first is a matter of their history alone. -/
theorem Precedes.rd_eq (h : Precedes ops d e) (h' : Precedes ops e d) : d.rd = e.rd := by
  rcases h with hlt | ⟨heq, hlast⟩
  · rcases h' with hgt | ⟨heq, -⟩
    · exact absurd hlt (UInt64.lt_asymm hgt)
    · exact absurd hlt (heq ▸ UInt64.lt_irrefl _)
  · rcases h' with hgt | ⟨-, hlast'⟩
    · exact absurd hgt (heq ▸ UInt64.lt_irrefl _)
    · obtain ⟨before, op, hd, he⟩ := hlast.meet hlast'
      exact hd.rd_unique he

/-- There is one such list. -/
theorem Queues.unique (h : Queues ops ds) (h' : Queues ops es) : ds = es := by
  have hperm : ds.Perm es := by
    refine (List.perm_ext_iff_of_nodup h.distinct.of_map h'.distinct.of_map).mpr ?_
    intro d
    rw [h.live, h'.live]
  refine hperm.eq_of_pairwise ?_ h.ordered h'.ordered
  intro d e hd he hbefore hbehind
  have he : e ∈ ds := hperm.mem_iff.mpr he
  exact List.inj_on_of_nodup_map h.distinct hd he (hbefore.rd_eq hbehind)

/-! ## One operation -/

/-- An orderly agenda that holds no more than there is room for. -/
structure Bounded (a : Agenda) : Prop extends a.Orderly where
  size_le : a.size ≤ realmCapacity

theorem bounded_empty : ({} : Agenda).Bounded := ⟨orderly_empty, Nat.zero_le _⟩

theorem size_remove_le (a : Agenda) (rd : Descriptor) : (a.remove rd).size ≤ a.size :=
  List.eraseP_sublist.length_le

theorem Bounded.remove (h : a.Bounded) (rd : Descriptor) : (a.remove rd).Bounded :=
  ⟨h.toOrderly.remove rd, (a.size_remove_le rd).trans h.size_le⟩

/-- When there is no room, the realm has no deadline that could be lost. -/
theorem Bounded.schedule_of_full (h : a.Bounded) (hfull : ¬ (a.remove rd).size < realmCapacity) :
    a.schedule rd due = (a, false) := by
  have hsize : (a.remove rd).size = a.size := by
    have hle := a.size_remove_le rd
    have hbound := h.size_le
    omega
  have hsame : (a.remove rd).entries = a.entries := List.eraseP_sublist.eq_of_length hsize
  have hrefused : a.schedule rd due = (a.remove rd, false) := if_neg hfull
  rw [hrefused]
  exact congrArg (fun entries => (Agenda.mk entries, false)) hsame

theorem popDue_of_early (h : ¬ ∃ d, a.head? = some d ∧ d.due ≤ now) : a.popDue now = (a, none) := by
  obtain ⟨entries⟩ := a
  cases entries with
  | nil => rfl
  | cons d ds =>
      have hdue : ¬ d.due ≤ now := fun hdue => h ⟨d, rfl, hdue⟩
      simp [popDue, hdue]

/-- What an operation comes to: one realm is given a deadline, one realm loses what it has, or
nothing happens. -/
inductive Outcome (a : Agenda) (op : AgendaOperation) : Prop where
  | granted (d : Deadline) (hgrants : ∀ e, a.Grants e op ↔ e = d)
      (hreleases : ∀ rd, a.Releases rd op ↔ rd = d.rd) (hroom : (a.remove d.rd).size < realmCapacity)
      (hnext : a.next op = (a.remove d.rd).place d)
  | forgotten (rd : Descriptor) (hgrants : ∀ e, ¬ a.Grants e op)
      (hreleases : ∀ rd', a.Releases rd' op ↔ rd' = rd) (hnext : a.next op = a.remove rd)
  | unchanged (hgrants : ∀ e, ¬ a.Grants e op) (hreleases : ∀ rd, ¬ a.Releases rd op)
      (hnext : a.next op = a)

theorem Bounded.outcome_schedule (h : a.Bounded) (rd : Descriptor) (due : UInt64) :
    a.Outcome (.schedule rd due) := by
  by_cases hroom : (a.remove rd).size < realmCapacity
  · have hschedule : a.schedule rd due = ((a.remove rd).place ⟨due, rd⟩, true) :=
      schedule_of_room hroom
    have hgranted : (a.schedule rd due).2 = true := by rw [hschedule]
    refine .granted ⟨due, rd⟩ ?_ ?_ hroom (by rw [next, hschedule])
    · intro e
      constructor
      · rintro ⟨⟨⟩, -⟩
        rfl
      · rintro rfl
        exact ⟨rfl, hgranted⟩
    · intro rd'
      constructor
      · rintro ⟨⟩
        rfl
      · rintro rfl
        exact .replaced rd' due hgranted
  · have hschedule : a.schedule rd due = (a, false) := h.schedule_of_full hroom
    have hrefused : ¬ (a.schedule rd due).2 = true := by
      rw [hschedule]
      exact Bool.false_ne_true
    refine .unchanged ?_ ?_ (by rw [next, hschedule])
    · rintro e ⟨⟨⟩, hgranted⟩
      exact hrefused hgranted
    · rintro rd' ⟨⟩
      exact hrefused ‹_›

theorem outcome_cancel (a : Agenda) (rd : Descriptor) : a.Outcome (.cancel rd) := by
  refine .forgotten rd ?_ ?_ rfl
  · rintro e ⟨⟨⟩, -⟩
  · intro rd'
    constructor
    · rintro ⟨⟩
      rfl
    · rintro rfl
      exact .cancelled rd'

theorem outcome_popDue (a : Agenda) (now : UInt64) : a.Outcome (.popDue now) := by
  have hgrants (e : Deadline) : ¬ a.Grants e (.popDue now) := by rintro ⟨⟨⟩, -⟩
  by_cases hdue : ∃ d, a.head? = some d ∧ d.due ≤ now
  · obtain ⟨d, hhead, hdue⟩ := hdue
    have hpop := popDue_of_head? hhead hdue
    refine .forgotten d.rd hgrants ?_ (by rw [next, hpop])
    intro rd'
    constructor
    · rintro ⟨⟩
      rename_i d' hpopped
      rw [hpop] at hpopped
      rw [Option.some.inj hpopped]
    · rintro rfl
      exact .popped now d (by rw [hpop])
  · have hpop := popDue_of_early hdue
    refine .unchanged hgrants ?_ (by rw [next, hpop])
    rintro rd' ⟨⟩
    rename_i d' hpopped
    rw [hpop] at hpopped
    cases hpopped

theorem Bounded.outcome (h : a.Bounded) (op : AgendaOperation) : a.Outcome op := by
  cases op with
  | schedule rd due => exact h.outcome_schedule rd due
  | cancel rd => exact a.outcome_cancel rd
  | popDue now => exact a.outcome_popDue now

theorem Bounded.next (h : a.Bounded) (op : AgendaOperation) : (a.next op).Bounded := by
  cases h.outcome op with
  | granted d hgrants hreleases hroom hnext =>
      rw [hnext]
      exact ⟨h.reschedule, perm_place.length_eq.trans_le hroom⟩
  | forgotten rd hgrants hreleases hnext =>
      rw [hnext]
      exact h.remove rd
  | unchanged hgrants hreleases hnext =>
      rw [hnext]
      exact h

/-- A deadline is there after an operation if it was granted, or was there and not released. -/
theorem Bounded.mem_next (h : a.Bounded) :
    d ∈ (a.next op).entries ↔ a.Grants d op ∨ d ∈ a.entries ∧ ¬ a.Releases d.rd op := by
  cases h.outcome op with
  | granted e hgrants hreleases hroom hnext =>
      rw [hnext, mem_place, h.mem_remove, hgrants, hreleases]
  | forgotten rd hgrants hreleases hnext =>
      simp only [hnext, h.mem_remove, hgrants, hreleases, false_or]
  | unchanged hgrants hreleases hnext =>
      simp [hnext, hgrants, hreleases]

/-! ## All operations -/

theorem bounded_after (ops : List AgendaOperation) : (after ops).Bounded := by
  induction ops using List.reverseRecOn with
  | nil => exact bounded_empty
  | append_singleton ops op ih =>
      rw [after_snoc]
      exact ih.next op

theorem mem_after_iff (ops : List AgendaOperation) : d ∈ (after ops).entries ↔ Live ops d := by
  induction ops using List.reverseRecOn with
  | nil => exact iff_of_false List.not_mem_nil not_since_nil
  | append_singleton ops op ih =>
      unfold Live
      rw [after_snoc, (bounded_after ops).mem_next, ih, since_snoc]
      rfl

/-- What is alive was scheduled. -/
theorem Live.scheduled (h : Live ops d) : Happened (Schedules d.rd) ops :=
  h.imp fun _ hgranted => ⟨⟨d.due, hgranted.1⟩, fun _ _ => not_false⟩

/-- The order stays as it is until one of the two realms is given another deadline. -/
theorem Precedes.snoc (h : Precedes ops d e) (hd : ¬ Schedules d.rd ops op)
    (he : ¬ Schedules e.rd ops op) : Precedes (ops ++ [op]) d e :=
  h.imp_right fun htie => ⟨htie.1, htie.2.snoc hd he⟩

/-- What is left of the agenda keeps its order. -/
theorem pairwise_of_sublist (h : (after ops).entries.Pairwise (Precedes ops))
    (hsub : ds.Sublist (after ops).entries) (hothers : ∀ d ∈ ds, ¬ Schedules d.rd ops op) :
    ds.Pairwise (Precedes (ops ++ [op])) := by
  refine (h.sublist hsub).imp_of_mem ?_
  intro d e hd he hprecedes
  exact hprecedes.snoc (hothers d hd) (hothers e he)

/-- A new deadline goes behind those it ties with, which were all granted before. -/
theorem pairwise_of_granted (h : (after ops).entries.Pairwise (Precedes ops))
    (hgrants : (after ops).Grants d op) :
    (((after ops).remove d.rd).place d).entries.Pairwise (Precedes (ops ++ [op])) := by
  have ha := bounded_after ops
  have hschedules : Schedules d.rd ops op := ⟨d.due, hgrants⟩
  have hothers : ∀ e ∈ ((after ops).remove d.rd).entries, ¬ Schedules e.rd ops op := by
    intro e he hscheduled
    exact (ha.mem_remove.mp he).2 (hscheduled.rd_unique hschedules)
  have hkept := pairwise_of_sublist h List.eraseP_sublist hothers
  refine (ha.remove d.rd).pairwise_place hkept ?_ fun e _ hdue => Or.inl hdue
  intro e he hdue
  rcases UInt64.lt_or_eq_of_le hdue with hlt | heq
  · exact Or.inl hlt
  · have hlive := (mem_after_iff ops).mp (ha.mem_remove.mp he).1
    exact Or.inr ⟨heq, lastBefore_of_last hschedules hlive.scheduled⟩

theorem pairwise_after (ops : List AgendaOperation) :
    (after ops).entries.Pairwise (Precedes ops) := by
  induction ops using List.reverseRecOn with
  | nil => exact List.Pairwise.nil
  | append_singleton ops op ih =>
      rw [after_snoc]
      cases (bounded_after ops).outcome op with
      | granted d hgrants hreleases hroom hnext =>
          rw [hnext]
          exact pairwise_of_granted ih ((hgrants d).mpr rfl)
      | forgotten rd hgrants hreleases hnext =>
          rw [hnext]
          refine pairwise_of_sublist ih List.eraseP_sublist ?_
          intro d _ hscheduled
          exact hgrants _ hscheduled.choose_spec
      | unchanged hgrants hreleases hnext =>
          rw [hnext]
          refine pairwise_of_sublist ih (List.Sublist.refl _) ?_
          intro d _ hscheduled
          exact hgrants _ hscheduled.choose_spec

theorem queues_after (ops : List AgendaOperation) : Queues ops (after ops).entries where
  live _ := mem_after_iff ops
  distinct := (bounded_after ops).distinct
  ordered := pairwise_after ops

/-! ## What the operations answer -/

/-- The answers of the operations, and what they leave, in terms of the pending deadlines. -/
structure Answers (a : Agenda) : Prop where
  refused_iff : ∀ rd due, (a.schedule rd due).2 = false ↔
    (a.entries.filter fun d => d.rd ≠ rd).length = realmCapacity
  unchanged_of_refused : ∀ rd due, (a.schedule rd due).2 = false → (a.schedule rd due).1 = a
  cancelled_iff : ∀ rd d, (a.cancel rd).2 = some d ↔ d ∈ a.entries ∧ d.rd = rd
  cancel_entries : ∀ rd, (a.cancel rd).1.entries = a.entries.filter fun d => d.rd ≠ rd
  popped_iff : ∀ now d, (a.popDue now).2 = some d ↔ a.entries.head? = some d ∧ d.due ≤ now
  popDue_entries : ∀ now, (a.popDue now).1.entries =
    if (a.popDue now).2.isSome then a.entries.tail else a.entries
  popMany_last : ∀ n, popMany Counter.last n a = (⟨a.entries.drop n⟩, a.entries.take n)

/-- Everything has fallen due when the counter reaches its end. -/
theorem popMany_last (n : Nat) (a : Agenda) :
    popMany Counter.last n a = (⟨a.entries.drop n⟩, a.entries.take n) := by
  have hlast (due : UInt64) : due ≤ Counter.last := UInt64.le_iff_toNat_le.mpr (by
    have := due.toNat_lt
    change due.toNat ≤ 18446744073709551615
    omega)
  induction n generalizing a with
  | zero => rfl
  | succ n ih =>
      obtain ⟨entries⟩ := a
      cases entries with
      | nil => rfl
      | cons d rest => simp [popMany, popDue, hlast, ih]

theorem Bounded.answers (h : a.Bounded) : a.Answers where
  refused_iff rd due := by
    have hgranted : (a.schedule rd due).2 = true ↔ (a.remove rd).size < realmCapacity := by
      by_cases hroom : (a.remove rd).size < realmCapacity
      · simp [schedule_of_room hroom, hroom]
      · simp [h.schedule_of_full hroom, hroom]
    have hbound := (h.remove rd).size_le
    rw [← h.remove_entries, ← Bool.not_eq_true, hgranted]
    unfold size at hbound ⊢
    omega
  unchanged_of_refused rd due hrefused := by
    by_cases hroom : (a.remove rd).size < realmCapacity
    · rw [schedule_of_room hroom] at hrefused
      cases hrefused
    · rw [h.schedule_of_full hroom]
  cancelled_iff rd d := h.find?_eq_some_iff
  cancel_entries rd := h.remove_entries
  popped_iff now d := by
    by_cases hdue : ∃ d, a.head? = some d ∧ d.due ≤ now
    · obtain ⟨e, hhead, hdue⟩ := hdue
      rw [popDue_of_head? hhead hdue]
      constructor
      · rintro ⟨⟩
        exact ⟨hhead, hdue⟩
      · rintro ⟨hd, -⟩
        exact hhead.symm.trans hd
    · rw [popDue_of_early hdue]
      exact iff_of_false (Option.some_ne_none d).symm fun hd => hdue ⟨d, hd⟩
  popDue_entries now := by
    obtain ⟨entries⟩ := a
    cases entries with
    | nil => rfl
    | cons e es => by_cases hdue : e.due ≤ now <;> simp [popDue, hdue]
  popMany_last n := popMany_last n a

/-- After any operations the agenda is the one list that holds what is alive, in the order in
which it falls due and was granted, and the next operation answers accordingly. -/
theorem refines_stable_queue (ops : List AgendaOperation) :
    (∀ ds, Queues ops ds ↔ ds = (after ops).entries) ∧ (after ops).Answers := by
  refine ⟨fun ds => ⟨fun h => h.unique (queues_after ops), ?_⟩, (bounded_after ops).answers⟩
  rintro rfl
  exact queues_after ops

/-- Realm 1 gives up its place among those that tie at 7 when it is scheduled again. -/
example :
    (after [.schedule 1 7, .schedule 2 7, .schedule 3 5, .schedule 1 7, .popDue 6,
      .cancel 4]).entries = [⟨7, 2⟩, ⟨7, 1⟩] := by decide

end Agenda

end RealmDispatch
