import Mathlib.Data.List.Nodup
import Mathlib.Data.List.TakeWhile
import RealmDispatch.Realm.Agenda

/-!
# The order of pending deadlines

An orderly agenda is sorted by the point in time its deadlines fall due and has
one deadline per realm at most. Every operation on an agenda keeps it orderly,
and all of them are described by what they do to the deadline found for a realm:
a removal or the serving of the head forgets one realm, and a schedule gives one
realm a new deadline. Where in the list a deadline stands is of no interest to
these descriptions; the order matters only to the head.
-/
namespace RealmDispatch

namespace Agenda
variable {a : Agenda} {d e : Deadline} {rd rd' : Descriptor} {due now : UInt64}

structure Orderly (a : Agenda) : Prop where
  sorted : a.entries.Pairwise fun d e => d.due ≤ e.due
  distinct : (a.entries.map Deadline.rd).Nodup

theorem orderly_empty : ({} : Agenda).Orderly := ⟨List.Pairwise.nil, List.nodup_nil⟩

/-- Two deadlines of one realm are the same deadline. -/
theorem Orderly.eq_of_rd (h : a.Orderly) (hd : d ∈ a.entries) (he : e ∈ a.entries)
    (hrd : d.rd = e.rd) : d = e :=
  List.inj_on_of_nodup_map h.distinct hd he hrd

/-- No realm has a deadline both in the front and in the back of an agenda. -/
theorem Orderly.rd_ne_of_append (h : a.Orderly) {front back : List Deadline}
    (hentries : a.entries = front ++ back) (hd : d ∈ front) (he : e ∈ back) : d.rd ≠ e.rd := by
  have hdistinct := h.distinct
  rw [hentries, List.map_append, List.nodup_append] at hdistinct
  exact hdistinct.2.2 _ (List.mem_map_of_mem hd) _ (List.mem_map_of_mem he)

theorem Orderly.find?_eq_some_iff (h : a.Orderly) :
    a.find? rd = some d ↔ d ∈ a.entries ∧ d.rd = rd := by
  constructor
  · intro hd
    exact ⟨List.mem_of_find?_eq_some hd, by simpa using List.find?_some hd⟩
  · intro hd
    have hfound : (a.find? rd).isSome := by
      rw [find?, List.find?_isSome]
      exact ⟨d, hd.1, by simpa using hd.2⟩
    obtain ⟨e, he⟩ := Option.isSome_iff_exists.mp hfound
    have hrd : e.rd = rd := by simpa using List.find?_some he
    rw [he, h.eq_of_rd (List.mem_of_find?_eq_some he) hd.1 (hrd.trans hd.2.symm)]

theorem find?_eq_none_iff : a.find? rd = none ↔ ∀ d ∈ a.entries, d.rd ≠ rd := by
  simp [find?]

/-- Everything found for a realm is all there is of it. -/
theorem Orderly.filter_eq_toList (h : a.Orderly) :
    (a.entries.filter fun d => d.rd == rd) = (a.find? rd).toList := by
  have hnodup : (a.entries.filter fun d => d.rd == rd).Nodup :=
    (List.Nodup.of_map _ h.distinct).filter _
  cases hf : a.find? rd with
  | none =>
      rw [find?_eq_none_iff] at hf
      simpa using hf
  | some d =>
      have hmem : ∀ e, e ∈ (a.entries.filter fun d => d.rd == rd) ↔ e = d := by
        intro e
        rw [List.mem_filter, beq_iff_eq, ← h.find?_eq_some_iff, hf, Option.some.injEq, eq_comm]
      exact List.perm_singleton.mp
        ((List.perm_ext_iff_of_nodup hnodup (List.nodup_singleton d)).mpr (by simpa using hmem))

/-! ## Removal -/

theorem Orderly.remove_entries (h : a.Orderly) :
    (a.remove rd).entries = a.entries.filter fun d => d.rd ≠ rd := by
  have hd := h.distinct
  unfold remove
  revert hd
  induction a.entries with
  | nil => exact fun _ => rfl
  | cons d ds ih =>
      intro hd
      rw [List.map_cons, List.nodup_cons] at hd
      by_cases hrd : d.rd = rd
      · have hrest : ∀ e ∈ ds, e.rd ≠ rd := by
          intro e he hrd'
          exact hd.1 (List.mem_map.mpr ⟨e, he, hrd'.trans hrd.symm⟩)
        simpa [hrd] using (List.filter_eq_self.mpr (by simpa using hrest)).symm
      · simpa [hrd] using ih hd.2

theorem Orderly.mem_remove (h : a.Orderly) :
    d ∈ (a.remove rd).entries ↔ d ∈ a.entries ∧ d.rd ≠ rd := by
  simp [h.remove_entries]

theorem Orderly.remove (h : a.Orderly) (rd : Descriptor) : (a.remove rd).Orderly where
  sorted := h.sorted.sublist List.eraseP_sublist
  distinct := h.distinct.sublist (List.eraseP_sublist.map _)

theorem Orderly.find?_remove (h : a.Orderly) :
    (a.remove rd).find? rd' = if rd' = rd then none else a.find? rd' := by
  ext d
  rw [(h.remove rd).find?_eq_some_iff, h.mem_remove]
  split_ifs with hrd
  · subst hrd
    simp +contextual
  · rw [h.find?_eq_some_iff]
    constructor
    · intro hd
      exact ⟨hd.1.1, hd.2⟩
    · intro hd
      exact ⟨⟨hd.1, hd.2 ▸ hrd⟩, hd.2⟩

theorem remove_of_find?_eq_none (h : a.find? rd = none) : a.remove rd = a := by
  rw [find?_eq_none_iff] at h
  unfold remove
  rw [List.eraseP_of_forall_not (by simpa using h)]

/-! ## Placement -/

theorem perm_place : (a.place d).entries.Perm (d :: a.entries) := by
  refine List.perm_middle.trans ?_
  rw [List.takeWhile_append_dropWhile]

theorem mem_place : e ∈ (a.place d).entries ↔ e = d ∨ e ∈ a.entries := by
  rw [perm_place.mem_iff, List.mem_cons]

/-- What a placed deadline stands in front of falls due later than it. -/
theorem Orderly.due_lt_of_mem_dropWhile (h : a.Orderly)
    (he : e ∈ a.entries.dropWhile fun x => x.due ≤ d.due) : d.due < e.due := by
  have hs := h.sorted
  revert he hs
  induction a.entries with
  | nil => simp
  | cons x xs ih =>
      intro he hs
      rw [List.pairwise_cons] at hs
      rw [List.dropWhile_cons] at he
      split at he
      · exact ih he hs.2
      · rename_i hx
        have hlt : d.due < x.due := by simpa using hx
        rcases List.mem_cons.mp he with rfl | he
        · exact hlt
        · exact UInt64.lt_of_lt_of_le hlt (hs.1 e he)

/-- A placed deadline stands behind all that fall due no later, and in front of the others. -/
theorem Orderly.pairwise_place (h : a.Orderly) {R : Deadline → Deadline → Prop}
    (hkept : a.entries.Pairwise R) (hbehind : ∀ e ∈ a.entries, e.due ≤ d.due → R e d)
    (hbefore : ∀ e ∈ a.entries, d.due < e.due → R d e) : (a.place d).entries.Pairwise R := by
  unfold Agenda.place
  have hlater {e : Deadline} (he : e ∈ a.entries.dropWhile fun x => x.due ≤ d.due) : R d e :=
    hbefore e ((List.dropWhile_sublist _).subset he) (h.due_lt_of_mem_dropWhile he)
  have hparts : (a.entries.takeWhile (fun x => x.due ≤ d.due) ++
      a.entries.dropWhile fun x => x.due ≤ d.due).Pairwise R := by
    rw [List.takeWhile_append_dropWhile]
    exact hkept
  rw [List.pairwise_append] at hparts ⊢
  obtain ⟨hfront, hback, hacross⟩ := hparts
  refine ⟨hfront, List.pairwise_cons.mpr ⟨fun e he => hlater he, hback⟩, ?_⟩
  intro e he x hx
  rcases List.mem_cons.mp hx with rfl | hx
  · have hdue : e.due ≤ x.due := by simpa using List.mem_takeWhile_imp he
    exact hbehind e ((List.takeWhile_sublist _).subset he) hdue
  · exact hacross e he x hx

theorem Orderly.place (h : a.Orderly) (hd : a.find? d.rd = none) : (a.place d).Orderly where
  sorted := h.pairwise_place h.sorted (fun _ _ hdue => hdue) fun _ _ hdue => UInt64.le_of_lt hdue
  distinct := by
    rw [(perm_place.map Deadline.rd).nodup_iff, List.map_cons, List.nodup_cons]
    rw [find?_eq_none_iff] at hd
    refine ⟨?_, h.distinct⟩
    intro hmem
    obtain ⟨e, he, hrd⟩ := List.mem_map.mp hmem
    exact hd e he hrd

theorem Orderly.find?_place (h : a.Orderly) (hd : a.find? d.rd = none) :
    (a.place d).find? rd = if rd = d.rd then some d else a.find? rd := by
  ext e
  rw [(h.place hd).find?_eq_some_iff, mem_place]
  split_ifs with hrd
  · rw [find?_eq_none_iff] at hd
    rw [Option.some.injEq]
    constructor
    · intro he
      rcases he.1 with rfl | hmem
      · rfl
      · exact absurd (he.2.trans hrd) (hd e hmem)
    · intro he
      exact ⟨Or.inl he.symm, he ▸ hrd.symm⟩
  · rw [h.find?_eq_some_iff]
    constructor
    · intro he
      rcases he.1 with rfl | hmem
      · exact absurd he.2.symm hrd
      · exact ⟨hmem, he.2⟩
    · intro he
      exact ⟨Or.inr he.1, he.2⟩

/-! ## Schedules -/

theorem schedule_of_room (h : (a.remove rd).size < realmCapacity) :
    a.schedule rd due = ((a.remove rd).place { due, rd }, true) := if_pos h

theorem Orderly.reschedule (h : a.Orderly) :
    ((a.remove rd).place { due, rd }).Orderly :=
  (h.remove rd).place (by simp [h.find?_remove])

theorem Orderly.find?_reschedule (h : a.Orderly) :
    ((a.remove rd).place { due, rd }).find? rd' =
      if rd' = rd then some { due, rd } else a.find? rd' := by
  rw [(h.remove rd).find?_place (by simp [h.find?_remove]), h.find?_remove]
  split_ifs <;> rfl

/-! ## The head -/

theorem mem_of_head? (h : a.head? = some d) : d ∈ a.entries := List.mem_of_head? h

theorem filter_head?_of_due (hd : a.head? = some d) (hdue : d.due ≤ now) :
    (a.head?.filter fun d => d.due ≤ now) = some d :=
  Option.filter_eq_some_iff.mpr ⟨hd, by simpa using hdue⟩

theorem filter_head?_of_early (h : ¬ ∃ d, a.head? = some d ∧ d.due ≤ now) :
    (a.head?.filter fun d => d.due ≤ now) = none := by
  rw [Option.filter_eq_none_iff]
  intro d hd hdue
  exact h ⟨d, hd, by simpa using hdue⟩

/-- Nothing falls due before the head. -/
theorem Orderly.earliest?_le (h : a.Orderly) (hd : d ∈ a.entries) :
    ∃ due, a.earliest? = some due ∧ due ≤ d.due := by
  have hsorted := h.sorted
  obtain ⟨entries⟩ := a
  cases entries with
  | nil => cases hd
  | cons e es =>
      refine ⟨e.due, rfl, ?_⟩
      rcases List.mem_cons.mp hd with rfl | hmem
      · exact UInt64.le_refl _
      · exact (List.pairwise_cons.mp hsorted).1 d hmem

/-- Without the deadline of one realm the next one falls due no earlier. -/
theorem Orderly.earliest?_remove (h : a.Orderly) (hdue : (a.remove rd).earliest? = some due) :
    ∃ due', a.earliest? = some due' ∧ due' ≤ due := by
  obtain ⟨d, hhead, hd⟩ := Option.map_eq_some_iff.mp hdue
  have hmem : d ∈ a.entries := (h.mem_remove.mp (mem_of_head? hhead)).1
  rw [← hd]
  exact h.earliest?_le hmem

/-- Serving the head is removing what its realm waits for. -/
theorem popDue_of_head? (h : a.head? = some d) (hdue : d.due ≤ now) :
    a.popDue now = (a.remove d.rd, some d) := by
  obtain ⟨entries⟩ := a
  cases entries with
  | nil => simp [head?] at h
  | cons e es =>
      obtain rfl : e = d := by simpa [head?] using h
      simp [popDue, Agenda.remove, hdue]

end Agenda

end RealmDispatch
