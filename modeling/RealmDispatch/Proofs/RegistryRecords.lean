import Mathlib.Data.List.Nodup
import RealmDispatch.Realm.Registry

/-!
# The records of the registry

A sound registry has one record per descriptor, none for descriptor 0 and no
more than the capacity allows. Registrations and updates keep it sound, and both
are described by the record that is found for a descriptor afterwards. Whether a
descriptor is taken in depends on nothing but itself, on whether it is known
already and on the number of records.
-/
namespace RealmDispatch

namespace Registry
variable {r : Registry} {x : Record} {rd rd' : Descriptor} {f : Record → Record}

structure Sound (r : Registry) : Prop where
  distinct : (r.records.map Record.rd).Nodup
  nonzero : ∀ x ∈ r.records, x.rd ≠ 0
  bounded : r.size ≤ realmCapacity

theorem sound_empty : ({} : Registry).Sound :=
  ⟨List.nodup_nil, by simp, Nat.zero_le _⟩

theorem rd_of_lookup? (h : r.lookup? rd = some x) : x.rd = rd := by
  simpa using List.find?_some h

theorem mem_of_lookup? (h : r.lookup? rd = some x) : x ∈ r.records :=
  List.mem_of_find?_eq_some h

theorem lookup?_isSome_iff : (r.lookup? rd).isSome ↔ ∃ x ∈ r.records, x.rd = rd := by
  simp [lookup?]

theorem Sound.lookup?_eq_some_iff (h : r.Sound) :
    r.lookup? rd = some x ↔ x ∈ r.records ∧ x.rd = rd := by
  constructor
  · intro hx
    exact ⟨mem_of_lookup? hx, rd_of_lookup? hx⟩
  · intro hx
    obtain ⟨y, hy⟩ := Option.isSome_iff_exists.mp (lookup?_isSome_iff.mpr ⟨x, hx⟩)
    have hrd : y.rd = x.rd := (rd_of_lookup? hy).trans hx.2.symm
    rw [hy, List.inj_on_of_nodup_map h.distinct (mem_of_lookup? hy) hx.1 hrd]

theorem Sound.lookup?_of_mem (h : r.Sound) (hx : x ∈ r.records) :
    r.lookup? x.rd = some x := h.lookup?_eq_some_iff.mpr ⟨hx, rfl⟩

/-! ## Updates -/

theorem lookup?_update (hf : ∀ x, x.rd = rd → (f x).rd = rd) :
    (r.update rd f).lookup? rd' = if rd' = rd then (r.lookup? rd).map f else r.lookup? rd' := by
  unfold update lookup?
  induction r.records with
  | nil => simp
  | cons x xs ih =>
      by_cases hx : x.rd = rd
      · by_cases hrd : rd' = rd
        · simp [hx, hrd, hf x hx]
        · simpa [hx, hrd, hf x hx, Ne.symm hrd] using ih
      · by_cases hxd : x.rd = rd'
        · have hrd : rd' ≠ rd := fun h => hx (hxd.trans h)
          simp [hxd, hrd]
        · simpa [hx, hxd] using ih

theorem map_rd_update (hf : ∀ x, x.rd = rd → (f x).rd = rd) :
    (r.update rd f).records.map Record.rd = r.records.map Record.rd := by
  unfold update
  rw [List.map_map]
  apply List.map_congr_left
  intro x _
  by_cases hx : x.rd = rd
  · simp [hx, hf x hx]
  · simp [hx]

theorem update_update {g : Record → Record} (hf : ∀ x, x.rd = rd → (f x).rd = rd) :
    (r.update rd f).update rd g = r.update rd fun x => g (f x) := by
  unfold update
  rw [List.map_map]
  congr 1
  apply List.map_congr_left
  intro x _
  by_cases hx : x.rd = rd
  · simp [hx, hf x hx]
  · simp [hx]

theorem update_of_unknown (h : r.lookup? rd = none) : r.update rd f = r := by
  have hne : ∀ x ∈ r.records, x.rd ≠ rd := by simpa [lookup?] using h
  have hmap : r.records.map (fun x => if x.rd = rd then f x else x) = r.records := by
    rw [List.map_congr_left fun x hx => if_neg (hne x hx)]
    exact List.map_id _
  unfold update
  rw [hmap]

theorem size_update : (r.update rd f).size = r.size := by simp [size, update]

theorem Sound.update (h : r.Sound) (hf : ∀ x, x.rd = rd → (f x).rd = rd) :
    (r.update rd f).Sound where
  distinct := by
    rw [map_rd_update hf]
    exact h.distinct
  nonzero := by
    intro x hx
    have hmem : x.rd ∈ r.records.map Record.rd := by
      rw [← map_rd_update hf]
      exact List.mem_map_of_mem hx
    obtain ⟨y, hy, hrd⟩ := List.mem_map.mp hmem
    exact hrd ▸ h.nonzero y hy
  bounded := by
    rw [size_update]
    exact h.bounded

/-! ## Registrations -/

/-- Whether a registration of `rd` is accepted. -/
def Admits (r : Registry) (rd : Descriptor) : Prop :=
  rd ≠ 0 ∧ ((r.lookup? rd).isSome ∨ r.size < realmCapacity)

theorem index?_eq_none_iff : r.index? rd = none ↔ r.lookup? rd = none := by
  simp [index?, lookup?]

theorem register_refused (h : ¬ r.Admits rd) : ∃ cause, r.register rd = (r, .error cause) := by
  by_cases hrd : rd = 0
  · exact ⟨.nullDescriptor, if_pos hrd⟩
  · have hor : ¬ ((r.lookup? rd).isSome ∨ r.size < realmCapacity) := fun hor => h ⟨hrd, hor⟩
    rw [not_or, Option.not_isSome_iff_eq_none, Nat.not_lt] at hor
    exact ⟨.capacityExceeded, by simp [register, hrd, index?_eq_none_iff.mpr hor.1, isFull, hor.2]⟩

/-- What is refused is not known: a known descriptor is not 0, and it needs no room. -/
theorem Sound.lookup?_of_refused (h : r.Sound) (hrd : ¬ r.Admits rd) : r.lookup? rd = none := by
  by_contra hne
  obtain ⟨x, hx⟩ := Option.ne_none_iff_exists'.mp hne
  refine hrd ⟨?_, Or.inl (by simp [hx])⟩
  rw [← rd_of_lookup? hx]
  exact h.nonzero x (mem_of_lookup? hx)

theorem register_known (hrd : rd ≠ 0) (h : (r.lookup? rd).isSome) :
    ∃ handle, r.register rd = (r.update rd fun _ => { rd := rd }, .ok handle) := by
  have hindex : r.index? rd ≠ none := by
    rw [Ne, index?_eq_none_iff, ← Option.not_isSome_iff_eq_none, not_not]
    exact h
  obtain ⟨i, hi⟩ := Option.ne_none_iff_exists'.mp hindex
  exact ⟨i, by simp [register, hrd, hi]⟩

theorem register_new (hrd : rd ≠ 0) (h : r.lookup? rd = none) (hroom : r.size < realmCapacity) :
    r.register rd = (⟨r.records ++ [{ rd := rd }]⟩, .ok r.size) := by
  have hfull : ¬ realmCapacity ≤ r.size := Nat.not_le.mpr hroom
  simp [register, hrd, index?_eq_none_iff.mpr h, isFull, hfull]

theorem Sound.append (h : r.Sound) (hrd : rd ≠ 0) (hnone : r.lookup? rd = none)
    (hroom : r.size < realmCapacity) : (⟨r.records ++ [{ rd := rd }]⟩ : Registry).Sound where
  distinct := by
    rw [List.map_append, List.nodup_append]
    refine ⟨h.distinct, List.nodup_singleton _, ?_⟩
    intro y hy z hz
    obtain ⟨x, hx, rfl⟩ := List.mem_map.mp hy
    obtain rfl : z = rd := by simpa using hz
    intro hxz
    rw [← hxz, h.lookup?_of_mem hx] at hnone
    cases hnone
  nonzero := by
    intro x hx
    rcases List.mem_append.mp hx with hx | hx
    · exact h.nonzero x hx
    · rwa [List.mem_singleton.mp hx]
  bounded := by simpa [size] using Nat.succ_le_of_lt hroom

/-- An accepted registration leaves a fresh record and touches no other one. -/
theorem Sound.register_accepted (h : r.Sound) (hrd : r.Admits rd) :
    ∃ r' handle, r.register rd = (r', .ok handle) ∧ r'.Sound ∧
      ∀ rd', r'.lookup? rd' = if rd' = rd then some { rd := rd } else r.lookup? rd' := by
  obtain ⟨hne, hroom⟩ := hrd
  by_cases hknown : (r.lookup? rd).isSome
  · obtain ⟨handle, hr⟩ := register_known hne hknown
    refine ⟨_, handle, hr, h.update fun _ _ => rfl, fun rd' => ?_⟩
    obtain ⟨x, hx⟩ := Option.isSome_iff_exists.mp hknown
    rw [lookup?_update (f := fun _ => { rd := rd }) fun _ _ => rfl, hx, Option.map_some]
  · have hnone : r.lookup? rd = none := Option.not_isSome_iff_eq_none.mp hknown
    have hsize : r.size < realmCapacity := hroom.resolve_left hknown
    refine ⟨_, _, register_new hne hnone hsize, h.append hne hnone hsize, fun rd' => ?_⟩
    by_cases hrd : rd' = rd
    · subst hrd
      have hfind : r.records.find? (fun x => x.rd == rd') = none := hnone
      simp [lookup?, List.find?_append, hfind]
    · simp [lookup?, List.find?_append, hrd, Ne.symm hrd]

end Registry

end RealmDispatch
