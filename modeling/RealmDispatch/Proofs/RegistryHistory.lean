import RealmDispatch.Proofs.Histories
import RealmDispatch.Proofs.RegistryRecords

/-!
# What the registry owes to its history

Registrations and revisions of records may come in any order and with any arguments. Whatever
they were, the registry holds one record for every realm that was ever taken in, and the records
stand in the order in which their realms were taken in first. A record holds what the operations
on its own realm have left there; those on other realms do not touch it. The handle that a realm
was answered with leads to its record from then on.

So the registry is a bounded map that keeps the order of insertion. A registration is refused
only for descriptor 0 and, when every place is taken, for a realm that has none.
-/
namespace RealmDispatch

/-- A revision writes a retention and a phase, which may depend on the record as it was. -/
def Record.revised (x : Record) (values : Record → UInt64 × Phase) : Record :=
  { x with retention := (values x).1, phase := (values x).2 }

inductive RegistryOperation where
  | register (rd : Descriptor)
  | revise (rd : Descriptor) (values : Record → UInt64 × Phase)

/-- What an operation does to a record that is in the registry. -/
def RegistryOperation.effect (op : RegistryOperation) (x : Record) : Record :=
  match op with
  | .register rd => if x.rd = rd then { rd := rd } else x
  | .revise rd values => if x.rd = rd then x.revised values else x

theorem RegistryOperation.rd_effect (op : RegistryOperation) (x : Record) :
    (op.effect x).rd = x.rd := by
  cases op <;> simp only [effect] <;> split_ifs with h
  · exact h.symm
  · rfl
  · rfl
  · rfl

namespace Registry
variable {r : Registry} {op : RegistryOperation} {ops : List RegistryOperation} {x : Record}
  {rd rd' : Descriptor} {handle : Nat} {ds ds' : List Descriptor}

def next (r : Registry) : RegistryOperation → Registry
  | .register rd => (r.register rd).1
  | .revise rd values => r.update rd fun x => x.revised values

/-- The registry after the operations, the first of which found it empty. -/
def after (ops : List RegistryOperation) : Registry := ops.foldl next {}

theorem after_snoc (ops : List RegistryOperation) (op : RegistryOperation) :
    after (ops ++ [op]) = (after ops).next op := by simp [after]

/-- The realms of the registry, in the order of their records. -/
def rds (r : Registry) : List Descriptor := r.records.map Record.rd

/-! ## Histories -/

/-- The operation is a registration of the realm, and is answered with the handle. -/
def HandsOut (r : Registry) (rd : Descriptor) (handle : Nat) (op : RegistryOperation) : Prop :=
  op = .register rd ∧ (r.register rd).2 = .ok handle

/-- Told after the others, the operation is a registration of the realm that is accepted. -/
def TakesIn (rd : Descriptor) (before : List RegistryOperation) (op : RegistryOperation) : Prop :=
  ∃ handle, (after before).HandsOut rd handle op

/-- The list holds every realm that was taken in, once, and in the order in which that happened
first. -/
structure Enrols (ops : List RegistryOperation) (ds : List Descriptor) : Prop where
  taken : ∀ rd, rd ∈ ds ↔ Happened (TakesIn rd) ops
  distinct : ds.Nodup
  ordered : ds.Pairwise fun rd rd' => FirstBefore (TakesIn rd) (TakesIn rd') ops

/-- What the operations leave in the record of a realm. -/
def contents (rd : Descriptor) (ops : List RegistryOperation) : Record :=
  ops.foldl (fun x op => op.effect x) { rd := rd }

theorem contents_snoc (rd : Descriptor) (ops : List RegistryOperation) (op : RegistryOperation) :
    contents rd (ops ++ [op]) = op.effect (contents rd ops) := by simp [contents]

theorem rd_contents (rd : Descriptor) (ops : List RegistryOperation) :
    (contents rd ops).rd = rd := by
  induction ops using List.reverseRecOn with
  | nil => rfl
  | append_singleton ops op ih => rw [contents_snoc, op.rd_effect, ih]

theorem TakesIn.rd_unique {before : List RegistryOperation} (h : TakesIn rd before op)
    (h' : TakesIn rd' before op) : rd = rd' := by
  obtain ⟨_, rfl, -⟩ := h
  obtain ⟨_, hop, -⟩ := h'
  cases hop
  rfl

/-- There is one such list. -/
theorem Enrols.unique (h : Enrols ops ds) (h' : Enrols ops ds') : ds = ds' := by
  have hperm : ds.Perm ds' := by
    refine (List.perm_ext_iff_of_nodup h.distinct h'.distinct).mpr ?_
    intro rd
    rw [h.taken, h'.taken]
  refine hperm.eq_of_pairwise ?_ h.ordered h'.ordered
  intro rd rd' _ _ hbefore hbehind
  obtain ⟨before, op, htaken, htaken'⟩ := hbefore.meet hbehind
  exact htaken.rd_unique htaken'

/-! ## Places -/

theorem mem_rds : rd ∈ r.rds ↔ ∃ x ∈ r.records, x.rd = rd := List.mem_map

theorem lookup?_eq_none_iff : r.lookup? rd = none ↔ rd ∉ r.rds := by
  simp [lookup?, rds]

theorem index?_eq_none : r.index? rd = none ↔ rd ∉ r.rds :=
  index?_eq_none_iff.trans lookup?_eq_none_iff

theorem index?_eq (r : Registry) (rd : Descriptor) :
    r.index? rd = r.rds.findIdx? fun rd' => rd' == rd := by
  rw [rds, List.findIdx?_map]
  rfl

/-- The place of a realm is that of its record. -/
theorem get?_of_index? (h : r.index? rd = some handle) : r.get? handle = r.lookup? rd := by
  obtain ⟨hlt, hrd, hearlier⟩ := List.findIdx?_eq_some_iff_getElem.mp h
  have hfound : r.lookup? rd = some r.records[handle] :=
    List.find?_eq_some_iff_getElem.mpr ⟨hrd, handle, hlt, rfl, by simpa using hearlier⟩
  rw [hfound]
  exact List.getElem?_eq_getElem hlt

theorem get?_update (r : Registry) (rd : Descriptor) (f : Record → Record) (handle : Nat) :
    (r.update rd f).get? handle = (r.get? handle).map fun x => if x.rd = rd then f x else x :=
  List.getElem?_map

theorem Sound.index?_eq_some_iff (h : r.Sound) :
    r.index? rd = some handle ↔ ∃ x, r.get? handle = some x ∧ r.lookup? rd = some x := by
  constructor
  · intro hindex
    obtain ⟨hlt, -, -⟩ := List.findIdx?_eq_some_iff_getElem.mp hindex
    have hget : r.get? handle = some r.records[handle] := List.getElem?_eq_getElem hlt
    exact ⟨_, hget, get?_of_index? hindex ▸ hget⟩
  · rintro ⟨x, hget, hlookup⟩
    obtain ⟨hlt, hx⟩ := List.getElem?_eq_some_iff.mp hget
    refine List.findIdx?_eq_some_iff_getElem.mpr ⟨hlt, by simp [hx, rd_of_lookup? hlookup], ?_⟩
    -- An earlier record of the same realm would be a second one.
    intro i hi hrd
    have hlength : r.rds.length = r.records.length := List.length_map _
    have hhandle : handle < r.rds.length := hlength ▸ hlt
    have hearlier : i < r.rds.length := hi.trans hhandle
    have hsame : r.rds[i] = r.rds[handle] := by
      simpa [rds, hx, rd_of_lookup? hlookup] using hrd
    exact absurd (h.distinct.getElem_inj_iff.mp hsame) hi.ne

/-! ## One operation -/

/-- What becomes of a registration: a known realm starts over in its place, a new one goes behind
all others, or nothing happens. -/
inductive Registration (r : Registry) (rd : Descriptor) : Prop where
  | restarted (handle : Nat) (hrd : rd ≠ 0) (hplace : r.index? rd = some handle)
      (hregister : r.register rd = (r.update rd fun _ => { rd := rd }, .ok handle))
  | entered (hrd : rd ≠ 0) (hnew : rd ∉ r.rds) (hroom : r.size < realmCapacity)
      (hregister : r.register rd = (⟨r.records ++ [{ rd := rd }]⟩, .ok r.size))
  | refused (hrefused : rd = 0 ∨ rd ∉ r.rds ∧ realmCapacity ≤ r.size)
      (hregister : r.register rd =
        (r, .error (if rd = 0 then .nullDescriptor else .capacityExceeded)))

theorem registration (r : Registry) (rd : Descriptor) : r.Registration rd := by
  by_cases hrd : rd = 0
  · exact .refused (Or.inl hrd) (by simp [register, hrd])
  · cases hindex : r.index? rd with
    | some handle => exact .restarted handle hrd hindex (by simp [register, hrd, hindex])
    | none =>
        have hnew : rd ∉ r.rds := index?_eq_none.mp hindex
        by_cases hroom : r.size < realmCapacity
        · exact .entered hrd hnew hroom (register_new hrd (lookup?_eq_none_iff.mpr hnew) hroom)
        · rw [Nat.not_lt] at hroom
          exact .refused (Or.inr ⟨hnew, hroom⟩) (by simp [register, hrd, hindex, isFull, hroom])

theorem register_of_ok (h : (r.register rd).2 = .ok handle) :
    r.index? rd = some handle ∧ (r.register rd).1 = r.update rd (fun _ => { rd := rd }) ∨
      rd ∉ r.rds ∧ r.size = handle ∧ (r.register rd).1 = ⟨r.records ++ [{ rd := rd }]⟩ := by
  cases r.registration rd with
  | restarted i hrd hplace hregister =>
      rw [hregister] at h ⊢
      cases h
      exact Or.inl ⟨hplace, rfl⟩
  | entered hrd hnew hroom hregister =>
      rw [hregister] at h ⊢
      cases h
      exact Or.inr ⟨hnew, rfl, rfl⟩
  | refused hrefused hregister =>
      rw [hregister] at h
      cases h

theorem register_of_error {cause : Refusal} (h : (r.register rd).2 = .error cause) :
    (r.register rd).1 = r ∧ cause = if rd = 0 then .nullDescriptor else .capacityExceeded := by
  cases r.registration rd with
  | restarted i hrd hplace hregister =>
      rw [hregister] at h
      cases h
  | entered hrd hnew hroom hregister =>
      rw [hregister] at h
      cases h
  | refused hrefused hregister =>
      rw [hregister] at h ⊢
      cases h
      exact ⟨rfl, rfl⟩

/-- A sound registry has no record of descriptor 0, which is refused. -/
theorem Sound.zero_not_mem_rds (h : r.Sound) : 0 ∉ r.rds := by
  intro hmem
  obtain ⟨x, hx, hrd⟩ := mem_rds.mp hmem
  exact h.nonzero x hx hrd

/-- What an operation comes to: a realm is taken in behind all others, or the realms stay the
same. The records that were there change as the operation says. -/
inductive Outcome (r : Registry) (op : RegistryOperation) : Prop where
  | entered (rd : Descriptor) (hop : op = .register rd) (hnew : rd ∉ r.rds)
      (hanswer : (r.register rd).2 = .ok r.size)
      (hnext : (r.next op).records = r.records.map op.effect ++ [{ rd := rd }])
  | kept (hknown : ∀ rd handle, r.HandsOut rd handle op → r.index? rd = some handle)
      (hnext : (r.next op).records = r.records.map op.effect)

/-- A registration does nothing to the records of a registry without a record of the realm. -/
theorem map_effect_of_unknown (h : rd ∉ r.rds) :
    r.records.map (RegistryOperation.register rd).effect = r.records := by
  have hnone : r.lookup? rd = none := lookup?_eq_none_iff.mpr h
  exact congrArg Registry.records (update_of_unknown (f := fun _ => { rd := rd }) hnone)

theorem Sound.outcome (h : r.Sound) (op : RegistryOperation) : r.Outcome op := by
  cases op with
  | revise rd values =>
      refine .kept ?_ rfl
      rintro rd' handle ⟨⟨⟩, -⟩
  | register rd =>
      cases r.registration rd with
      | restarted i hrd hplace hregister =>
          refine .kept ?_ ?_
          · rintro rd' handle ⟨⟨⟩, hanswer⟩
            rw [hregister] at hanswer
            cases hanswer
            exact hplace
          · rw [next, hregister]
            rfl
      | entered hrd hnew hroom hregister =>
          refine .entered rd rfl hnew (by rw [hregister]) ?_
          rw [next, hregister, map_effect_of_unknown hnew]
      | refused hrefused hregister =>
          have hnew : rd ∉ r.rds := by
            rcases hrefused with rfl | hfull
            · exact h.zero_not_mem_rds
            · exact hfull.1
          refine .kept ?_ ?_
          · rintro rd' handle ⟨⟨⟩, hanswer⟩
            rw [hregister] at hanswer
            cases hanswer
          · rw [next, hregister, map_effect_of_unknown hnew]

theorem Sound.next (h : r.Sound) (op : RegistryOperation) : (r.next op).Sound := by
  cases op with
  | revise rd values => exact h.update fun _ hx => hx
  | register rd =>
      cases r.registration rd with
      | restarted i hrd hplace hregister =>
          rw [Registry.next, hregister]
          exact h.update fun _ _ => rfl
      | entered hrd hnew hroom hregister =>
          rw [Registry.next, hregister]
          exact h.append hrd (lookup?_eq_none_iff.mpr hnew) hroom
      | refused hrefused hregister =>
          rw [Registry.next, hregister]
          exact h

theorem rds_of_kept (hnext : (r.next op).records = r.records.map op.effect) :
    (r.next op).rds = r.rds := by
  rw [rds, hnext, List.map_map]
  exact List.map_congr_left fun x _ => op.rd_effect x

theorem rds_of_entered (hnext : (r.next op).records = r.records.map op.effect ++ [{ rd := rd }]) :
    (r.next op).rds = r.rds ++ [rd] := by
  rw [rds, hnext, List.map_append, List.map_map]
  exact congrArg (· ++ [rd]) (List.map_congr_left fun x _ => op.rd_effect x)

/-! ## All operations -/

theorem sound_after (ops : List RegistryOperation) : (after ops).Sound := by
  induction ops using List.reverseRecOn with
  | nil => exact sound_empty
  | append_singleton ops op ih =>
      rw [after_snoc]
      exact ih.next op

/-- A handle leads to a realm exactly if a registration of the realm was answered with it. -/
theorem index?_after_iff (ops : List RegistryOperation) :
    (after ops).index? rd = some handle ↔
      Happened (fun before op => (after before).HandsOut rd handle op) ops := by
  induction ops using List.reverseRecOn with
  | nil => exact iff_of_false (Option.some_ne_none handle).symm not_happened_nil
  | append_singleton ops op ih =>
      rw [after_snoc, happened_snoc, ← ih]
      cases (sound_after ops).outcome op with
      | kept hknown hnext =>
          have hsame : ((after ops).next op).index? rd = (after ops).index? rd := by
            rw [index?_eq, rds_of_kept hnext, ← index?_eq]
          rw [hsame]
          exact ⟨Or.inl, fun h => h.elim id (hknown rd handle)⟩
      | entered rd' hop hnew hanswer hnext =>
          have hplace : ((after ops).next op).index? rd =
              ((after ops).index? rd).or (if rd' = rd then some (after ops).size else none) := by
            rw [index?_eq, rds_of_entered hnext, List.findIdx?_append, ← index?_eq]
            simp [rds, size, List.findIdx?_cons]
          rw [hplace]
          by_cases hrd : rd' = rd
          · subst hrd
            have hnone : (after ops).index? rd' = none := index?_eq_none.mpr hnew
            simp [HandsOut, hnone, hop, hanswer]
          · simp [HandsOut, hop, hrd]

theorem mem_rds_after_iff (ops : List RegistryOperation) :
    rd ∈ (after ops).rds ↔ Happened (TakesIn rd) ops := by
  have hplace : rd ∈ (after ops).rds ↔ ∃ handle, (after ops).index? rd = some handle := by
    rw [← Option.ne_none_iff_exists', Ne, index?_eq_none, not_not]
  simp only [hplace, index?_after_iff]
  exact happened_exists.symm

/-- A realm that is taken in goes behind all others, which were taken in before. -/
theorem pairwise_rds_after (ops : List RegistryOperation) :
    (after ops).rds.Pairwise fun rd rd' => FirstBefore (TakesIn rd) (TakesIn rd') ops := by
  induction ops using List.reverseRecOn with
  | nil => exact List.Pairwise.nil
  | append_singleton ops op ih =>
      have hkept : (after ops).rds.Pairwise fun rd rd' =>
          FirstBefore (TakesIn rd) (TakesIn rd') (ops ++ [op]) := ih.imp FirstBefore.snoc
      rw [after_snoc]
      cases (sound_after ops).outcome op with
      | kept hknown hnext =>
          rw [rds_of_kept hnext]
          exact hkept
      | entered rd' hop hnew hanswer hnext =>
          rw [rds_of_entered hnext, List.pairwise_append]
          refine ⟨hkept, List.pairwise_singleton _ _, ?_⟩
          intro rd hrd new hmem
          obtain rfl : new = rd' := List.mem_singleton.mp hmem
          rw [mem_rds_after_iff] at hrd hnew
          exact (firstBefore_of_not_happened hrd hnew).snoc

theorem enrols_after (ops : List RegistryOperation) : Enrols ops (after ops).rds where
  taken _ := mem_rds_after_iff ops
  distinct := (sound_after ops).distinct
  ordered := pairwise_rds_after ops

theorem eq_contents_of_mem (ops : List RegistryOperation) (hx : x ∈ (after ops).records) :
    x = contents x.rd ops := by
  induction ops using List.reverseRecOn generalizing x with
  | nil => cases hx
  | append_singleton ops op ih =>
      rw [after_snoc] at hx
      rw [contents_snoc]
      have hold (hmem : x ∈ (after ops).records.map op.effect) :
          x = op.effect (contents x.rd ops) := by
        obtain ⟨y, hy, rfl⟩ := List.mem_map.mp hmem
        rw [op.rd_effect, ← ih hy]
      cases (sound_after ops).outcome op with
      | kept hknown hnext => exact hold (hnext ▸ hx)
      | entered rd hop hnew hanswer hnext =>
          rw [hnext, List.mem_append, List.mem_singleton] at hx
          rcases hx with hx | rfl
          · exact hold hx
          · rw [hop, RegistryOperation.effect, if_pos (rd_contents rd ops)]

/-- What the registry holds, in terms of its history. -/
structure Recalls (ops : List RegistryOperation) (r : Registry) : Prop where
  realms : ∀ ds, Enrols ops ds ↔ ds = r.records.map Record.rd
  nonzero : ∀ x ∈ r.records, x.rd ≠ 0
  bounded : r.records.length ≤ realmCapacity
  contents_eq : ∀ x ∈ r.records, x = contents x.rd ops
  handles : ∀ rd handle, Happened (fun before op => (after before).HandsOut rd handle op) ops ↔
    ∃ x, r.get? handle = some x ∧ r.lookup? rd = some x

theorem recalls_after (ops : List RegistryOperation) : Recalls ops (after ops) where
  realms ds := by
    constructor
    · exact fun h => h.unique (enrols_after ops)
    · rintro rfl
      exact enrols_after ops
  nonzero := (sound_after ops).nonzero
  bounded := (sound_after ops).bounded
  contents_eq _ hx := eq_contents_of_mem ops hx
  handles _ _ := (index?_after_iff ops).symm.trans (sound_after ops).index?_eq_some_iff

/-! ## What the operations answer -/

/-- The answers of a registration, and what the operations leave, in terms of the records. -/
structure Answers (r : Registry) : Prop where
  accepted_iff : ∀ rd, (∃ handle, (r.register rd).2 = .ok handle) ↔
    rd ≠ 0 ∧ ((∃ x ∈ r.records, x.rd = rd) ∨ r.records.length < realmCapacity)
  handle_eq : ∀ rd handle, (r.register rd).2 = .ok handle →
    handle = (r.records.findIdx? fun x => x.rd = rd).getD r.records.length
  restarted : ∀ rd handle, (r.register rd).2 = .ok handle →
    (r.register rd).1.get? handle = some { rd, retention := 0, phase := .idle }
  others_kept : ∀ rd handle, (r.register rd).2 = .ok handle →
    ∀ other, other ≠ handle → (r.register rd).1.get? other = r.get? other
  cause_eq : ∀ rd cause, (r.register rd).2 = .error cause →
    cause = if rd = 0 then .nullDescriptor else .capacityExceeded
  unchanged_of_refused : ∀ rd cause, (r.register rd).2 = .error cause → (r.register rd).1 = r
  revised : ∀ rd values handle, ((r.next (.revise rd values)).get? handle) =
    (r.get? handle).map fun x => if x.rd = rd then x.revised values else x

theorem Sound.answers (h : r.Sound) : r.Answers where
  accepted_iff rd := by
    rw [← mem_rds]
    cases r.registration rd with
    | restarted i hrd hplace hregister =>
        have hknown : rd ∈ r.rds := by
          by_contra hnew
          rw [index?_eq_none.mpr hnew] at hplace
          cases hplace
        simp [hregister, hrd, hknown]
    | entered hrd hnew hroom hregister =>
        have hroom : r.records.length < realmCapacity := hroom
        simp [hregister, hrd, hroom]
    | refused hrefused hregister =>
        refine iff_of_false (by simp [hregister]) ?_
        rintro ⟨hrd, hknown | hroom⟩
        · exact (hrefused.resolve_left hrd).1 hknown
        · exact absurd hroom (hrefused.resolve_left hrd).2.not_gt
  handle_eq rd handle hanswer := by
    have hfind : (r.records.findIdx? fun x => x.rd = rd) = r.index? rd := rfl
    rw [hfind]
    rcases register_of_ok hanswer with ⟨hplace, -⟩ | ⟨hnew, hsize, -⟩
    · rw [hplace, Option.getD_some]
    · rw [index?_eq_none.mpr hnew, Option.getD_none]
      exact hsize.symm
  restarted rd handle hanswer := by
    rcases register_of_ok hanswer with ⟨hplace, hregister⟩ | ⟨-, hsize, hregister⟩
    · obtain ⟨x, hget, hlookup⟩ := h.index?_eq_some_iff.mp hplace
      rw [hregister, get?_update, hget, Option.map_some, if_pos (rd_of_lookup? hlookup)]
    · rw [hregister, ← hsize]
      exact List.getElem?_concat_length
  others_kept rd handle hanswer other hother := by
    rcases register_of_ok hanswer with ⟨hplace, hregister⟩ | ⟨-, hsize, hregister⟩
    · rw [hregister, get?_update]
      cases hget : r.get? other with
      | none => rfl
      | some x =>
          -- A second place of the realm would be the one that the handle stands for.
          have hne : x.rd ≠ rd := by
            rintro rfl
            have hfound : r.lookup? x.rd = some x := h.lookup?_of_mem (List.mem_of_getElem? hget)
            have hplace' : r.index? x.rd = some other :=
              h.index?_eq_some_iff.mpr ⟨x, hget, hfound⟩
            exact hother (Option.some.inj (hplace'.symm.trans hplace))
          rw [Option.map_some, if_neg hne]
    · rw [hregister]
      rcases Nat.lt_or_gt_of_ne (hsize ▸ hother) with hlt | hgt
      · exact List.getElem?_append_left hlt
      · have hbehind : (r.records ++ [({ rd := rd } : Record)]).length ≤ other := by
          rw [List.length_append, List.length_singleton]
          exact hgt
        exact (List.getElem?_eq_none hbehind).trans
          (List.getElem?_eq_none (Nat.le_of_lt hgt)).symm
  cause_eq _ _ hanswer := (register_of_error hanswer).2
  unchanged_of_refused _ _ hanswer := (register_of_error hanswer).1
  revised rd values handle := r.get?_update rd _ handle

/-- After any operations the registry holds the realms that were taken in, in the order in which
that happened first, each with what its own operations have left, and the next operation answers
accordingly. -/
theorem refines_ordered_map (ops : List RegistryOperation) :
    Recalls ops (after ops) ∧ (after ops).Answers :=
  ⟨recalls_after ops, (sound_after ops).answers⟩

/-- Realm 1 keeps its place when it starts over, and nothing is left of its retention. -/
example :
    (after [.register 1, .register 2, .revise 1 fun _ => (60, .awaitingDestruction 7), .register 0,
      .revise 2 fun x => (x.retention + 5, x.phase), .register 1]).records =
        [⟨1, 0, .idle⟩, ⟨2, 5, .idle⟩] := by decide

end Registry

end RealmDispatch
