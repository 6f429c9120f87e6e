import Mathlib.Data.Fintype.Basic

/-!
# What has happened last

What a state owes to its past is a matter of what has happened last. `Since P Q xs` says
that something in the list satisfies `P`, and that nothing behind it satisfies `Q`. Both are
told what came before. So is the function of `gathered`, which puts together what the elements
of the list contribute.
-/
namespace RealmDispatch

/-- Somewhere in the list there is a `P`, and behind it there is no `Q`. -/
def Since {α : Type} (P Q : List α → α → Prop) (xs : List α) : Prop :=
  ∃ i : Fin xs.length, P (xs.take i) xs[i] ∧
    ∀ j : Fin xs.length, i < j → ¬ Q (xs.take j) xs[j]

section Since
variable {α : Type} {P Q : List α → α → Prop} {xs : List α} {x : α}

instance [∀ before x, Decidable (P before x)] [∀ before x, Decidable (Q before x)] :
    Decidable (Since P Q xs) :=
  inferInstanceAs (Decidable (∃ i : Fin xs.length, _ ∧ ∀ j : Fin xs.length, i < j → ¬ _))

theorem not_since_nil : ¬ Since P Q [] := fun h => h.choose.elim0

theorem since_snoc : Since P Q (xs ++ [x]) ↔ P xs x ∨ Since P Q xs ∧ ¬ Q xs x := by
  have hlength : (xs ++ [x]).length = xs.length + 1 := List.length_append
  have hbefore (i : Nat) (hi : i ≤ xs.length) : (xs ++ [x]).take i = xs.take i :=
    List.take_append_of_le_length hi
  have hearlier (i : Nat) (hi : i < xs.length) : (xs ++ [x])[i] = xs[i] :=
    List.getElem_append_left hi
  have hall : (xs ++ [x]).take xs.length = xs := by
    rw [hbefore _ le_rfl, List.take_length]
  have hlast : (xs ++ [x])[xs.length] = x := List.getElem_concat_length rfl _
  constructor
  · intro h
    obtain ⟨i, hP, hQ⟩ := h
    by_cases hi : i.val < xs.length
    · right
      constructor
      · refine ⟨⟨i, hi⟩, ?_, ?_⟩
        · simpa [hbefore i hi.le, hearlier i hi] using hP
        · intro j hj
          have hj' := hQ ⟨j, by omega⟩ hj
          simpa [hbefore j j.isLt.le, hearlier j j.isLt] using hj'
      · have hend := hQ ⟨xs.length, by omega⟩ hi
        simpa [hall, hlast] using hend
    · left
      have hend : i.val = xs.length := by omega
      simpa [hend, hall] using hP
  · intro h
    rcases h with hP | ⟨⟨i, hP, hQ⟩, hlater⟩
    · refine ⟨⟨xs.length, by omega⟩, ?_, ?_⟩
      · simpa [hall, hlast] using hP
      · intro j hj
        have hlt : xs.length < j.val := hj
        omega
    · refine ⟨⟨i, by omega⟩, ?_, ?_⟩
      · simpa [hbefore i i.isLt.le, hearlier i i.isLt] using hP
      · intro j hj
        by_cases hend : j.val < xs.length
        · have hj' := hQ ⟨j, hend⟩ hj
          simpa [hbefore j hend.le, hearlier j hend] using hj'
        · have hend : j.val = xs.length := by omega
          simpa [hend, hall] using hlater

/-- Somewhere in the list there is a `P`. -/
def Happened {α : Type} (P : List α → α → Prop) (xs : List α) : Prop :=
  Since P (fun _ _ => False) xs

instance [∀ before x, Decidable (P before x)] : Decidable (Happened P xs) :=
  inferInstanceAs (Decidable (Since ..))

theorem not_happened_nil : ¬ Happened P [] := not_since_nil

theorem happened_snoc : Happened P (xs ++ [x]) ↔ Happened P xs ∨ P xs x := by
  unfold Happened
  rw [since_snoc, not_false_eq_true, and_true]
  exact Or.comm

/-- Two things that rule each other out cannot both be the last. -/
theorem Since.meet {P' Q' : List α → α → Prop} (h : Since P Q xs) (h' : Since P' Q' xs)
    (hP : ∀ before x, P before x → Q' before x) (hP' : ∀ before x, P' before x → Q before x) :
    ∃ before x, P before x ∧ P' before x := by
  obtain ⟨i, hi, hlater⟩ := h
  obtain ⟨i', hi', hlater'⟩ := h'
  rcases lt_trichotomy i i' with hlt | rfl | hlt
  · exact absurd (hP' _ _ hi') (hlater i' hlt)
  · exact ⟨_, _, hi, hi'⟩
  · exact absurd (hP _ _ hi) (hlater' i hlt)

theorem since_snoc_of_not (hP : ¬ P xs x) (hQ : ¬ Q xs x) :
    Since P Q (xs ++ [x]) ↔ Since P Q xs := by
  rw [since_snoc, or_iff_right hP, and_iff_left hQ]

/-- Behind the last `P'` there is no `P` either, or else that would be the last of the two. -/
theorem Since.resolve_left {P' : List α → α → Prop}
    (h : Since (fun before x => P before x ∨ P' before x) Q xs) (hP : ¬ Since P Q xs) :
    Since P' (fun before x => P before x ∨ Q before x) xs := by
  induction xs using List.reverseRecOn with
  | nil => exact absurd h not_since_nil
  | append_singleton xs x ih =>
      rw [since_snoc, not_or] at hP
      rcases since_snoc.mp h with (hx | hx) | ⟨hsince, hQ⟩
      · exact absurd hx hP.1
      · exact since_snoc.mpr (Or.inl hx)
      · have hearlier : ¬ Since P Q xs := fun hsinceP => hP.2 ⟨hsinceP, hQ⟩
        exact since_snoc.mpr (Or.inr ⟨ih hsince hearlier, not_or.mpr ⟨hP.1, hQ⟩⟩)

/-- What nothing but a `Q` changes is now as it was when the last `P` happened. -/
theorem since_and_iff {R : List α → Prop} (hP : ∀ before x, P before x → ¬ Q before x)
    (hR : ∀ before x, ¬ Q before x → (R (before ++ [x]) ↔ R before)) :
    Since (fun before x => P before x ∧ R before) Q xs ↔ Since P Q xs ∧ R xs := by
  induction xs using List.reverseRecOn with
  | nil => exact iff_of_false not_since_nil fun h => not_since_nil h.1
  | append_singleton xs x ih =>
      rw [since_snoc, since_snoc, ih]
      by_cases hQ : Q xs x
      · have hnot : ¬ P xs x := fun hx => hP xs x hx hQ
        simp [hQ, hnot]
      · rw [hR xs x hQ]
        simp [hQ, or_and_right]

/-- The last `P` of the list stands before its last `Q`. -/
def LastBefore (P Q : List α → α → Prop) (xs : List α) : Prop :=
  Since (fun before x => Q before x ∧ Happened P before) (fun before x => P before x ∨ Q before x)
    xs

theorem lastBefore_of_last (hQ : Q xs x) (hP : Happened P xs) : LastBefore P Q (xs ++ [x]) :=
  since_snoc.mpr (Or.inl ⟨hQ, hP⟩)

theorem LastBefore.snoc (h : LastBefore P Q xs) (hP : ¬ P xs x) (hQ : ¬ Q xs x) :
    LastBefore P Q (xs ++ [x]) :=
  since_snoc.mpr (Or.inr ⟨h, not_or.mpr ⟨hP, hQ⟩⟩)

/-- Where neither comes before the other, the two happen together. -/
theorem LastBefore.meet (h : LastBefore P Q xs) (h' : LastBefore Q P xs) :
    ∃ before x, P before x ∧ Q before x := by
  have hswap : Since (fun before x => P before x ∧ Happened Q before)
      (fun before x => P before x ∨ Q before x) xs := by
    simpa only [LastBefore, Or.comm] using h'
  obtain ⟨before, x, hQ, hP⟩ := Since.meet h hswap (fun _ _ hx => Or.inr hx.1)
    (fun _ _ hx => Or.inl hx.1)
  exact ⟨before, x, hP.1, hQ.1⟩

theorem happened_exists {β : Type} {R : β → List α → α → Prop} :
    Happened (fun before x => ∃ b, R b before x) xs ↔ ∃ b, Happened (R b) xs := by
  constructor
  · rintro ⟨i, ⟨b, hb⟩, hlater⟩
    exact ⟨b, i, hb, hlater⟩
  · rintro ⟨b, i, hb, hlater⟩
    exact ⟨i, ⟨b, hb⟩, hlater⟩

theorem Happened.imp {P' : List α → α → Prop} (h : Happened P xs)
    (hP : ∀ before x, P before x → P' before x) : Happened P' xs :=
  Exists.imp (fun _ hi => ⟨hP _ _ hi.1, hi.2⟩) h

/-- The first `P` of the list stands before its first `Q`, if it has a `Q` at all. -/
def FirstBefore (P Q : List α → α → Prop) (xs : List α) : Prop :=
  Happened (fun before x => P before x ∧ ¬ Happened Q before) xs

theorem FirstBefore.snoc (h : FirstBefore P Q xs) : FirstBefore P Q (xs ++ [x]) :=
  happened_snoc.mpr (Or.inl h)

theorem firstBefore_of_not_happened (hP : Happened P xs) (hQ : ¬ Happened Q xs) :
    FirstBefore P Q xs := by
  induction xs using List.reverseRecOn with
  | nil => exact absurd hP not_happened_nil
  | append_singleton xs x ih =>
      have hQ' : ¬ Happened Q xs := fun h => hQ (happened_snoc.mpr (Or.inl h))
      rcases happened_snoc.mp hP with hP | hP
      · exact (ih hP hQ').snoc
      · exact happened_snoc.mpr (Or.inr ⟨hP, hQ'⟩)

/-- Where neither comes before the other, the two happen together. -/
theorem FirstBefore.meet (h : FirstBefore P Q xs) (h' : FirstBefore Q P xs) :
    ∃ before x, P before x ∧ Q before x := by
  induction xs using List.reverseRecOn with
  | nil => exact absurd h not_happened_nil
  | append_singleton xs x ih =>
      rcases happened_snoc.mp h with hearlier | ⟨hP, hnoQ⟩
      · rcases happened_snoc.mp h' with hearlier' | ⟨hQ, hnoP⟩
        · exact ih hearlier hearlier'
        · exact absurd (hearlier.imp fun _ _ hi => hi.1) hnoP
      · rcases happened_snoc.mp h' with hearlier' | ⟨hQ, hnoP⟩
        · exact absurd (hearlier'.imp fun _ _ hi => hi.1) hnoQ
        · exact ⟨xs, x, hP, hQ⟩

end Since

section gathered
variable {α β : Type} {f : List α → α → List β}

/-- What the elements of a list contribute, one after the other, behind `before`. -/
def gathered (f : List α → α → List β) (before : List α) : List α → List β
  | [] => []
  | x :: xs => f before x ++ gathered f (before ++ [x]) xs

theorem gathered_snoc (before xs : List α) (x : α) :
    gathered f before (xs ++ [x]) = gathered f before xs ++ f (before ++ xs) x := by
  induction xs generalizing before with
  | nil => simp [gathered]
  | cons y ys ih => simp [gathered, ih]

end gathered

end RealmDispatch
