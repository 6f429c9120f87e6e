import RealmDispatch.Dispatch.Forward

/-!
# What is written to saved registers

Values are always written from `x0` upwards, and the registers beyond them keep what they
held. A call takes up to eight registers to the realm world, with a hint that may be added
to the first of them; its answer takes five back. Three relations between the registers
before and after say how much of them was written: for a completed call, for a command that was
handed over, and for a context of a core that trapped.
-/
namespace RealmDispatch

/-! ## Written from the first register on -/

theorem GeneralRegisters.load_of_lt (r : GeneralRegisters) {values : List UInt64}
    {i : Nat} (hi : i < generalCount) (hlt : i < values.length) :
    (r.load values).values[i] = values[i] := by
  simp [load, hlt]

theorem GeneralRegisters.load_of_le (r : GeneralRegisters) {values : List UInt64}
    {i : Nat} (hi : i < generalCount) (hle : values.length ≤ i) :
    (r.load values).values[i] = r.values[i] := by
  simp [load, hle, Vector.get]

theorem GeneralRegisters.toList_load (r : GeneralRegisters) {values : List UInt64}
    (h : values.length ≤ generalCount) :
    (r.load values).values.toList = values ++ r.values.toList.drop values.length := by
  apply List.ext_getElem
  · simp only [Vector.length_toList, List.length_append, List.length_drop]
    omega
  · intro i hi hi'
    have hroom : i < generalCount := by simpa using hi
    rw [Vector.getElem_toList]
    by_cases hvalue : i < values.length
    · rw [load_of_lt r hroom hvalue, List.getElem_append_left hvalue]
    · have hkept := Nat.not_lt.mp hvalue
      rw [load_of_le r hroom hkept, List.getElem_append_right hkept]
      simp [Nat.add_sub_cancel' hkept]

/-- The answer starts with the second register of the completion. -/
theorem hostAnswer_getElem (args : Arguments) (i : Fin 5)
    (h : i.val < (hostAnswer args).length) : (hostAnswer args)[i.val] = args[i.val + 1] := by
  obtain ⟨_ | _ | _ | _ | _ | i, hi⟩ := i
  · rfl
  · rfl
  · rfl
  · rfl
  · rfl
  · omega

section Hinted
variable (args : Arguments) (sveHint : Bool)

theorem hinted_x0 :
    (hinted args sveHint).x0 = if sveHint then args.x0 ||| sveHintBit else args.x0 := by
  cases sveHint with
  | false => rfl
  | true => exact Vector.getElem_set_self _

/-- The hint concerns only the first register. -/
theorem hinted_of_ne {i : Fin 8} (hi : i ≠ 0) : (hinted args sveHint)[i] = args[i] := by
  cases sveHint with
  | false => rfl
  | true =>
      have hne : 0 ≠ i.val := fun h => hi (Fin.ext h.symm)
      exact Vector.getElem_set_ne (by decide) i.isLt hne

end Hinted

/-! ## Relations between saved registers -/

/-- What is left of a call on `c` once it was completed with `args`. It was forwarded
`before` and completed `during` the stay in the realm world. -/
structure RoundTrip (c : Core) (origin : Origin) (args : Arguments)
    (before during after : Machine) : Prop where
  inFlight : (after.cpu c).inFlight = none
  next : (after.cpu c).next = some .nonSecure
  live : after.live = before.live
  realm : (after.context c .realm).system = during.live
  elr : (after.context c .nonSecure).elr = (before.context c .nonSecure).elr
  spsr : (after.context c .nonSecure).spsr = (before.context c .nonSecure).spsr
  answered : origin = .host → ∀ i : Fin 5,
    (after.context c .nonSecure).general.values[i.val] = args[i.val + 1]
  kept : ∀ i : Fin generalCount, origin = .timer ∨ 5 ≤ i.val →
    (after.context c .nonSecure).general.values[i] =
      (before.context c .nonSecure).general.values[i]

/-- The realm manager finds a command of the host in its first registers, with the hint added
to it, and the command is in flight as the host made it. -/
structure HandedOver (before after : Machine) (c : Core) (args : Arguments) (sveHint : Bool) :
    Prop where
  inFlight : (after.cpu c).inFlight = some ⟨args.x0.toUInt32, args, .host⟩
  command : (after.context c .realm).general.values[0] =
    if sveHint then args.x0 ||| sveHintBit else args.x0
  arguments : ∀ i : Fin 8, i ≠ 0 →
    (after.context c .realm).general.values[i.val] = args[i]
  kept : ∀ i : Fin generalCount, 8 ≤ i.val →
    (after.context c .realm).general.values[i] = (before.context c .realm).general.values[i]

/-- Of a context only the general registers below the given number are written, and the system
registers only if `system` says so. -/
structure Context.KeptBut (before after : Context) (registers : Nat) (system : Bool) :
    Prop where
  elr : after.elr = before.elr
  spsr : after.spsr = before.spsr
  general : ∀ i : Fin generalCount, registers ≤ i.val →
    after.general.values[i] = before.general.values[i]
  system : system = false → after.system = before.system

namespace Context.KeptBut
variable {registers : Nat} {system : Bool}

theorem refl (ctx : Context) : ctx.KeptBut ctx registers system :=
  ⟨rfl, rfl, fun _ _ => rfl, fun _ => rfl⟩

theorem mono {before after : Context} (h : before.KeptBut after registers system) {bound : Nat}
    (hbound : registers ≤ bound) : before.KeptBut after bound true where
  elr := h.elr
  spsr := h.spsr
  general := fun i hi => h.general i (Nat.le_trans hbound hi)
  system := fun htrue => nomatch htrue

theorem load (ctx : Context) {values : List UInt64} (h : values.length ≤ registers) :
    ctx.KeptBut { ctx with general := ctx.general.load values } registers system where
  elr := rfl
  spsr := rfl
  general := fun i hi => GeneralRegisters.load_of_le _ i.isLt (Nat.le_trans h hi)
  system := fun _ => rfl

theorem saved (ctx : Context) (live : SystemRegisters) :
    ctx.KeptBut { ctx with system := live } registers true where
  elr := rfl
  spsr := rfl
  general := fun _ _ => rfl
  system := fun h => nomatch h

end Context.KeptBut

end RealmDispatch
