import RealmDispatch.Console
import RealmDispatch.Proofs.Histories

/-!
# Where a console writes to

Devices are plugged in, attached and written to in any order, and between any two operations a
device may come to answer otherwise: it may fail or work again, and it may lose its
initialisation or get it from elsewhere. The devices considered here take a write as a whole or
not at all; one that takes a part of it has a module of its own.

Whatever happens, the console writes to the device that was attached last, and to no other. What
a device has taken is what was written successfully while it was that device. An attachment
initialises the device if and only if it is not initialised, and when that fails everything
stays as it was.
-/
namespace RealmDispatch

/-- How a device answers from now on. -/
structure Manner where
  initialised : Bool := false
  initFault : Option ConsoleFault := none
  writeFault : Option ConsoleFault := none
deriving DecidableEq, Repr

def Device.behaving (d : Device) (m : Manner) : Device :=
  { d with initialised := m.initialised, initFault := m.initFault, writeFault := m.writeFault }

/-- What happens at a console and to the devices behind it. -/
inductive ConsoleEvent where
  | plug (m : Manner)
  | turn (id : Nat) (m : Manner)
  | attach (id : Nat)
  | write (bytes : List UInt8)
  | writeText (text : String)
deriving DecidableEq, Repr

/-! ## Devices that take all or nothing -/

namespace Device
variable {d : Device}

theorem write_of_fault {fault : ConsoleFault} (h : d.writeFault = some fault)
    (bytes : List UInt8) : d.write bytes = (d, .error fault) := by simp [write, h]

theorem write_of_unlimited (h : d.writeFault = none) (hroom : d.capacity = none)
    (bytes : List UInt8) : d.write bytes = ({ d with bytes := d.bytes ++ bytes }, .ok ()) := by
  simp [write, h, hroom]

@[simp] theorem bytes_behaving (d : Device) (m : Manner) : (d.behaving m).bytes = d.bytes := rfl

@[simp] theorem capacity_behaving (d : Device) (m : Manner) :
    (d.behaving m).capacity = d.capacity := rfl

@[simp] theorem initialisations_behaving (d : Device) (m : Manner) :
    (d.behaving m).initialisations = d.initialisations := rfl

theorem bytes_initialise (d : Device) : d.initialise.1.bytes = d.bytes := by
  unfold initialise
  cases d.initFault <;> rfl

theorem capacity_initialise (d : Device) : d.initialise.1.capacity = d.capacity := by
  unfold initialise
  cases d.initFault <;> rfl

theorem initialisations_initialise (d : Device) :
    d.initialise.1.initialisations = d.initialisations + 1 := by
  unfold initialise
  cases d.initFault <;> rfl

/-- A write changes nothing but the bytes. -/
theorem write_fst_eq (d : Device) (bytes : List UInt8) :
    (d.write bytes).1 = { d with bytes := (d.write bytes).1.bytes } := by
  rcases Option.eq_none_or_eq_some d.writeFault with hfault | ⟨fault, hfault⟩
  · rcases Option.eq_none_or_eq_some d.capacity with hroom | ⟨room, hroom⟩
    · rw [write_of_unlimited hfault hroom]
    · simp only [write, hfault, hroom]
      split_ifs <;> rw [← hfault, ← hroom]
  · rw [write_of_fault hfault]

theorem capacity_write (d : Device) (bytes : List UInt8) :
    (d.write bytes).1.capacity = d.capacity := by rw [write_fst_eq]

theorem initialisations_write (d : Device) (bytes : List UInt8) :
    (d.write bytes).1.initialisations = d.initialisations := by rw [write_fst_eq]

end Device

namespace Console
variable {c : Console} {d : Device} {id other : Nat} {e : ConsoleEvent} {es : List ConsoleEvent}

/-- Changes one device, if there is one of that name. -/
def alter (c : Console) (id : Nat) (f : Device → Device) : Console :=
  (c.device? id).elim c fun d => c.setDevice id (f d)

theorem device?_alter (c : Console) (id other : Nat) (f : Device → Device) :
    (c.alter id f).device? other =
      (c.device? other).map fun d => if id = other then f d else d := by
  unfold alter
  cases h : c.device? id with
  | none =>
      by_cases hid : id = other
      · simp [← hid, h]
      · simp [hid]
  | some d =>
      have hlt : id < c.devices.length := (List.getElem?_eq_some_iff.mp h).choose
      have hset : (c.setDevice id (f d)).device? other =
          if id = other then some (f d) else c.device? other := by
        unfold setDevice device?
        rw [List.getElem?_set, if_pos hlt]
      rw [Option.elim_some, hset]
      by_cases hid : id = other
      · simp [← hid, h]
      · simp [hid]

def next (c : Console) : ConsoleEvent → Console
  | .plug m => c.plug (({} : Device).behaving m)
  | .turn id m => c.alter id fun d => d.behaving m
  | .attach id => (c.attach id).1
  | .write bytes => (c.write bytes).1
  | .writeText text => (c.writeText text).1

/-- The console after the events, which began with no device. -/
def after (es : List ConsoleEvent) : Console := es.foldl next {}

theorem after_snoc (es : List ConsoleEvent) (e : ConsoleEvent) :
    after (es ++ [e]) = (after es).next e := by simp [after]

/-! ## Histories -/

/-- The device that an event attaches successfully. -/
def attaches (c : Console) : ConsoleEvent → List Nat
  | .attach id => if (c.attach id).2 = .ok () then [id] else []
  | _ => []

/-- The bytes that an event writes successfully. -/
def delivers (c : Console) : ConsoleEvent → List UInt8
  | .write bytes => if (c.write bytes).2 = .ok () then bytes else []
  | .writeText text => if (c.writeText text).2 then text.toUTF8.toList else []
  | _ => []

/-- The devices that were attached successfully, the latest one last. -/
def attachments (es : List ConsoleEvent) : List Nat :=
  gathered (fun before e => (after before).attaches e) [] es

/-- What was written successfully while the device was the one attached last. -/
def writtenTo (id : Nat) (es : List ConsoleEvent) : List UInt8 :=
  gathered (fun before e =>
    if (attachments before).getLast? = some id then (after before).delivers e else []) [] es

theorem attachments_snoc (es : List ConsoleEvent) (e : ConsoleEvent) :
    attachments (es ++ [e]) = attachments es ++ (after es).attaches e := gathered_snoc [] es e

theorem writtenTo_snoc (id : Nat) (es : List ConsoleEvent) (e : ConsoleEvent) :
    writtenTo id (es ++ [e]) = writtenTo id es ++
      if (attachments es).getLast? = some id then (after es).delivers e else [] :=
  gathered_snoc [] es e

/-! ## Operations -/

theorem attach_of_missing (h : c.device? id = none) :
    c.attach id = (c, .error .notConnected) := by simp [attach, h]

theorem attach_of_initialised (h : c.device? id = some d) (hinit : d.initialised = true) :
    c.attach id = ({ c with attached := some id }, .ok ()) := by simp [attach, h, hinit]

theorem attach_of_uninitialised (h : c.device? id = some d) (hinit : d.initialised = false) :
    c.attach id =
      ({ c.alter id (fun d => d.initialise.1) with
          attached := if d.initialise.2 = .ok () then some id else c.attached },
        d.initialise.2) := by
  rcases hresult : d.initialise with ⟨d', fault | ⟨⟩⟩ <;>
    simp [attach, alter, h, hinit, hresult, setDevice]

theorem device?_attach (c : Console) (id other : Nat) :
    (c.attach id).1.device? other = (c.device? other).map fun d =>
      if id = other ∧ d.initialised = false then d.initialise.1 else d := by
  cases h : c.device? id with
  | none =>
      rw [attach_of_missing h]
      by_cases hid : id = other
      · simp [← hid, h]
      · simp [hid]
  | some d =>
      cases hinit : d.initialised with
      | true =>
          rw [attach_of_initialised h hinit]
          change c.device? other = _
          by_cases hid : id = other
          · simp [← hid, h, hinit]
          · simp [hid]
      | false =>
          rw [attach_of_uninitialised h hinit]
          refine (c.device?_alter id other _).trans ?_
          by_cases hid : id = other
          · simp [← hid, h, hinit]
          · simp [hid]

theorem write_of_detached (h : c.attached = none) (bytes : List UInt8) :
    c.write bytes = (c, .error .notConnected) := by simp [write, h]

theorem write_of_attached (hid : c.attached = some id) (h : c.device? id = some d)
    (bytes : List UInt8) :
    c.write bytes = (c.alter id fun d => (d.write bytes).1, (d.write bytes).2) := by
  simp [write, alter, hid, h]

theorem device?_write (c : Console) (bytes : List UInt8) (other : Nat) :
    (c.write bytes).1.device? other = (c.device? other).map fun d =>
      if c.attached = some other then (d.write bytes).1 else d := by
  cases hid : c.attached with
  | none => simp [write_of_detached hid]
  | some id =>
      simp only [Option.some.injEq]
      rw [← device?_alter]
      cases h : c.device? id with
      | none => simp [write, alter, hid, h]
      | some d => rw [write_of_attached hid h]

theorem device?_plug (c : Console) (d : Device) (id : Nat) :
    (c.plug d).device? id = (c.device? id).or (if id = c.devices.length then some d else none) := by
  unfold plug device?
  rcases lt_trichotomy id c.devices.length with hlt | rfl | hgt
  · simp [List.getElem?_append_left hlt, hlt]
  · simp
  · have hbehind : (c.devices ++ [d]).length ≤ id := by
      rw [List.length_append, List.length_singleton]
      exact hgt
    rw [List.getElem?_eq_none hbehind, List.getElem?_eq_none hgt.le, if_neg hgt.ne', Option.or_none]

theorem attached_alter (c : Console) (id : Nat) (f : Device → Device) :
    (c.alter id f).attached = c.attached := by
  unfold alter
  cases c.device? id <;> rfl

theorem attached_attach (c : Console) (id : Nat) :
    (c.attach id).1.attached = if (c.attach id).2 = .ok () then some id else c.attached := by
  cases h : c.device? id with
  | none => simp [attach_of_missing h]
  | some d =>
      cases hinit : d.initialised with
      | true => simp [attach_of_initialised h hinit]
      | false => simp [attach_of_uninitialised h hinit]

theorem attached_write (c : Console) (bytes : List UInt8) :
    (c.write bytes).1.attached = c.attached := by
  cases hid : c.attached with
  | none => rw [write_of_detached hid, hid]
  | some id =>
      cases h : c.device? id with
      | none => simp [write, hid, h]
      | some d => rw [write_of_attached hid h, attached_alter, hid]

theorem writeText_eq_true_iff (c : Console) (text : String) :
    (c.writeText text).2 = true ↔ (c.write text.toUTF8.toList).2 = .ok () := by
  have hanswer : (c.writeText text).2 = (c.write text.toUTF8.toList).2.isOk := rfl
  rw [hanswer]
  cases (c.write text.toUTF8.toList).2 <;> simp [Except.isOk, Except.toBool]

theorem delivers_writeText (c : Console) (text : String) :
    c.delivers (.writeText text) = c.delivers (.write text.toUTF8.toList) := by
  simp only [delivers, writeText_eq_true_iff]

/-! ## One event -/

/-- What an event makes of a device. -/
def treats (c : Console) (e : ConsoleEvent) (id : Nat) (d : Device) : Device :=
  match e with
  | .plug _ => d
  | .turn other m => if other = id then d.behaving m else d
  | .attach other => if other = id ∧ d.initialised = false then d.initialise.1 else d
  | .write bytes => if c.attached = some id then (d.write bytes).1 else d
  | .writeText text => if c.attached = some id then (d.write text.toUTF8.toList).1 else d

/-- The device that an event adds, if that is its name. -/
def adds (c : Console) (e : ConsoleEvent) (id : Nat) : Option Device :=
  match e with
  | .plug m => if id = c.devices.length then some (({} : Device).behaving m) else none
  | _ => none

/-- A device that was added has not been used. -/
theorem exists_of_adds (h : c.adds e id = some d) : ∃ m, ({} : Device).behaving m = d := by
  cases e with
  | plug m => exact ⟨m, Option.some.inj (Option.ite_none_right_eq_some.mp h).2⟩
  | turn other m => cases h
  | attach other => cases h
  | write bytes => cases h
  | writeText text => cases h

theorem device?_next (c : Console) (e : ConsoleEvent) (id : Nat) :
    (c.next e).device? id = ((c.device? id).map (c.treats e id)).or (c.adds e id) := by
  cases e with
  | plug m =>
      have hsame : (c.device? id).map (c.treats (.plug m) id) = c.device? id := Option.map_id'
      rw [hsame]
      exact c.device?_plug _ id
  | turn other m => exact (c.device?_alter other id _).trans (Option.or_none).symm
  | attach other => exact (c.device?_attach other id).trans (Option.or_none).symm
  | write bytes => exact (c.device?_write bytes id).trans (Option.or_none).symm
  | writeText text => exact (c.device?_write text.toUTF8.toList id).trans (Option.or_none).symm

theorem device?_next_of_some (h : c.device? id = some d) (e : ConsoleEvent) :
    (c.next e).device? id = some (c.treats e id d) := by
  rw [device?_next, h]
  rfl

theorem attached_next (c : Console) (e : ConsoleEvent) :
    (c.next e).attached = (c.attaches e).getLast?.or c.attached := by
  cases e with
  | plug m => rfl
  | turn id m => exact c.attached_alter id _
  | attach id =>
      refine (c.attached_attach id).trans ?_
      rw [attaches]
      split_ifs <;> rfl
  | write bytes => exact c.attached_write bytes
  | writeText text => exact c.attached_write text.toUTF8.toList

theorem capacity_treats (c : Console) (e : ConsoleEvent) (id : Nat) (d : Device) :
    (c.treats e id d).capacity = d.capacity := by
  cases e with
  | plug m => rfl
  | turn other m => simp [treats, apply_ite]
  | attach other => simp [treats, apply_ite, d.capacity_initialise]
  | write bytes => simp [treats, apply_ite, d.capacity_write]
  | writeText text => simp [treats, apply_ite, d.capacity_write]

theorem initialisations_treats (c : Console) (e : ConsoleEvent) (id : Nat) (d : Device) :
    (c.treats e id d).initialisations = d.initialisations +
      if e = .attach id ∧ d.initialised = false then 1 else 0 := by
  cases e with
  | plug m => rfl
  | turn other m => simp [treats, apply_ite]
  | attach other => simp [treats, apply_ite, d.initialisations_initialise]
  | write bytes => simp [treats, apply_ite, d.initialisations_write]
  | writeText text => simp [treats, apply_ite, d.initialisations_write]

/-- Devices that take all or nothing, and an attached one that is among them. -/
structure Sound (c : Console) : Prop where
  unlimited : ∀ id d, c.device? id = some d → d.capacity = none
  attached : ∀ id, c.attached = some id → ∃ d, c.device? id = some d

theorem sound_empty : ({} : Console).Sound :=
  ⟨fun _ _ h => absurd h (by simp [device?]), fun _ h => absurd h (Option.some_ne_none _).symm⟩

theorem exists_of_attaches (h : (c.attach id).2 = .ok ()) : ∃ d, c.device? id = some d := by
  refine Option.ne_none_iff_exists'.mp fun hnone => ?_
  rw [attach_of_missing hnone] at h
  cases h

theorem Sound.next (h : c.Sound) (e : ConsoleEvent) : (c.next e).Sound where
  unlimited id d hd := by
    rw [device?_next] at hd
    cases hold : c.device? id with
    | some d₀ =>
        rw [hold] at hd
        cases hd
        rw [capacity_treats, h.unlimited id d₀ hold]
    | none =>
        rw [hold] at hd
        obtain ⟨m, rfl⟩ := exists_of_adds hd
        rfl
  attached id hid := by
    have hold : ∃ d, c.device? id = some d := by
      rw [attached_next] at hid
      cases e with
      | attach other =>
          rw [attaches] at hid
          split_ifs at hid with hok
          · cases hid
            exact exists_of_attaches hok
          · exact h.attached id hid
      | plug m => exact h.attached id hid
      | turn other m => exact h.attached id hid
      | write bytes => exact h.attached id hid
      | writeText text => exact h.attached id hid
    obtain ⟨d, hd⟩ := hold
    exact ⟨_, device?_next_of_some hd e⟩

/-- A write reaches the attached device alone, and as a whole or not at all. -/
theorem Sound.bytes_written (h : c.Sound) (hd : c.device? id = some d) (bytes : List UInt8) :
    (c.treats (.write bytes) id d).bytes =
      d.bytes ++ if c.attached = some id then c.delivers (.write bytes) else [] := by
  rw [treats, delivers]
  by_cases hid : c.attached = some id
  · rw [write_of_attached hid hd, if_pos hid, if_pos hid]
    cases hfault : d.writeFault with
    | some fault => simp [Device.write_of_fault hfault]
    | none => simp [Device.write_of_unlimited hfault (h.unlimited id d hd)]
  · rw [if_neg hid, if_neg hid, List.append_nil]

theorem Sound.bytes_treats (h : c.Sound) (hd : c.device? id = some d) (e : ConsoleEvent) :
    (c.treats e id d).bytes = d.bytes ++ if c.attached = some id then c.delivers e else [] := by
  cases e with
  | plug m => simp [treats, delivers]
  | turn other m => simp [treats, delivers, apply_ite]
  | attach other => simp [treats, delivers, apply_ite, d.bytes_initialise]
  | write bytes => exact h.bytes_written hd bytes
  | writeText text =>
      rw [delivers_writeText]
      exact h.bytes_written hd text.toUTF8.toList

/-- What the device has taken; nothing if there is no such device. -/
def taken (c : Console) (id : Nat) : List UInt8 := (c.device? id).elim [] Device.bytes

theorem Sound.taken_next (h : c.Sound) (e : ConsoleEvent) (id : Nat) :
    (c.next e).taken id = c.taken id ++ if c.attached = some id then c.delivers e else [] := by
  unfold taken
  cases hd : c.device? id with
  | some d =>
      rw [device?_next_of_some hd]
      exact h.bytes_treats hd e
  | none =>
      have hid : c.attached ≠ some id := by
        intro hid
        obtain ⟨d, hd'⟩ := h.attached id hid
        rw [hd] at hd'
        cases hd'
      rw [device?_next, hd, if_neg hid, Option.map_none, Option.none_or]
      cases hnew : c.adds e id with
      | none => rfl
      | some d =>
          obtain ⟨m, rfl⟩ := exists_of_adds hnew
          rfl

/-! ## All events -/

theorem sound_after (es : List ConsoleEvent) : (after es).Sound := by
  induction es using List.reverseRecOn with
  | nil => exact sound_empty
  | append_singleton es e ih =>
      rw [after_snoc]
      exact ih.next e

/-- The attached device is the one that was attached last. -/
theorem attached_after (es : List ConsoleEvent) :
    (after es).attached = (attachments es).getLast? := by
  induction es using List.reverseRecOn with
  | nil => rfl
  | append_singleton es e ih =>
      rw [after_snoc, attached_next, attachments_snoc, List.getLast?_append, ih]

theorem taken_after (es : List ConsoleEvent) (id : Nat) :
    (after es).taken id = writtenTo id es := by
  induction es using List.reverseRecOn with
  | nil => rfl
  | append_singleton es e ih =>
      rw [after_snoc, (sound_after es).taken_next, writtenTo_snoc, attached_after, ih]

/-- Where a console writes to, in terms of what has happened at it. -/
structure Routes (es : List ConsoleEvent) (c : Console) : Prop where
  attached_eq : c.attached = (attachments es).getLast?
  bytes_eq : ∀ id d, c.device? id = some d → d.bytes = writtenTo id es
  others_kept : ∀ id, (attachments es).getLast? ≠ some id →
    ∀ bytes, (c.write bytes).1.device? id = c.device? id
  refused : attachments es = [] → ∀ bytes, (c.write bytes).2 = .error .notConnected
  answer_eq : ∀ id, (attachments es).getLast? = some id →
    ∃ d, c.device? id = some d ∧ ∀ bytes, (c.write bytes).2 = (d.write bytes).2
  text_written : ∀ text, (c.writeText text).1 = (c.write text.toUTF8.toList).1
  text_fails_iff : ∀ text, (c.writeText text).2 = false ↔
    ∃ fault, (c.write text.toUTF8.toList).2 = .error fault
  whole : ∀ id d, c.device? id = some d → ∀ bytes,
    d.write bytes = ({ d with bytes := d.bytes ++ bytes }, .ok ()) ∨
      ∃ fault, d.write bytes = (d, .error fault)

theorem routes_after (es : List ConsoleEvent) : Routes es (after es) where
  attached_eq := attached_after es
  bytes_eq id d hd := by
    rw [← taken_after, taken, hd]
    rfl
  others_kept id hid bytes := by
    rw [device?_write, attached_after]
    simp only [if_neg hid]
    exact Option.map_id'
  refused hnone bytes := by
    have hdetached : (after es).attached = none := by rw [attached_after, hnone]; rfl
    rw [write_of_detached hdetached]
  answer_eq id hid := by
    have hattached : (after es).attached = some id := (attached_after es).trans hid
    obtain ⟨d, hd⟩ := (sound_after es).attached id hattached
    exact ⟨d, hd, fun bytes => by rw [write_of_attached hattached hd]⟩
  text_written _ := rfl
  text_fails_iff text := by
    rw [← Bool.not_eq_true, writeText_eq_true_iff]
    cases ((after es).write text.toUTF8.toList).2 <;> simp
  whole id d hd bytes := by
    rcases Option.eq_none_or_eq_some d.writeFault with hfault | ⟨fault, hfault⟩
    · exact Or.inl (d.write_of_unlimited hfault ((sound_after es).unlimited id d hd) bytes)
    · exact Or.inr ⟨fault, d.write_of_fault hfault bytes⟩

/-- How devices are attached to a console, and when they are initialised. -/
structure Attaching (c : Console) : Prop where
  answer_eq : ∀ id d, c.device? id = some d →
    (c.attach id).2 = if d.initialised then .ok () else d.initialise.2
  attached_of_ok : ∀ id, (c.attach id).2 = .ok () → (c.attach id).1.attached = some id
  kept_of_error : ∀ id fault, (c.attach id).2 = .error fault →
    (c.attach id).1.attached = c.attached
  initialised_once : ∀ e id d, c.device? id = some d → ∃ d', (c.next e).device? id = some d' ∧
    d'.initialisations =
      d.initialisations + if e = .attach id ∧ d.initialised = false then 1 else 0

theorem attaches_devices (c : Console) : c.Attaching where
  answer_eq id d hd := by
    cases hinit : d.initialised with
    | true => rw [attach_of_initialised hd hinit]; rfl
    | false => rw [attach_of_uninitialised hd hinit]; rfl
  attached_of_ok id hok := by rw [attached_attach, if_pos hok]
  kept_of_error id fault herror := by rw [attached_attach, herror, if_neg (by simp)]
  initialised_once e id d hd :=
    ⟨_, device?_next_of_some hd e, c.initialisations_treats e id d⟩

/-- After any events the console writes to the device that was attached last, every device has
taken what was written to it meanwhile, and the next attachment initialises what has to be. -/
theorem writes_reach_last_attached (es : List ConsoleEvent) :
    Routes es (after es) ∧ (after es).Attaching :=
  ⟨routes_after es, attaches_devices (after es)⟩

/-- The second device cannot be initialised, so that the first one stays attached. -/
example :
    (after [.plug {}, .plug { initFault := some .unsupported }, .write [1], .attach 0, .write [2],
      .attach 1, .write [3], .turn 0 { initialised := true, writeFault := some .other }, .write [4],
      .turn 0 { initialised := true }, .write [5]]).devices.map
        (fun d => (d.initialisations, d.bytes)) = [(1, [2, 3, 5]), (1, [])] := by decide

end Console

end RealmDispatch
