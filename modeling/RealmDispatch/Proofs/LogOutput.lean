import RealmDispatch.Log.Logger
import RealmDispatch.Proofs.ConsoleRouting

/-!
# The log on a console of limited room

Lines are logged, the limit changes and the logger is registered again, in any order. The
attached device has room for so many bytes in total. Of a write that does not fit it takes what
it has room for, and a line is given up at its first piece that does not fit.

Nothing is lost but the end. With room enough the console would show each line that the limit in
force admitted, whole and in order; it holds the first bytes of that, as many as there is room
for, wherever in a line or in a character this ends. The proof follows what has been
written, not what fits: a device that has been written `bytes` holds `bytes.take room`, and once
it is full there is no difference between a piece that is refused and a piece that is left out.
-/
namespace RealmDispatch

/-! ## Bytes of a text -/

namespace Utf8

theorem toList_loop (bytes : ByteArray) (i : Nat) (read : List UInt8) :
    ByteArray.toList.loop bytes i read = read.reverse ++ bytes.data.toList.drop i := by
  fun_induction ByteArray.toList.loop bytes i read with
  | case1 i read hi ih =>
      have hlt : i < bytes.data.toList.length := hi
      have hhead : bytes.get! i = bytes.data.toList[i] := by simp [ByteArray.get!, hi]
      rw [ih, List.drop_eq_getElem_cons hlt, hhead]
      simp
  | case2 i read hi =>
      have hle : bytes.data.toList.length ≤ i := Nat.le_of_not_lt hi
      rw [List.drop_eq_nil_of_le hle, List.append_nil]

theorem toList_eq (bytes : ByteArray) : bytes.toList = bytes.data.toList := by
  unfold ByteArray.toList
  rw [toList_loop, List.reverse_nil, List.nil_append, List.drop_zero]

theorem toList_append (a b : ByteArray) : (a ++ b).toList = a.toList ++ b.toList := by
  simp only [toList_eq, ByteArray.toList_data_append]

/-- The bytes of texts that are written one after the other. -/
def joined (texts : List String) : List UInt8 := texts.flatMap fun text => text.toUTF8.toList

end Utf8

/-! ## A device with room for so many bytes -/

theorem take_take_append (room : Nat) (bytes more : List UInt8) :
    (bytes.take room ++ more).take room = (bytes ++ more).take room := by
  have hleft : room - min room bytes.length = room - bytes.length := by omega
  rw [List.take_append, List.take_take, min_self, List.length_take, hleft, ← List.take_append]

/-- A working device with room for `room` bytes in total, which has been written `bytes`. -/
structure Device.Holds (d : Device) (room : Nat) (bytes : List UInt8) : Prop where
  works : d.writeFault = none
  bounded : d.capacity = some room
  bytes_eq : d.bytes = bytes.take room

namespace Device.Holds
variable {d : Device} {room : Nat} {bytes : List UInt8}

/-- Either all the bytes fit, or the device is full after them. -/
theorem write_cases (h : d.Holds room bytes) (more : List UInt8) :
    (d.bytes ++ more).length ≤ room ∧
        d.write more = ({ d with bytes := d.bytes ++ more }, .ok ()) ∨
      room < (d.bytes ++ more).length ∧
        d.write more = ({ d with bytes := (d.bytes ++ more).take room }, .error .other) := by
  rcases Nat.lt_or_ge room (d.bytes ++ more).length with hfull | hfits
  · right
    refine ⟨hfull, ?_⟩
    simp only [Device.write, h.works, h.bounded, if_neg (Nat.not_le.mpr hfull)]
  · left
    refine ⟨hfits, ?_⟩
    simp only [Device.write, h.works, h.bounded, if_pos hfits]

theorem write (h : d.Holds room bytes) (more : List UInt8) :
    (d.write more).1.Holds room (bytes ++ more) := by
  have htotal : (d.bytes ++ more).take room = (bytes ++ more).take room := by
    rw [h.bytes_eq, take_take_append]
  rcases h.write_cases more with ⟨hfits, hwrite⟩ | ⟨hfull, hwrite⟩
  · rw [hwrite]
    exact ⟨h.works, h.bounded, by rw [← htotal, List.take_of_length_le hfits]⟩
  · rw [hwrite]
    exact ⟨h.works, h.bounded, htotal⟩

theorem full_of_error (h : d.Holds room bytes) {more : List UInt8}
    (herror : (d.write more).2 ≠ .ok ()) : room ≤ (bytes ++ more).length := by
  rcases h.write_cases more with ⟨hfits, hwrite⟩ | ⟨hfull, hwrite⟩
  · rw [hwrite] at herror
    exact absurd rfl herror
  · have hle : (bytes.take room).length ≤ bytes.length := List.length_take_le' room bytes
    rw [h.bytes_eq, List.length_append] at hfull
    rw [List.length_append]
    omega

/-- What a full device is not written any more makes no difference to it. -/
theorem append_of_full (h : d.Holds room bytes) (hfull : room ≤ bytes.length)
    (more : List UInt8) : d.Holds room (bytes ++ more) :=
  ⟨h.works, h.bounded, by rw [List.take_append_of_le_length hfull, h.bytes_eq]⟩

end Device.Holds

/-- The device to which the console writes has been written `bytes`, and it has room for the
first `room` of all it is written. -/
def Console.Holds (c : Console) (room : Nat) (bytes : List UInt8) : Prop :=
  ∃ id d, c.attached = some id ∧ c.device? id = some d ∧ d.Holds room bytes

namespace Console.Holds
variable {c : Console} {room : Nat} {bytes : List UInt8}

theorem received_eq (h : c.Holds room bytes) : c.received = bytes.take room := by
  obtain ⟨id, d, hid, hd, hholds⟩ := h
  rw [received, hid, Option.bind_some, hd, ← hholds.bytes_eq]

theorem append_of_full (h : c.Holds room bytes) (hfull : room ≤ bytes.length)
    (more : List UInt8) : c.Holds room (bytes ++ more) := by
  obtain ⟨id, d, hid, hd, hholds⟩ := h
  exact ⟨id, d, hid, hd, hholds.append_of_full hfull more⟩

theorem writeText (h : c.Holds room bytes) (text : String) :
    (c.writeText text).1.Holds room (bytes ++ text.toUTF8.toList) := by
  obtain ⟨id, d, hid, hd, hholds⟩ := h
  refine ⟨id, (d.write text.toUTF8.toList).1, ?_, ?_, hholds.write _⟩
  · exact (c.attached_write _).trans hid
  · refine (c.device?_write _ id).trans ?_
    rw [hd, Option.map_some, if_pos hid]

theorem full_of_refused (h : c.Holds room bytes) {text : String}
    (hrefused : (c.writeText text).2 = false) :
    room ≤ (bytes ++ text.toUTF8.toList).length := by
  obtain ⟨id, d, hid, hd, hholds⟩ := h
  refine hholds.full_of_error fun hok => ?_
  have hwritten : (c.writeText text).2 = true := by
    rw [writeText_eq_true_iff, write_of_attached hid hd, hok]
  rw [hrefused] at hwritten
  cases hwritten

/-- However a text is cut into pieces, the console holds the beginning of the whole. -/
theorem writeAll (h : c.Holds room bytes) (texts : List String) :
    (c.writeAll texts).Holds room (bytes ++ Utf8.joined texts) := by
  induction texts generalizing c bytes with
  | nil => simpa [Console.writeAll, Utf8.joined] using h
  | cons text rest ih =>
      have hfirst := h.writeText text
      have hjoined : bytes ++ Utf8.joined (text :: rest) =
          (bytes ++ text.toUTF8.toList) ++ Utf8.joined rest := by
        rw [List.append_assoc]
        rfl
      rw [Console.writeAll, hjoined]
      split
      next c' hwritten =>
        rw [hwritten] at hfirst
        exact ih hfirst
      next c' hrefused =>
        -- The rest of the line is given up, but there is no room for it anyway.
        have hfull := h.full_of_refused (congrArg Prod.snd hrefused)
        rw [hrefused] at hfirst
        exact hfirst.append_of_full hfull _

end Console.Holds

/-- A console with one device, which has room for `room` bytes. -/
def Console.withRoom (room : Nat) : Console :=
  ((({} : Console).plug { capacity := some room }).attach 0).1

theorem Console.holds_withRoom (room : Nat) : (Console.withRoom room).Holds room [] :=
  ⟨0, _, rfl, rfl, ⟨rfl, rfl, List.take_nil.symm⟩⟩

/-! ## Lines and limits -/

namespace Line

def uncoloured (l : Line) : String := "[" ++ l.level.name ++ "]" ++ l.source ++ " -- " ++ l.text

/-- The line with its colour and its end. -/
def whole (l : Line) : String :=
  (if l.level = .error ∨ l.level = .warn then "\x1b[0;31m" ++ l.uncoloured ++ "\x1b[0m"
    else l.uncoloured) ++ "\n"

theorem joined_pieces (l : Line) : Utf8.joined l.pieces = l.whole.toUTF8.toList := by
  have halarm : l.level.isAlarm = true ↔ l.level = .error ∨ l.level = .warn := by
    cases l.level <;> decide
  simp only [pieces, whole, uncoloured, halarm]
  split_ifs <;> simp [Utf8.joined, Utf8.toList_append, red, plain]

end Line

namespace Limit

/-- The levels that a limit admits. -/
def admitted : Limit → List Level
  | none => []
  | some .error => [.error]
  | some .warn => [.error, .warn]
  | some .info => [.error, .warn, .info]
  | some .debug => [.error, .warn, .info, .debug]
  | some .trace => [.error, .warn, .info, .debug, .trace]

theorem admits_iff (limit : Limit) (l : Level) : limit.admits l = true ↔ l ∈ limit.admitted := by
  cases limit with
  | none => simp [admits, admitted]
  | some most => cases most <;> cases l <;> decide

end Limit

/-! ## Histories of a logger -/

/-- What a logger is told once it is registered. -/
inductive LoggerEvent where
  | register (limit : Limit)
  | setLimit (limit : Limit)
  | log (line : Line)
deriving DecidableEq, Repr

namespace LoggerEvent

/-- The limit that the event puts into force. -/
def limit? : LoggerEvent → Option Limit
  | .setLimit limit => some limit
  | _ => none

/-- What the event has to show when this limit is in force. -/
def shows (limit : Limit) : LoggerEvent → List UInt8
  | .log line => if line.level ∈ limit.admitted then line.whole.toUTF8.toList else []
  | _ => []

end LoggerEvent

namespace Logger
variable {c : Console} {l : Logger} {room : Nat} {bytes : List UInt8}

def next (l : Logger) : LoggerEvent → Logger
  | .register limit => (l.register limit).1
  | .setLimit limit => l.setLimit limit
  | .log line => l.log line

def after (l : Logger) (es : List LoggerEvent) : Logger := es.foldl next l

/-- The logger that writes to the console, registered with its first limit. -/
def registeredAt (c : Console) (first : Limit) : Logger :=
  (({ console := c } : Logger).register first).1

/-- The limit that was set last, or else the first one. -/
def limitInForce (first : Limit) (es : List LoggerEvent) : Limit :=
  (es.filterMap LoggerEvent.limit?).getLast?.getD first

/-- All lines that were admitted when they were logged, one after the other. -/
def output (first : Limit) (es : List LoggerEvent) : List UInt8 :=
  gathered (fun before e => e.shows (limitInForce first before)) [] es

theorem after_append (l : Logger) (es later : List LoggerEvent) :
    l.after (es ++ later) = (l.after es).after later := List.foldl_append

theorem after_snoc (l : Logger) (es : List LoggerEvent) (e : LoggerEvent) :
    l.after (es ++ [e]) = (l.after es).next e := after_append l es [e]

theorem limitInForce_snoc (first : Limit) (es : List LoggerEvent) (e : LoggerEvent) :
    limitInForce first (es ++ [e]) = e.limit?.getD (limitInForce first es) := by
  cases e <;> simp [limitInForce, LoggerEvent.limit?]

theorem output_snoc (first : Limit) (es : List LoggerEvent) (e : LoggerEvent) :
    output first (es ++ [e]) = output first es ++ e.shows (limitInForce first es) :=
  gathered_snoc [] es e

/-! ## One event -/

theorem register_of_registered (h : l.registered = true) (limit : Limit) :
    l.register limit = (l, false) := if_pos h

theorem log_eq (l : Logger) (line : Line) :
    l.log line = { l with console := (l.log line).console } := by
  unfold log
  split_ifs <;> rfl

theorem registered_next (h : l.registered = true) (e : LoggerEvent) :
    (l.next e).registered = true := by
  cases e with
  | register limit => rw [next, register_of_registered h, h]
  | setLimit limit => exact h
  | log line => rw [next, log_eq, h]

theorem limit_next (h : l.registered = true) (e : LoggerEvent) :
    (l.next e).limit = e.limit?.getD l.limit := by
  cases e with
  | register limit =>
      rw [next, register_of_registered h]
      rfl
  | setLimit limit => rfl
  | log line =>
      rw [next, log_eq]
      rfl

theorem holds_next (h : l.registered = true) (hholds : l.console.Holds room bytes)
    (e : LoggerEvent) : (l.next e).console.Holds room (bytes ++ e.shows l.limit) := by
  cases e with
  | register limit =>
      rw [next, register_of_registered h]
      simpa [LoggerEvent.shows] using hholds
  | setLimit limit => simpa [next, setLimit, LoggerEvent.shows] using hholds
  | log line =>
      simp only [next, log, LoggerEvent.shows, Limit.admits_iff]
      split_ifs with hadmitted
      · rw [← line.joined_pieces]
        exact hholds.writeAll line.pieces
      · simpa using hholds

/-! ## All events -/

theorem registered_after (h : l.registered = true) (es : List LoggerEvent) :
    (l.after es).registered = true := by
  induction es using List.reverseRecOn with
  | nil => exact h
  | append_singleton es e ih =>
      rw [after_snoc]
      exact registered_next ih e

theorem limit_after (h : l.registered = true) (es : List LoggerEvent) :
    (l.after es).limit = limitInForce l.limit es := by
  induction es using List.reverseRecOn with
  | nil => rfl
  | append_singleton es e ih =>
      rw [after_snoc, limit_next (registered_after h es), ih, limitInForce_snoc]

theorem holds_after (h : l.registered = true) (hholds : l.console.Holds room bytes)
    (es : List LoggerEvent) :
    (l.after es).console.Holds room (bytes ++ output l.limit es) := by
  induction es using List.reverseRecOn with
  | nil =>
      rw [output, gathered, List.append_nil]
      exact hholds
  | append_singleton es e ih =>
      have hnext := holds_next (registered_after h es) ih e
      rwa [← after_snoc, limit_after h es, List.append_assoc, ← output_snoc] at hnext

/-- What is on the console after the events, and what a logger may still be told. -/
structure Shows (first : Limit) (room : Nat) (es : List LoggerEvent) (l : Logger) : Prop where
  received_eq : l.console.received = (output first es).take room
  limit_eq : l.limit = limitInForce first es
  refused : ∀ limit, l.register limit = (l, false)
  log_eq : ∀ line, l.log line = { l with console := (l.log line).console }
  kept : ∀ later, l.console.received <+: (l.after later).console.received

/-- The console holds the first `room` bytes of all the lines that were admitted. -/
theorem received_prefix_of_output (h : c.Holds room []) (first : Limit)
    (es : List LoggerEvent) : Shows first room es ((registeredAt c first).after es) := by
  have hstart : (registeredAt c first).registered = true := rfl
  have hregistered := registered_after hstart es
  have hholds := holds_after hstart h es
  exact {
    received_eq := hholds.received_eq
    limit_eq := limit_after hstart es
    refused := register_of_registered hregistered
    log_eq := Logger.log_eq _
    kept := fun later => by
      rw [hholds.received_eq, (holds_after hregistered hholds later).received_eq]
      exact (List.prefix_append _ _).take room }

theorem received_prefix_with_room_for_twenty :
    (Console.withRoom 20).Holds 20 [] ∧
      Shows (some .info) 20 [.log ⟨.info, "rmm", "on"⟩, .log ⟨.error, "rmm", "é"⟩]
        ((registeredAt (Console.withRoom 20) (some .info)).after
          [.log ⟨.info, "rmm", "on"⟩, .log ⟨.error, "rmm", "é"⟩]) :=
  ⟨Console.holds_withRoom 20, received_prefix_of_output (Console.holds_withRoom 20) _ _⟩

/-- The first line is not admitted, and the third one is cut in its colour. -/
example :
    ((registeredAt (Console.withRoom 20) (some .warn)).after
      [.log ⟨.info, "rmm", "off"⟩, .setLimit (some .info), .log ⟨.info, "rmm", "on"⟩,
        .register none, .log ⟨.error, "rmm", "é"⟩, .log ⟨.info, "rmm", "late"⟩]).console.received =
      "[INFO]rmm -- on\n\x1b[0;".toUTF8.toList := by cbv

end Logger

end RealmDispatch
