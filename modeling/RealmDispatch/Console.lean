/-!
# The console and the devices behind it

A console writes to the device that was attached last. A device is initialised
once, when it is first attached; a device that cannot be initialised is not
attached, and the console keeps the one it had. Devices live in a table and are
named by their place in it, so that one can be inspected when it is no longer
attached.
-/
namespace RealmDispatch

/-- Why a device or a console refuses. -/
inductive ConsoleFault where
  | notConnected
  | alreadyExists
  | unsupported
  | other
deriving DecidableEq, Repr

namespace ConsoleFault

def all : List ConsoleFault := [notConnected, alreadyExists, unsupported, other]

def name : ConsoleFault → String
  | notConnected => "NotConnected"
  | alreadyExists => "AlreadyExists"
  | unsupported => "Unsupported"
  | other => "Other"

end ConsoleFault

structure Device where
  initialised : Bool := false
  /-- How often the device was told to initialise itself. -/
  initialisations : Nat := 0
  /-- What the device has taken so far. -/
  bytes : List UInt8 := []
  /-- How the device answers when it is told to initialise itself. -/
  initFault : Option ConsoleFault := none
  /-- How the device answers when it is written to. -/
  writeFault : Option ConsoleFault := none
  /-- How many bytes the device takes in total, if there is a limit. -/
  capacity : Option Nat := none
deriving DecidableEq, Repr

namespace Device

def initialise (d : Device) : Device × Except ConsoleFault Unit :=
  let d := { d with initialisations := d.initialisations + 1 }
  match d.initFault with
  | some fault => (d, .error fault)
  | none => ({ d with initialised := true }, .ok ())

/-- A failing device takes nothing. A device without room for all bytes takes
those it has room for and then fails. -/
def write (d : Device) (bytes : List UInt8) : Device × Except ConsoleFault Unit :=
  match d.writeFault with
  | some fault => (d, .error fault)
  | none =>
      let total := d.bytes ++ bytes
      match d.capacity with
      | some room =>
          if total.length ≤ room then ({ d with bytes := total }, .ok ())
          else ({ d with bytes := total.take room }, .error .other)
      | none => ({ d with bytes := total }, .ok ())

end Device

structure Console where
  devices : List Device := []
  attached : Option Nat := none
deriving DecidableEq, Repr

namespace Console

def device? (c : Console) (id : Nat) : Option Device := c.devices[id]?

def setDevice (c : Console) (id : Nat) (d : Device) : Console :=
  { c with devices := c.devices.set id d }

/-- Puts a device into the table without attaching it. -/
def plug (c : Console) (d : Device) : Console := { c with devices := c.devices ++ [d] }

/-- Makes a device of the table the one that is written to. -/
def attach (c : Console) (id : Nat) : Console × Except ConsoleFault Unit :=
  match c.device? id with
  | none => (c, .error .notConnected)
  | some d =>
      if d.initialised then ({ c with attached := some id }, .ok ())
      else
        match d.initialise with
        | (d, .ok ()) => ({ c.setDevice id d with attached := some id }, .ok ())
        | (d, .error fault) => (c.setDevice id d, .error fault)

def write (c : Console) (bytes : List UInt8) : Console × Except ConsoleFault Unit :=
  match c.attached with
  | none => (c, .error .notConnected)
  | some id =>
      match c.device? id with
      | none => (c, .error .notConnected)
      | some d =>
          let (d, result) := d.write bytes
          (c.setDevice id d, result)

/-- Writes a text; of a failure no more is known than that it happened. -/
def writeText (c : Console) (text : String) : Console × Bool :=
  let (c, result) := c.write text.toUTF8.toList
  (c, result.isOk)

/-- Writes texts one after the other and stops at the first that fails. -/
def writeAll (c : Console) : List String → Console
  | [] => c
  | text :: rest =>
      match c.writeText text with
      | (c, true) => c.writeAll rest
      | (c, false) => c

/-- All that the attached device has taken. -/
def received (c : Console) : List UInt8 :=
  match c.attached.bind c.device? with
  | none => []
  | some d => d.bytes

end Console

end RealmDispatch
