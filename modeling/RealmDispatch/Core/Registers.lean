/-!
# Registers of a saved context

General registers are written from `x0` upwards, and the ones that are not
written keep their values. The EL2 system registers of a world are only ever
moved as a block; single ones are read and written by whoever runs in EL2.
-/
namespace RealmDispatch

/-- The registers `x0` to `x7` that carry a call and its answer. -/
abbrev Arguments : Type := Vector UInt64 8

namespace Arguments

/-- Arguments from a list, filled up with zeros. -/
def ofList (values : List UInt64) : Arguments :=
  Vector.ofFn fun i => values.getD i.val 0

def x0 (args : Arguments) : UInt64 := args[0]

def x1 (args : Arguments) : UInt64 := args[1]

def x2 (args : Arguments) : UInt64 := args[2]

def x3 (args : Arguments) : UInt64 := args[3]

def x4 (args : Arguments) : UInt64 := args[4]

def x5 (args : Arguments) : UInt64 := args[5]

def setX0 (args : Arguments) (value : UInt64) : Arguments := args.set 0 value

end Arguments

/-- The registers `x0` to `x30`, padded to an even count. -/
abbrev generalCount : Nat := 32

structure GeneralRegisters where
  values : Vector UInt64 generalCount := Vector.replicate generalCount 0
deriving DecidableEq, Repr

namespace GeneralRegisters

/-- Writes `x0` and up; values beyond the last register are dropped. -/
def load (r : GeneralRegisters) (values : List UInt64) : GeneralRegisters :=
  ⟨Vector.ofFn fun i => values.getD i.val (r.values.get i)⟩

def arguments (r : GeneralRegisters) : Arguments :=
  Vector.ofFn fun i => r.values[i.val]

end GeneralRegisters

inductive SystemRegister where
  | actlr
  | afsr0
  | afsr1
  | amair
  | cnthctl
  | cntvoff
  | cptr
  | elr
  | esr
  | far
  | hacr
  | hcr
  | hpfar
  | hstr
  | iccSre
  | ichHcr
  | ichVmcr
  | mair
  | mdcr
  | sctlr
  | spsr
  | sp
  | tcr
  | tpidr
  | ttbr0
  | vbar
  | vmpidr
  | vpidr
  | vtcr
  | vttbr
deriving DecidableEq, Repr

namespace SystemRegister

def all : List SystemRegister :=
  [actlr, afsr0, afsr1, amair, cnthctl, cntvoff, cptr, elr, esr, far, hacr, hcr, hpfar, hstr,
    iccSre, ichHcr, ichVmcr, mair, mdcr, sctlr, spsr, sp, tcr, tpidr, ttbr0, vbar, vmpidr,
    vpidr, vtcr, vttbr]

def name : SystemRegister → String
  | actlr => "actlr_el2"
  | afsr0 => "afsr0_el2"
  | afsr1 => "afsr1_el2"
  | amair => "amair_el2"
  | cnthctl => "cnthctl_el2"
  | cntvoff => "cntvoff_el2"
  | cptr => "cptr_el2"
  | elr => "elr_el2"
  | esr => "esr_el2"
  | far => "far_el2"
  | hacr => "hacr_el2"
  | hcr => "hcr_el2"
  | hpfar => "hpfar_el2"
  | hstr => "hstr_el2"
  | iccSre => "icc_sre_el2"
  | ichHcr => "ich_hcr_el2"
  | ichVmcr => "ich_vmcr_el2"
  | mair => "mair_el2"
  | mdcr => "mdcr_el2"
  | sctlr => "sctlr_el2"
  | spsr => "spsr_el2"
  | sp => "sp_el2"
  | tcr => "tcr_el2"
  | tpidr => "tpidr_el2"
  | ttbr0 => "ttbr0_el2"
  | vbar => "vbar_el2"
  | vmpidr => "vmpidr_el2"
  | vpidr => "vpidr_el2"
  | vtcr => "vtcr_el2"
  | vttbr => "vttbr_el2"

abbrev count : Nat := 30

/-- The place of a register in its block. -/
def place (r : SystemRegister) : Fin count := ⟨r.ctorIdx, by cases r <;> decide⟩

end SystemRegister

/-- The EL2 system registers of one world. -/
structure SystemRegisters where
  values : Vector UInt64 SystemRegister.count := Vector.replicate SystemRegister.count 0
deriving DecidableEq, Repr

namespace SystemRegisters

def get (s : SystemRegisters) (r : SystemRegister) : UInt64 :=
  s.values[r.place]

def set (s : SystemRegisters) (r : SystemRegister) (value : UInt64) : SystemRegisters :=
  ⟨s.values.set r.place value⟩

def setAll (s : SystemRegisters) (changes : List (SystemRegister × UInt64)) :
    SystemRegisters :=
  changes.foldl (fun s (r, value) => s.set r value) s

/-- The registers that are not zero. -/
def nonzero (s : SystemRegisters) : List (SystemRegister × UInt64) :=
  (SystemRegister.all.map fun r => (r, s.get r)).filter fun (_, value) => value != 0

end SystemRegisters

end RealmDispatch
