import RealmDispatch.Dispatch.Operation

/-!
# Scripts for a board and a realm manager

A scenario drives the dispatcher without hardware. Its board answers from a
table of readings that the script can change between steps, and its realm
manager follows the script: each time it is entered it takes the next `Visit`,
performs the actions of the visit and comes back with a status. The actions may
enter the realm manager again, on the same core or on another one.
-/
namespace RealmDispatch.Scenario

/-- What the scripted board answers at the moment. -/
structure Readings where
  core : Nat := 0
  clock : Clock := ⟨0, 1⟩
  signsTokens : Bool := false
  realmsSupported : Bool := true
  image : Option EntryPoint := some ⟨0xffc00000, 0x3c9, Arguments.ofList []⟩
  shared : SharedBuffer := ⟨0xffbff000, 0x1000⟩
  manifestError : Option Int32 := none
  interrupt : UInt32 := timerInterrupt
  granule : Except GranuleFault Unit := .ok ()
  token : Except ServiceError (UInt64 × UInt64) := .ok (0x4a0, 0)
  key : Except ServiceError UInt64 := .ok 0x30
  /-- A board that signs nothing answers every request to sign like this. -/
  signature : Except ServiceError UInt64 := .error .unknown

/-- The stack left behind by the synchronous entry that `earlier` ones precede. -/
def Readings.stack (r : Readings) (earlier : Nat) : UInt64 :=
  0xc0de0000 + 0x100 * UInt64.ofNat earlier + UInt64.ofNat r.core

def Readings.board (r : Readings) (earlier : Nat) : Board where
  core := r.core
  clock := r.clock
  signsTokens := r.signsTokens
  realmsSupported := r.realmsSupported
  image := r.image
  shared := r.shared
  manifestError := r.manifestError
  interrupt := r.interrupt
  stack := r.stack earlier
  delegate _ _ := r.granule
  undelegate _ _ := r.granule
  platformToken _ _ _ := r.token
  realmKey _ _ _ := r.key
  signToken _ _ _ _ := r.signature

/-- A change to one reading. -/
inductive Setting where
  | core (position : Nat)
  | counter (now : UInt64)
  | frequency (ticks : UInt64)
  | realmsSupported (present : Bool)
  | image (entry : Option EntryPoint)
  | sharedBase (base : UInt64)
  | sharedSize (size : UInt64)
  | manifestError (code : Option Int32)
  | interrupt (id : UInt32)
  | granule (result : Except GranuleFault Unit)
  | token (result : Except ServiceError (UInt64 × UInt64))
  | key (result : Except ServiceError UInt64)
  | signature (result : Except ServiceError UInt64)

def Setting.apply (r : Readings) : Setting → Readings
  | core position => { r with core := position }
  | counter now => { r with clock := { r.clock with now } }
  | frequency ticks => { r with clock := { r.clock with frequency := ticks } }
  | realmsSupported present => { r with realmsSupported := present }
  | image entry => { r with image := entry }
  | sharedBase base => { r with shared := { r.shared with base } }
  | sharedSize size => { r with shared := { r.shared with size } }
  | manifestError code => { r with manifestError := code }
  | interrupt id => { r with interrupt := id }
  | granule result => { r with granule := result }
  | token result => { r with token := result }
  | key result => { r with key := result }
  | signature result => { r with signature := result }

mutual

/-- One step of a script. -/
inductive Action where
  /-- An operation of the dispatcher. -/
  | operate (operation : Operation)
  /-- An interrupt, with the counter moved to a new value before it. -/
  | interruptAt (now : UInt64) (interrupted : World)
  /-- Changes readings and live registers, and replaces the visits to come. -/
  | configure (settings : List Setting) (live : List (SystemRegister × UInt64))
      (visits : Option (List Visit))
  /-- Writes general registers of a saved context of the current core. -/
  | setGeneral (world : World) (values : List UInt64)
  /-- Writes system registers of a saved context of the current core. -/
  | setSystem (world : World) (changes : List (SystemRegister × UInt64))
  /-- Looks up what is known about a realm. -/
  | inspect (rd : Descriptor)
  /-- Shows the saved contexts of the current core and the live registers. -/
  | dump

/-- What the realm manager does when it is entered. Without a status of its own
it comes back with the one that was reported last. -/
inductive Visit where
  | mk (actions : List Action) (status : Option UInt64)

end

instance : Inhabited Action := ⟨.dump⟩

instance : Inhabited Visit := ⟨⟨[], none⟩⟩

end RealmDispatch.Scenario
