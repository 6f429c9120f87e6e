import RealmDispatch.Scenario.Script

/-!
# Playing a script

The stage of a scenario holds the machine, the readings and the visits to come.
An action that enters the realm manager suspends the current visit, if there is
one, until the new one is over. Every action and every end of a visit uses up a
part of the script, so each script comes to its end.
-/
namespace RealmDispatch.Scenario

structure Stage where
  readings : Readings
  visits : List Visit := []
  machine : Machine := {}
  /-- How often the realm manager was entered. -/
  entries : Nat := 0
  /-- The status reported last since the realm manager was entered last. -/
  reported : UInt64 := 0

/-- A visit in progress. -/
structure Frame where
  entry : Entry
  rest : List Action
  status : Option UInt64

inductive Reply where
  | answer (answer : Answer)
  | phase (phase : Option Phase)
  | contexts (worlds : Worlds) (live : SystemRegisters)

/-- What an action leads to. -/
inductive Turn where
  | halted (halt : Halt)
  | replied (reply : Reply) (stage : Stage)
  | entered (frame : Frame) (stage : Stage)

/-- Requests and notices, in order. -/
structure Trace where
  requests : List Request := []
  notices : List Notice := []

def Trace.append (t u : Trace) : Trace :=
  ⟨t.requests ++ u.requests, t.notices ++ u.notices⟩

def Trace.of {α : Type} (o : Outcome α) : Trace := ⟨o.requests, o.notices⟩

namespace Stage

/-- Takes one step on the machine of the stage. -/
def step {α : Type} (s : Stage) (x : Step α) : Outcome α :=
  x (s.readings.board s.entries) s.machine

/-- Takes over the machine that an answer left, and remembers a reported status. -/
def answered (s : Stage) (machine : Machine) (answer : Answer) : Stage :=
  match answer with
  | .next (.resume _ value) => { s with machine, reported := value }
  | _ => { s with machine }

/-- Enters the realm manager, which takes the next visit of the script. Without
one it comes back at once and reports success. -/
def entered (s : Stage) (machine : Machine) (entry : Entry) : Frame × Stage :=
  match s.visits with
  | [] => (⟨entry, [], some 0⟩, { s with machine, entries := s.entries + 1, reported := 0 })
  | ⟨actions, status⟩ :: visits =>
      (⟨entry, actions, status⟩,
        { s with machine, visits, entries := s.entries + 1, reported := 0 })

/-- Takes a step that only shows or changes saved contexts. -/
def look (s : Stage) (x : Step Reply) : Turn × Trace :=
  let o := s.step x
  match o.result with
  | .error h => (.halted h, Trace.of o)
  | .ok reply => (.replied reply { s with machine := o.machine }, Trace.of o)

def operate (s : Stage) (operation : Operation) : Turn × Trace :=
  let o := s.step operation.start
  match o.result with
  | .error h => (.halted h, Trace.of o)
  | .ok (.answered answer) =>
      (.replied (.answer answer) (s.answered o.machine answer), Trace.of o)
  | .ok (.entered entry) =>
      let (frame, s) := s.entered o.machine entry
      (.entered frame s, Trace.of o)

def perform (s : Stage) : Action → Turn × Trace
  | .operate operation => s.operate operation
  | .interruptAt now interrupted =>
      { s with readings := (Setting.counter now).apply s.readings }.operate
        (.interrupt interrupted)
  | .configure settings live visits =>
      (.replied (.answer .done)
        { s with
          readings := settings.foldl Setting.apply s.readings
          machine := { s.machine with live := s.machine.live.setAll live }
          visits := visits.getD s.visits }, {})
  | .setGeneral world values => s.look do
      let c ← Step.core
      Step.write c world values
      pure (.answer .done)
  | .setSystem world changes => s.look do
      let c ← Step.core
      Step.modifyCpu c fun cpu =>
        let context := cpu.context world
        cpu.setContext world { context with system := context.system.setAll changes }
      pure (.answer .done)
  | .inspect rd => (.replied (.phase (s.machine.tracker.phase? rd)) s, {})
  | .dump => s.look do
      let c ← Step.core
      let m ← Step.machine
      pure (.contexts (m.cpu c).worlds m.live)

end Stage

/-- A reply together with the machine it was given on and the current core. -/
structure Moment where
  reply : Reply
  machine : Machine
  core : Nat

def Stage.moment (s : Stage) (reply : Reply) : Moment := ⟨reply, s.machine, s.readings.core⟩

/-- All that one action of a script brings about, visits included. -/
structure Report where
  result : Except Halt Moment
  trace : Trace
  nested : List Moment

/-! ## Playing to the end -/

namespace Stage

theorem visits_answered (s : Stage) (machine : Machine) (answer : Answer) :
    (s.answered machine answer).visits = s.visits := by
  unfold answered
  split <;> rfl

theorem sizeOf_entered (s : Stage) (machine : Machine) (entry : Entry) :
    sizeOf (s.entered machine entry).2.visits + sizeOf (s.entered machine entry).1.rest ≤
      sizeOf s.visits + 1 := by
  unfold entered
  split
  · rename_i h
    simp [h]
  · rename_i h
    simp [h]
    omega

/-- Less than `n` of the script is left in the visits to come and in a visit that
has just begun. -/
def leavesLess (n : Nat) : Turn → Prop
  | .halted _ => True
  | .replied _ s => sizeOf s.visits < n
  | .entered f s => sizeOf s.visits + sizeOf f.rest < n

theorem look_leavesLess (s : Stage) (x : Step Reply) :
    leavesLess (sizeOf s.visits + 1) (s.look x).1 := by
  unfold look
  dsimp only
  split
  · trivial
  · exact Nat.lt_succ_self _

theorem operate_leavesLess (s : Stage) (operation : Operation) :
    leavesLess (sizeOf s.visits + 2) (s.operate operation).1 := by
  unfold operate
  dsimp only
  split
  · trivial
  · simp [leavesLess, visits_answered]
  · have h := sizeOf_entered s
    exact Nat.lt_succ_of_le (h _ _)

/-- An action leaves less of the script than it found, itself included. -/
theorem perform_leavesLess (s : Stage) (a : Action) :
    leavesLess (sizeOf s.visits + (1 + sizeOf a)) (s.perform a).1 := by
  have weaken {n k : Nat} (h : n ≤ k) {t : Turn} (ht : leavesLess n t) : leavesLess k t := by
    cases t with
    | halted => trivial
    | replied => exact Nat.lt_of_lt_of_le ht h
    | entered => exact Nat.lt_of_lt_of_le ht h
  cases a with
  | operate operation =>
      refine weaken ?_ (operate_leavesLess s operation)
      rw [Action.operate.sizeOf_spec]
      omega
  | interruptAt now interrupted =>
      refine weaken ?_ (operate_leavesLess _ (.interrupt interrupted))
      rw [Action.interruptAt.sizeOf_spec]
      dsimp only
      omega
  | configure settings live visits =>
      cases visits with
      | none => exact Nat.lt_add_of_pos_right (by omega)
      | some visits =>
          have h : sizeOf visits < sizeOf (Action.configure settings live (some visits)) := by
            rw [Action.configure.sizeOf_spec, Option.some.sizeOf_spec]
            omega
          show sizeOf visits < _
          omega
  | setGeneral world values => exact weaken (by omega) (look_leavesLess s _)
  | setSystem world changes => exact weaken (by omega) (look_leavesLess s _)
  | inspect rd => exact Nat.lt_add_of_pos_right (by omega)
  | dump => exact weaken (by omega) (look_leavesLess s _)

/-- How much is left of the visits in progress. -/
noncomputable def framesLeft : List Frame → Nat
  | [] => 0
  | f :: outer => sizeOf f.rest + framesLeft outer

/-- How much of a script is left, in the visits to come and in those in progress. -/
noncomputable def scriptLeft (s : Stage) (f : Frame) (outer : List Frame) : Nat :=
  sizeOf s.visits + framesLeft (f :: outer)

theorem scriptLeft_of_finished (s : Stage) (machine : Machine) {f : Frame} (g : Frame)
    (outer : List Frame) (h : f.rest = []) :
    scriptLeft { s with machine } g outer < scriptLeft s f (g :: outer) := by
  simp only [scriptLeft, framesLeft, h, List.nil.sizeOf_spec]
  omega

theorem scriptLeft_of_replied {s s' : Stage} {f : Frame} {a : Action} {rest : List Action}
    {reply : Reply} (outer : List Frame) (h : f.rest = a :: rest)
    (turn : (s.perform a).1 = .replied reply s') :
    scriptLeft s' { f with rest } outer < scriptLeft s f outer := by
  have less := perform_leavesLess s a
  rw [turn] at less
  simp only [leavesLess] at less
  simp only [scriptLeft, framesLeft, h, List.cons.sizeOf_spec]
  omega

theorem scriptLeft_of_entered {s s' : Stage} {f g : Frame} {a : Action} {rest : List Action}
    (outer : List Frame) (h : f.rest = a :: rest)
    (turn : (s.perform a).1 = .entered g s') :
    scriptLeft s' g ({ f with rest } :: outer) < scriptLeft s f outer := by
  have less := perform_leavesLess s a
  rw [turn] at less
  simp only [leavesLess] at less
  simp only [scriptLeft, framesLeft, h, List.cons.sizeOf_spec]
  omega

/-- Plays on inside a visit until the outermost one is over. The frame `f` is in
progress, the frames `outer` are suspended, the innermost first, and `trace` and
`nested` are what has come about so far. -/
def settle (s : Stage) (f : Frame) (outer : List Frame) (trace : Trace)
    (nested : List Moment) : Report × Option Stage :=
  match _hf : f.rest with
  | [] =>
      let o := s.step (f.entry.finish (f.status.getD s.reported))
      let trace := trace.append (Trace.of o)
      match o.result with
      | .error h => (⟨.error h, trace, nested⟩, none)
      | .ok answer =>
          let moment := { s with machine := o.machine }.moment (.answer answer)
          match outer with
          | [] => (⟨.ok moment, trace, nested⟩, some { s with machine := o.machine })
          | g :: outer =>
              settle { s with machine := o.machine } g outer trace (nested ++ [moment])
  | a :: rest =>
      match _hp : (s.perform a).1 with
      | .halted h => (⟨.error h, trace.append (s.perform a).2, nested⟩, none)
      | .replied reply s' =>
          settle s' { f with rest } outer (trace.append (s.perform a).2)
            (nested ++ [s'.moment reply])
      | .entered g s' =>
          settle s' g ({ f with rest } :: outer) (trace.append (s.perform a).2) nested
termination_by scriptLeft s f outer
decreasing_by
  · exact scriptLeft_of_finished s _ g outer _hf
  · exact scriptLeft_of_replied outer _hf _hp
  · exact scriptLeft_of_entered outer _hf _hp

/-- Performs one action, with all the visits it leads to. -/
def play (s : Stage) (a : Action) : Report × Option Stage :=
  let (turn, trace) := s.perform a
  match turn with
  | .halted h => (⟨.error h, trace, []⟩, none)
  | .replied reply s => (⟨.ok (s.moment reply), trace, []⟩, some s)
  | .entered f s => s.settle f [] trace []

/-- Performs the actions of a script until one of them halts the core. -/
def run (s : Stage) : List Action → List Report
  | [] => []
  | a :: rest =>
      match s.play a with
      | (report, none) => [report]
      | (report, some s) => report :: s.run rest

end Stage

end RealmDispatch.Scenario
