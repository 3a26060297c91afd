import SlideGraph.Action
import SlideGraph.Config
import SlideGraph.GameState
import SlideGraph.Text.Quotation

/-!
# Running a list of actions

A list of actions is run in one pass. Blocks are open labels on a stack. A requirement that fails
begins a skip to the end of the innermost open block; where no block is open it ends the run. What
has been done stays done. `step` is one action, `run` the whole list.
-/

namespace SlideGraph

/-- Why a run ended. The places are positions in the list of actions. -/
inductive Termination
  /-- The list came to its end. -/
  | completed
  /-- The player is told to leave. -/
  | exited (index : Nat)
  /-- A requirement failed where no block was open. -/
  | requirementFailed (index : Nat)
deriving DecidableEq, Repr

/-- How a run went. -/
structure Report where
  termination : Termination
  /-- The actions that were carried out. -/
  dispatched : Nat
  /-- The actions that a failed requirement passed over. -/
  skipped : Nat
  /-- The actions that mean nothing. -/
  ignored : Nat
deriving DecidableEq, Repr

/-- Whether a run came to the end of its list. -/
def Report.completed (r : Report) : Bool := r.termination == .completed

/-- What a run does to the world outside the game state. -/
inductive Effect
  | logged (record : LogRecord)
  | routed (slide : String)
deriving DecidableEq, Repr

namespace Interpreter

/-! ### Blocks -/

/-- A skip in progress: the label whose end is looked for, and how many inner blocks with the same
label are open. -/
structure Skip where
  label : String
  depth : Nat
deriving DecidableEq, Repr

/-- What an action is to a skip. -/
inductive Meeting
  /-- The skip ends and the action is carried out. -/
  | resumes
  /-- The skip goes on behind the action. -/
  | passes (skip : Skip)
deriving DecidableEq, Repr

/-- Meet an action while skipping. -/
def Skip.meet (mode : NestedSkip) (skip : Skip) (a : Action) : Meeting :=
  if mode = .depthTracked ∧ a.opens skip.label then .passes { skip with depth := skip.depth + 1 }
  else if a.closes skip.label then
    match skip.depth with
    | 0 => .resumes
    | depth + 1 => .passes { skip with depth }
  else .passes skip

/-- What a run knows between two actions. -/
structure Frame where
  state : GameState
  /-- The labels of the open blocks, the innermost first. -/
  labels : List String := []
  /-- The skip in progress. -/
  skip : Option Skip := none
deriving DecidableEq

/-! ### One action -/

/-- How an action counts in a report. -/
inductive Tally
  | dispatched
  | skipped
  | ignored
deriving DecidableEq, Repr

/-- What came of one action. -/
structure Step where
  frame : Frame
  tally : Tally
  effects : List Effect := []
  /-- Set if the run ends here. -/
  stop : Option Termination := none
deriving DecidableEq

/-- The name of an action in the log. -/
def place (index : Nat) : String := "action #" ++ index.repr

/-- What the log says of an action that is passed over. -/
def oversightRecord (index : Nat) : Oversight → LogRecord
  | .empty => .warn (place index ++ " is empty, ignoring")
  | .unknown token => .debug (place index ++ ": unknown opcode `" ++ token ++ "`, ignoring")
  | .tooShort opcode given =>
    .warn (place index ++ ": `" ++ opcode.name ++ "` needs " ++ opcode.arity.repr ++
      " operand(s), got " ++ given.repr)

/-- The change that a mode makes to a flag. -/
def flagChange (key : String) : FlagMode → GameState.Change
  | .show => .setFlag key true
  | .hide => .setFlag key false
  | .toggle => .toggleFlag key

/-- Change the game state. -/
def change (frame : Frame) (c : GameState.Change) : Step where
  frame := { frame with state := frame.state.apply c }
  tally := .dispatched
  effects := (frame.state.records c).map .logged

/-- A requirement that is met or not: one that is not begins a skip or ends the run. -/
def require (index : Nat) (frame : Frame) (isMet : Bool) : Step :=
  if isMet then { frame, tally := .dispatched }
  else
    match frame.labels with
    | [] => { frame, tally := .dispatched, stop := some (.requirementFailed index) }
    | label :: _ => { frame := { frame with skip := some ⟨label, 0⟩ }, tally := .dispatched }

/-- Carry out an instruction. -/
def dispatch (index : Nat) (frame : Frame) : Instruction → Step
  | .route slide => { frame, tally := .dispatched, effects := [.routed slide] }
  | .addItem item => change frame (.addItem item)
  | .removeItem item => change frame (.removeItem item)
  | .setFlag key (some mode) => change frame (flagChange key mode)
  | .setFlag _ none =>
    { frame, tally := .dispatched,
      effects := [.logged (.debug (place index ++ ": unknown SetGameState mode"))] }
  | .requireItem r => require index frame (r.holds (frame.state.hasItem r.key))
  | .requireFlag r => require index frame (r.holds (frame.state.flag r.key))
  | .startBlock label =>
    { frame := { frame with labels := label :: frame.labels }, tally := .dispatched }
  | .endBlock =>
    match frame.labels with
    | [] =>
      { frame, tally := .dispatched,
        effects := [.logged (.warn (place index ++ ": EndBlock with no open block"))] }
    | _ :: labels => { frame := { frame with labels }, tally := .dispatched }
  | .exit => { frame, tally := .dispatched, stop := some (.exited index) }

/-- An action that no skip passes over: it is carried out if it means something. -/
def live (index : Nat) (frame : Frame) (a : Action) : Step :=
  match a.instruction with
  | .error o => { frame, tally := .ignored, effects := [.logged (oversightRecord index o)] }
  | .ok i =>
    let done := dispatch index frame i
    { done with
      effects := .logged (.debug (place index ++ ": " ++ Text.quotedList a.tokens)) ::
        done.effects }

/-- The action at a position of the list. -/
def step (mode : NestedSkip) (index : Nat) (frame : Frame) (a : Action) : Step :=
  match frame.skip with
  | none => live index frame a
  | some skip =>
    match skip.meet mode a with
    | .resumes => live index { frame with skip := none } a
    | .passes skip => { frame := { frame with skip := some skip }, tally := .skipped }

/-! ### A list of actions -/

/-- What came of a run. -/
structure Outcome where
  state : GameState
  effects : List Effect
  report : Report
deriving DecidableEq

/-- Count an action in a report. -/
def Tally.count (t : Tally) (r : Report) : Report :=
  match t with
  | .dispatched => { r with dispatched := r.dispatched + 1 }
  | .skipped => { r with skipped := r.skipped + 1 }
  | .ignored => { r with ignored := r.ignored + 1 }

/-- What came of a run that began with a step. -/
def Outcome.behind (o : Outcome) (s : Step) : Outcome where
  state := o.state
  effects := s.effects ++ o.effects
  report := s.tally.count o.report

/-- A run that ends before the next action. -/
def Outcome.ended (frame : Frame) (t : Termination) : Outcome := ⟨frame.state, [], ⟨t, 0, 0, 0⟩⟩

/-- Run the rest of a list, whose first action has the position `index`. -/
def runFrom (mode : NestedSkip) : Nat → Frame → List Action → Outcome
  | _, frame, [] => .ended frame .completed
  | index, frame, a :: as =>
    let s := step mode index frame a
    match s.stop with
    | some t => (Outcome.ended s.frame t).behind s
    | none => (runFrom mode (index + 1) s.frame as).behind s

/-- Run a list of actions on a game state. -/
def run (mode : NestedSkip) (state : GameState) (actions : List Action) : Outcome :=
  runFrom mode 0 { state } actions

end Interpreter

end SlideGraph
