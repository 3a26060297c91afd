import Mathlib.Data.List.Basic
import SlideGraph.Interpreter

/-!
# The moments of a run

A run comes to its actions one after the other, until one of them ends it. A *moment* is one of the
actions that it comes to: what the run knows before it, and what comes of it. The moments of a run
stand at the places of their actions. Up to any of them a run is the steps of the moments before it
and the run of the actions that are left.
-/

namespace SlideGraph

namespace Interpreter

/-- An action that a run comes to. -/
structure Moment where
  before : Frame
  step : Step
deriving DecidableEq

/-- The moments of a run of the rest of a list, whose first action has the position `index`. -/
def momentsFrom (mode : NestedSkip) : Nat → Frame → List Action → List Moment
  | _, _, [] => []
  | index, frame, a :: as =>
    let s := step mode index frame a
    ⟨frame, s⟩ :: if s.stop.isSome then [] else momentsFrom mode (index + 1) s.frame as

/-- The moments of a run of a list on a game state. -/
def moments (mode : NestedSkip) (state : GameState) (actions : List Action) : List Moment :=
  momentsFrom mode 0 { state } actions

/-- What came of a run that began with some moments. -/
def Outcome.behindAll (o : Outcome) (ms : List Moment) : Outcome :=
  ms.foldr (fun m o => o.behind m.step) o

@[simp] theorem Outcome.behindAll_nil (o : Outcome) : o.behindAll [] = o := rfl

@[simp] theorem Outcome.behindAll_cons (o : Outcome) (m : Moment) (ms : List Moment) :
    o.behindAll (m :: ms) = (o.behindAll ms).behind m.step := rfl

variable {mode : NestedSkip} {index : Nat} {frame : Frame} {as : List Action}

/-! ### Part of a run -/

/-- From one frame to another the run carries out all of the actions, in these moments. -/
inductive Leads (mode : NestedSkip) : Nat → Frame → List Action → List Moment → Frame → Prop
  | nil {index : Nat} {frame : Frame} : Leads mode index frame [] [] frame
  | cons {index : Nat} {frame after : Frame} {a : Action} {as : List Action} {ms : List Moment} :
    (step mode index frame a).stop = none →
    Leads mode (index + 1) (step mode index frame a).frame as ms after →
    Leads mode index frame (a :: as) (⟨frame, step mode index frame a⟩ :: ms) after

namespace Leads

variable {middle after : Frame} {bs : List Action} {ms ns : List Moment}

theorem length_eq (h : Leads mode index frame as ms after) : ms.length = as.length := by
  induction h with
  | nil => rfl
  | cons _ _ ih => rw [List.length_cons, ih, List.length_cons]

theorem append (h : Leads mode index frame as ms middle)
    (h' : Leads mode (index + as.length) middle bs ns after) :
    Leads mode index frame (as ++ bs) (ms ++ ns) after := by
  induction h with
  | nil => exact h'
  | cons hstop _ ih =>
    refine .cons hstop (ih ?_)
    rw [List.length_cons, Nat.add_comm _ 1, ← Nat.add_assoc] at h'
    exact h'

/-- The first actions of a list and some more of it. -/
theorem extend {n k : Nat} (hn : n ≤ as.length) (h : Leads mode index frame (as.take n) ms middle)
    (h' : Leads mode (index + n) middle ((as.drop n).take k) ns after) :
    Leads mode index frame (as.take (n + k)) (ms ++ ns) after := by
  rw [List.take_add]
  refine h.append ?_
  rw [List.length_take, Nat.min_eq_left hn]
  exact h'

/-- A single action that does not end the run. -/
theorem single {a : Action} (h : (step mode index frame a).stop = none) :
    Leads mode index frame [a] [⟨frame, step mode index frame a⟩]
      (step mode index frame a).frame :=
  .cons h .nil

/-- A run is its first moments and the run of the actions behind them. -/
theorem runFrom_append (h : Leads mode index frame as ms after) (rest : List Action) :
    runFrom mode index frame (as ++ rest) =
      (runFrom mode (index + as.length) after rest).behindAll ms := by
  induction h with
  | nil => rfl
  | cons hstop _ ih =>
    rw [List.cons_append, runFrom]
    simp only [hstop, ih, Outcome.behindAll_cons, List.length_cons]
    rw [Nat.add_right_comm, Nat.add_assoc]

theorem momentsFrom_append (h : Leads mode index frame as ms after) (rest : List Action) :
    momentsFrom mode index frame (as ++ rest) =
      ms ++ momentsFrom mode (index + as.length) after rest := by
  induction h with
  | nil => rfl
  | cons hstop _ ih =>
    rw [List.cons_append, momentsFrom]
    simp only [hstop, ih, Option.isSome_none, Bool.false_eq_true, if_false, List.length_cons,
      List.cons_append]
    rw [Nat.add_right_comm, Nat.add_assoc]

end Leads

/-- A run that comes to an action has carried out all actions before it. -/
theorem exists_leads {i : Nat} {m : Moment} (h : (momentsFrom mode index frame as)[i]? = some m) :
    ∃ a ms, as[i]? = some a ∧ Leads mode index frame (as.take i) ms m.before ∧
      m.step = step mode (index + i) m.before a := by
  induction as generalizing index frame i with
  | nil => simp [momentsFrom] at h
  | cons a as ih =>
    rw [momentsFrom] at h
    cases i with
    | zero =>
      obtain rfl : ⟨frame, step mode index frame a⟩ = m := by simpa using h
      exact ⟨a, [], rfl, .nil, rfl⟩
    | succ i =>
      rw [List.getElem?_cons_succ] at h
      cases hstop : (step mode index frame a).stop with
      | some t => simp [hstop] at h
      | none =>
        simp only [hstop, Option.isSome_none, Bool.false_eq_true, if_false] at h
        obtain ⟨b, ms, hb, hleads, hstep⟩ := ih h
        refine ⟨b, _, hb, .cons hstop hleads, ?_⟩
        rw [hstep, Nat.add_right_comm, Nat.add_assoc]

/-- A run that carries out the first of its actions is their moments and the rest of the run. -/
theorem run_of_leads {state : GameState} {actions : List Action} {n : Nat} {ms : List Moment}
    {after : Frame} (hn : n ≤ actions.length)
    (h : Leads mode 0 { state } (actions.take n) ms after) :
    (moments mode state actions).take n = ms ∧
      run mode state actions = (runFrom mode n after (actions.drop n)).behindAll ms := by
  have hlength : (actions.take n).length = n := by rw [List.length_take, Nat.min_eq_left hn]
  constructor
  · have hmoments := h.momentsFrom_append (actions.drop n)
    rw [List.take_append_drop] at hmoments
    rw [moments, hmoments, ← hlength, ← h.length_eq, List.take_left]
  · have hrun := h.runFrom_append (actions.drop n)
    rw [List.take_append_drop, hlength, Nat.zero_add] at hrun
    exact hrun

end Interpreter

end SlideGraph
