import Mathlib.Tactic.Common
import SlideGraph.Interpreter

/-!
# What is seen of a run

Of a run, its log aside, one sees the state at the end, the slides it routes to and its report. A
*stretch* is what some of the actions of a run add to this: routes, and numbers of actions. The
stretches of a list of actions one after the other make up the whole run.
-/

namespace SlideGraph

/-- The slide of an effect that routes. -/
def Effect.route? : Effect → Option String
  | .logged _ => none
  | .routed slide => some slide

namespace Interpreter

/-! ### Stretches -/

/-- What a stretch of a run adds to the routes and the numbers of the whole run. -/
@[ext]
structure Stretch where
  routes : List String := []
  dispatched : Nat := 0
  skipped : Nat := 0
  ignored : Nat := 0
deriving DecidableEq, Repr

namespace Stretch

/-- One stretch after the other. -/
def append (v w : Stretch) : Stretch where
  routes := v.routes ++ w.routes
  dispatched := v.dispatched + w.dispatched
  skipped := v.skipped + w.skipped
  ignored := v.ignored + w.ignored

instance : Append Stretch := ⟨append⟩

@[simp] theorem routes_append (v w : Stretch) : (v ++ w).routes = v.routes ++ w.routes := rfl

@[simp] theorem dispatched_append (v w : Stretch) :
    (v ++ w).dispatched = v.dispatched + w.dispatched := rfl

@[simp] theorem skipped_append (v w : Stretch) : (v ++ w).skipped = v.skipped + w.skipped := rfl

@[simp] theorem ignored_append (v w : Stretch) : (v ++ w).ignored = v.ignored + w.ignored := rfl

@[simp] theorem append_nil (w : Stretch) : w ++ ({} : Stretch) = w := by
  ext1 <;> simp

theorem append_assoc (u v w : Stretch) : u ++ v ++ w = u ++ (v ++ w) := by
  ext1 <;> simp [List.append_assoc, Nat.add_assoc]

/-- One action that is carried out and leads nowhere. -/
def dispatch : Stretch := { dispatched := 1 }

/-- One action that is carried out and leads to a slide. -/
def route (slide : String) : Stretch := { routes := [slide], dispatched := 1 }

/-- Actions that are passed over. -/
def skip (n : Nat) : Stretch := { skipped := n }

/-- One action that means nothing. -/
def ignore : Stretch := { ignored := 1 }

@[simp] theorem skip_zero : skip 0 = {} := rfl

theorem skip_append_skip (m n : Nat) : skip m ++ skip n = skip (m + n) := by
  ext1 <;> simp [skip]

end Stretch

/-! ### Results -/

/-- What is seen of a run. -/
structure Result where
  state : GameState
  routes : List String
  report : Report
deriving DecidableEq

namespace Result

/-- The result of a run that ends for a reason after a stretch. -/
def ended (state : GameState) (t : Termination) (w : Stretch) : Result :=
  ⟨state, w.routes, ⟨t, w.dispatched, w.skipped, w.ignored⟩⟩

/-- The result of a run that begins with a stretch. -/
def after (r : Result) (w : Stretch) : Result where
  state := r.state
  routes := w.routes ++ r.routes
  report := ⟨r.report.termination, w.dispatched + r.report.dispatched,
    w.skipped + r.report.skipped, w.ignored + r.report.ignored⟩

@[simp] theorem after_nil (r : Result) : r.after {} = r := by
  simp [after]

theorem after_after (r : Result) (v w : Stretch) : (r.after w).after v = r.after (v ++ w) := by
  simp [after, List.append_assoc, Nat.add_assoc]

theorem ended_after (state : GameState) (t : Termination) (v w : Stretch) :
    (ended state t w).after v = ended state t (v ++ w) := rfl

end Result

/-! ### Runs -/

/-- What is seen of an outcome. -/
def Outcome.result (o : Outcome) : Result := ⟨o.state, o.effects.filterMap Effect.route?, o.report⟩

/-- What a step adds to a run. -/
def Step.stretch (s : Step) : Stretch :=
  let w : Stretch :=
    match s.tally with
    | .dispatched => .dispatch
    | .skipped => .skip 1
    | .ignored => .ignore
  { w with routes := s.effects.filterMap Effect.route? }

/-- Records of the log lead nowhere. -/
@[simp] theorem filterMap_route?_logged (rs : List LogRecord) :
    (rs.map Effect.logged).filterMap Effect.route? = [] := by
  simp [List.filterMap_map, Function.comp_def, Effect.route?]

theorem Outcome.result_behind (o : Outcome) (s : Step) :
    (o.behind s).result = o.result.after s.stretch := by
  cases h : s.tally <;>
    simp [behind, result, Result.after, Step.stretch, Tally.count, h, Nat.add_comm,
      Stretch.dispatch, Stretch.skip, Stretch.ignore]

theorem Outcome.result_ended (frame : Frame) (t : Termination) :
    (ended frame t).result = .ended frame.state t {} := rfl

/-- A run is its first step and, unless that ends it, the run of the other actions. -/
theorem result_runFrom_cons (mode : NestedSkip) (index : Nat) (frame : Frame) (a : Action)
    (as : List Action) :
    (runFrom mode index frame (a :: as)).result =
      match (step mode index frame a).stop with
      | some t =>
        .ended (step mode index frame a).frame.state t (step mode index frame a).stretch
      | none =>
        (runFrom mode (index + 1) (step mode index frame a).frame as).result.after
          (step mode index frame a).stretch := by
  rw [runFrom]
  cases (step mode index frame a).stop with
  | some t =>
    simp only [Outcome.result_behind, Outcome.result_ended, Result.ended_after,
      Stretch.append_nil]
  | none => simp only [Outcome.result_behind]

end Interpreter

end SlideGraph
