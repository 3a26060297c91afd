import SlideGraph.Proofs.Action.Reading
import SlideGraph.Proofs.Catalog.Issues
import SlideGraph.Proofs.Interpreter.Routes

/-!
# The actions that a run carries out

Not every action of a list is carried out: some mean nothing, some are passed over, and some come
too late. Those that are carried out are as many as the report says, and the run leads where the
routes among them lead. Of what it puts into the log nothing is a notice.
-/

namespace SlideGraph

/-- The slide of a route is the target that a scan of the action finds. -/
theorem Action.routes_of_instruction {a : Action} {i : Instruction} (h : a.instruction = .ok i) :
    i.routes = (Catalog.routeTarget? a).toList := by
  have hroute {slide : String} :
      Catalog.routeTarget? a = some slide ↔ i = .route slide := by
    rw [Catalog.routeTarget?_eq_some_iff, ← Action.instruction_eq_route_iff, h]
    exact ⟨fun h => Except.ok.inj h, fun h => congrArg _ h⟩
  cases ht : Catalog.routeTarget? a with
  | some slide =>
    rw [hroute.1 ht]
    rfl
  | none =>
    cases i with
    | route slide => simp [hroute.2 rfl] at ht
    | _ => rfl

/-- What a change puts into the log are details. -/
theorem GameState.level_of_mem_records {s : GameState} {c : Change} {r : LogRecord}
    (h : r ∈ s.records c) : r.level = .debug := by
  cases c with
  | addItem item =>
    rw [records] at h
    split at h
    · cases h
    · cases List.mem_singleton.1 h
      rfl
  | removeItem item =>
    rw [records] at h
    split at h
    · cases List.mem_singleton.1 h
      rfl
    · cases h
  | setFlag key value => cases h
  | toggleFlag key => cases h

namespace Interpreter

variable {mode : NestedSkip} {index : Nat} {frame : Frame} {a : Action}

/-! ### One action -/

/-- A step looks at its action, or passes it over and does nothing else. -/
theorem step_cases (mode : NestedSkip) (index : Nat) (frame : Frame) (a : Action) :
    (∃ frame', step mode index frame a = live index frame' a) ∨
      ∃ frame', step mode index frame a = { frame := frame', tally := .skipped } := by
  unfold step
  split
  · exact .inl ⟨frame, rfl⟩
  · split
    · exact .inl ⟨_, rfl⟩
    · exact .inr ⟨_, rfl⟩

theorem tally_require (index : Nat) (frame : Frame) (isMet : Bool) :
    (require index frame isMet).tally = .dispatched := by
  obtain ⟨state, labels, skip⟩ := frame
  cases isMet <;> cases labels <;> rfl

theorem tally_dispatch (index : Nat) (frame : Frame) (i : Instruction) :
    (dispatch index frame i).tally = .dispatched := by
  cases i with
  | setFlag key mode => cases mode <;> rfl
  | requireItem r => exact tally_require index frame _
  | requireFlag r => exact tally_require index frame _
  | endBlock =>
    obtain ⟨state, labels, skip⟩ := frame
    cases labels <;> rfl
  | _ => rfl

theorem routes_live_eq (index : Nat) (frame : Frame) (a : Action) :
    (live index frame a).stretch.routes =
      if (live index frame a).tally = .dispatched then (Catalog.routeTarget? a).toList else [] := by
  rw [routes_live, live]
  cases h : a.instruction with
  | error o => rfl
  | ok i =>
    rw [if_pos (tally_dispatch index frame i)]
    exact Action.routes_of_instruction h

/-- A step leads where its action says if it carries the action out, and nowhere otherwise. -/
theorem routes_step (mode : NestedSkip) (index : Nat) (frame : Frame) (a : Action) :
    (step mode index frame a).stretch.routes =
      if (step mode index frame a).tally = .dispatched then (Catalog.routeTarget? a).toList
      else [] := by
  rcases step_cases mode index frame a with ⟨frame', h⟩ | ⟨frame', h⟩
  · rw [h]
    exact routes_live_eq index frame' a
  · rw [h]
    rfl

/-! ### Lists of actions -/

/-- The actions that a run carries out, in order. -/
def dispatchedFrom (mode : NestedSkip) : Nat → Frame → List Action → List Action
  | _, _, [] => []
  | index, frame, a :: as =>
    let s := step mode index frame a
    let rest := if s.stop.isSome then [] else dispatchedFrom mode (index + 1) s.frame as
    if s.tally = .dispatched then a :: rest else rest

theorem dispatchedFrom_sublist (mode : NestedSkip) (index : Nat) (frame : Frame)
    (as : List Action) : (dispatchedFrom mode index frame as).Sublist as := by
  induction as generalizing index frame with
  | nil => exact .slnil
  | cons a as ih =>
    have hrest : (if (step mode index frame a).stop.isSome then []
        else dispatchedFrom mode (index + 1) (step mode index frame a).frame as).Sublist as := by
      split
      · exact List.nil_sublist as
      · exact ih _ _
    rw [dispatchedFrom]
    split
    · exact hrest.cons_cons a
    · exact hrest.cons a

theorem length_dispatchedFrom (mode : NestedSkip) (index : Nat) (frame : Frame)
    (as : List Action) :
    (dispatchedFrom mode index frame as).length =
      (runFrom mode index frame as).result.report.dispatched := by
  induction as generalizing index frame with
  | nil => rfl
  | cons a as ih =>
    rw [dispatchedFrom, result_runFrom_cons]
    cases (step mode index frame a).stop <;>
      cases htally : (step mode index frame a).tally <;>
        simp [Result.ended, Result.after, Step.stretch, htally, Stretch.dispatch, Stretch.skip,
          Stretch.ignore, ih, Nat.add_comm]

/-- A run leads where the routes lead that it carries out. -/
theorem routes_runFrom (mode : NestedSkip) (index : Nat) (frame : Frame) (as : List Action) :
    (runFrom mode index frame as).result.routes =
      (dispatchedFrom mode index frame as).filterMap Catalog.routeTarget? := by
  have hcons (a : Action) (as : List Action) : (a :: as).filterMap Catalog.routeTarget? =
      (Catalog.routeTarget? a).toList ++ as.filterMap Catalog.routeTarget? := by
    rw [List.filterMap_cons]
    cases Catalog.routeTarget? a <;> rfl
  induction as generalizing index frame with
  | nil => rfl
  | cons a as ih =>
    have hstep := routes_step mode index frame a
    rw [dispatchedFrom, result_runFrom_cons]
    cases (step mode index frame a).stop with
    | some t =>
      simp only [Result.ended, Option.isSome_some, if_true]
      rw [hstep]
      split
      · simp [hcons]
      · rfl
    | none =>
      simp only [Result.after, Option.isSome_none, Bool.false_eq_true, if_false]
      rw [hstep, ih]
      split
      · rw [hcons]
      · rfl

/-! ### The log of a run -/

/-- None of the records is a notice. -/
def Quiet (effects : List Effect) : Prop := ∀ r, .logged r ∈ effects → r.level ≠ .info

theorem quiet_change (frame : Frame) (c : GameState.Change) : Quiet (change frame c).effects := by
  intro r hr
  simp only [change, List.mem_map, Effect.logged.injEq, exists_eq_right] at hr
  simp [GameState.level_of_mem_records hr]

theorem quiet_dispatch (index : Nat) (frame : Frame) (i : Instruction) :
    Quiet (dispatch index frame i).effects := by
  cases i with
  | addItem item => exact quiet_change frame _
  | removeItem item => exact quiet_change frame _
  | setFlag key mode =>
    cases mode with
    | none => simp [Quiet, dispatch, LogRecord.debug]
    | some mode => exact quiet_change frame _
  | requireItem r => simp [Quiet, dispatch, effects_require]
  | requireFlag r => simp [Quiet, dispatch, effects_require]
  | endBlock =>
    obtain ⟨state, labels, skip⟩ := frame
    cases labels <;> simp [Quiet, dispatch, LogRecord.warn]
  | _ => simp [Quiet, dispatch]

theorem quiet_live (index : Nat) (frame : Frame) (a : Action) :
    Quiet (live index frame a).effects := by
  rw [live]
  cases a.instruction with
  | error o => cases o <;> simp [Quiet, oversightRecord, LogRecord.warn, LogRecord.debug]
  | ok i =>
    intro r hr
    rcases List.mem_cons.1 hr with hr | hr
    · cases hr
      simp [LogRecord.debug]
    · exact quiet_dispatch index frame i r hr

theorem quiet_step (mode : NestedSkip) (index : Nat) (frame : Frame) (a : Action) :
    Quiet (step mode index frame a).effects := by
  rcases step_cases mode index frame a with ⟨frame', h⟩ | ⟨frame', h⟩
  · rw [h]
    exact quiet_live index frame' a
  · simp [h, Quiet]

/-- A run warns and tells details, and leaves notices to others. -/
theorem quiet_runFrom (mode : NestedSkip) (index : Nat) (frame : Frame) (as : List Action) :
    Quiet (runFrom mode index frame as).effects := by
  induction as generalizing index frame with
  | nil => simp [Quiet, runFrom, Outcome.ended]
  | cons a as ih =>
    have hstep := quiet_step mode index frame a
    rw [runFrom]
    cases (step mode index frame a).stop with
    | some t => simpa [Outcome.behind, Outcome.ended] using hstep
    | none =>
      intro r hr
      rcases List.mem_append.1 hr with hr | hr
      · exact hstep r hr
      · exact ih _ _ r hr

end Interpreter

end SlideGraph
