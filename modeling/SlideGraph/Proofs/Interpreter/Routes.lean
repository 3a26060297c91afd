import SlideGraph.Proofs.Interpreter.Stretch

/-!
# The routes of a run

A run routes only where one of its actions says so.
-/

namespace SlideGraph

/-- Where an instruction leads. -/
def Instruction.routes : Instruction → List String
  | .route slide => [slide]
  | _ => []

namespace Interpreter

theorem effects_require (index : Nat) (frame : Frame) (isMet : Bool) :
    (require index frame isMet).effects = [] := by
  obtain ⟨state, labels, skip⟩ := frame
  cases isMet <;> cases labels <;> rfl

/-- Of all instructions only a route leads anywhere. -/
theorem routes_dispatch (index : Nat) (frame : Frame) (i : Instruction) :
    (dispatch index frame i).effects.filterMap Effect.route? = i.routes := by
  cases i with
  | route slide => rfl
  | addItem item => exact filterMap_route?_logged _
  | removeItem item => exact filterMap_route?_logged _
  | setFlag key mode =>
    cases mode with
    | none => rfl
    | some mode => exact filterMap_route?_logged _
  | requireItem r =>
    rw [dispatch, effects_require]
    rfl
  | requireFlag r =>
    rw [dispatch, effects_require]
    rfl
  | startBlock label => rfl
  | endBlock =>
    obtain ⟨state, labels, skip⟩ := frame
    cases labels <;> rfl
  | exit => rfl

theorem routes_live (index : Nat) (frame : Frame) (a : Action) :
    (live index frame a).stretch.routes =
      match a.instruction with
      | .error _ => []
      | .ok i => i.routes := by
  simp only [live, Step.stretch]
  cases a.instruction with
  | error o => rfl
  | ok i => exact routes_dispatch index frame i

/-- A step leads where its action says, or nowhere. -/
theorem mem_routes_step {mode : NestedSkip} {index : Nat} {frame : Frame} {a : Action}
    {slide : String} (h : slide ∈ (step mode index frame a).stretch.routes) :
    a.instruction = .ok (.route slide) := by
  have hlive {frame : Frame} (h : slide ∈ (live index frame a).stretch.routes) :
      a.instruction = .ok (.route slide) := by
    rw [routes_live] at h
    cases hi : a.instruction with
    | error o => simp [hi] at h
    | ok i => cases i <;> simp [hi, Instruction.routes] at h ⊢; exact h.symm
  unfold step at h
  split at h
  · exact hlive h
  · split at h
    · exact hlive h
    · simp [Step.stretch] at h

/-- A run leads only where its actions say. -/
theorem mem_routes_runFrom {mode : NestedSkip} {index : Nat} {frame : Frame} {as : List Action}
    {slide : String} (h : slide ∈ (runFrom mode index frame as).result.routes) :
    ∃ a ∈ as, a.instruction = .ok (.route slide) := by
  induction as generalizing index frame with
  | nil => simp [runFrom, Outcome.result_ended, Result.ended] at h
  | cons a as ih =>
    rw [result_runFrom_cons] at h
    split at h
    · exact ⟨a, List.mem_cons_self, mem_routes_step h⟩
    · rcases List.mem_append.1 h with h | h
      · exact ⟨a, List.mem_cons_self, mem_routes_step h⟩
      · obtain ⟨b, hb, hroute⟩ := ih h
        exact ⟨b, List.mem_cons_of_mem a hb, hroute⟩

end Interpreter

end SlideGraph
