import SlideGraph.Proofs.GameState.Change
import SlideGraph.Proofs.Interpreter.Dispatched
import SlideGraph.Proofs.Interpreter.Skip

/-!
# What one action does

An instruction changes the state, opens or closes a block, leads somewhere, begins a skip or ends
the run. Each of these is said here by one equation, so that no other proof has to look into
`dispatch`: of the state only the changes and the failed requirements matter, of the place only the
end of the run, and the log is not part of it.
-/

namespace SlideGraph

/-- What an instruction changes in the game state. -/
def Instruction.changes : Instruction → List GameState.Change
  | .addItem item => [.addItem item]
  | .removeItem item => [.removeItem item]
  | .setFlag key (some .show) => [.setFlag key true]
  | .setFlag key (some .hide) => [.setFlag key false]
  | .setFlag key (some .toggle) => [.toggleFlag key]
  | _ => []

/-- The open blocks behind an instruction. -/
def Instruction.blocks (labels : List String) : Instruction → List String
  | .startBlock label => label :: labels
  | .endBlock => labels.tail
  | _ => labels

namespace Interpreter

variable {mode : NestedSkip} {index : Nat} {frame : Frame} {a : Action} {i : Instruction}

/-! ### Instructions -/

theorem frame_require (index : Nat) (state : GameState) (labels : List String) (isMet : Bool) :
    (require index ⟨state, labels, none⟩ isMet).frame =
      ⟨state, labels, if isMet then none else labels.head?.map (Skip.mk · 0)⟩ := by
  cases isMet <;> cases labels <;> rfl

theorem stop_require (index : Nat) (state : GameState) (labels : List String) (isMet : Bool) :
    (require index ⟨state, labels, none⟩ isMet).stop =
      if isMet = false ∧ labels = [] then some (.requirementFailed index) else none := by
  cases isMet <;> cases labels <;> rfl

theorem frame_dispatch (index : Nat) (state : GameState) (labels : List String)
    (i : Instruction) :
    (dispatch index ⟨state, labels, none⟩ i).frame =
      ⟨state.applyAll i.changes, i.blocks labels,
        if i.fails state then labels.head?.map (Skip.mk · 0) else none⟩ := by
  cases i with
  | setFlag key mode => rcases mode with _ | _ | _ | _ <;> rfl
  | requireItem r =>
    rw [dispatch, frame_require]
    cases h : r.holds (state.hasItem r.key) <;>
      simp [Instruction.changes, Instruction.blocks, Instruction.fails, h]
  | requireFlag r =>
    rw [dispatch, frame_require]
    cases h : r.holds (state.flag r.key) <;>
      simp [Instruction.changes, Instruction.blocks, Instruction.fails, h]
  | endBlock => cases labels <;> rfl
  | _ => rfl

theorem stop_dispatch (index : Nat) (state : GameState) (labels : List String)
    (i : Instruction) :
    (dispatch index ⟨state, labels, none⟩ i).stop =
      if i = .exit then some (.exited index)
      else if i.fails state = true ∧ labels = [] then some (.requirementFailed index)
      else none := by
  cases i with
  | setFlag key mode => rcases mode with _ | _ | _ | _ <;> rfl
  | requireItem r => simp [dispatch, stop_require, Instruction.fails]
  | requireFlag r => simp [dispatch, stop_require, Instruction.fails]
  | endBlock => cases labels <;> rfl
  | _ => rfl

/-! ### Actions -/

/-- A skip ends with the end of a block. -/
theorem closes_of_resumes {skip : Skip} (h : skip.meet mode a = .resumes) :
    a.closes skip.label = true := by
  unfold Skip.meet at h
  split at h
  · cases h
  · split at h
    · assumption
    · cases h

/-- While nothing is skipped, a step looks at its action. -/
theorem step_unskipped (mode : NestedSkip) (index : Nat) (state : GameState)
    (labels : List String) (a : Action) :
    step mode index ⟨state, labels, none⟩ a = live index ⟨state, labels, none⟩ a := rfl

theorem live_of_error {o : Oversight} (h : a.instruction = .error o) (index : Nat)
    (frame : Frame) :
    live index frame a =
      { frame, tally := .ignored, effects := [.logged (oversightRecord index o)] } := by
  rw [live, h]

/-- An action that means something is dispatched, and the log tells of it first. -/
theorem live_of_ok (h : a.instruction = .ok i) (index : Nat) (frame : Frame) :
    live index frame a =
      { dispatch index frame i with
        effects := .logged (dispatchRecord index a) :: (dispatch index frame i).effects } := by
  rw [live, h]
  rfl

theorem tally_live_of_ok (h : a.instruction = .ok i) (index : Nat) (frame : Frame) :
    (live index frame a).tally = .dispatched := by
  rw [live_of_ok h]
  exact tally_dispatch index frame i

/-- An action adds to a run what its instruction says, whatever the run knows. -/
theorem stretch_live_of_ok (h : a.instruction = .ok i) (index : Nat) (frame : Frame) :
    (live index frame a).stretch = { routes := i.routes, dispatched := 1 } := by
  have hroutes := routes_live index frame a
  rw [h] at hroutes
  ext1
  · exact hroutes
  all_goals simp [Step.stretch, tally_live_of_ok h, Stretch.dispatch]

/-! ### The state -/

/-- A step leaves the state as it is, or changes it as the instruction of its action says. -/
theorem state_step (mode : NestedSkip) (index : Nat) (frame : Frame) (a : Action) :
    (step mode index frame a).frame.state = frame.state ∨
      ∃ i, a.instruction = .ok i ∧
        (step mode index frame a).frame.state = frame.state.applyAll i.changes := by
  obtain ⟨state, labels, skip⟩ := frame
  have hlive : (live index ⟨state, labels, none⟩ a).frame.state = state ∨
      ∃ i, a.instruction = .ok i ∧
        (live index ⟨state, labels, none⟩ a).frame.state = state.applyAll i.changes := by
    cases hi : a.instruction with
    | error o =>
      rw [live_of_error hi]
      exact .inl rfl
    | ok i =>
      rw [live_of_ok hi]
      exact .inr ⟨i, rfl, by simp only [frame_dispatch]⟩
  cases skip with
  | none =>
    rw [step_unskipped]
    exact hlive
  | some skip =>
    simp only [step]
    split
    · exact hlive
    · exact .inl rfl

/-- What the instructions of a list keep is kept by its runs. -/
theorem runFrom_invariant {P : GameState → Prop} {as : List Action}
    (hkeep : ∀ a ∈ as, ∀ i, a.instruction = .ok i → ∀ s, P s → P (s.applyAll i.changes))
    (h : P frame.state) : P (runFrom mode index frame as).state := by
  induction as generalizing index frame with
  | nil => exact h
  | cons a as ih =>
    have hstep : P (step mode index frame a).frame.state := by
      rcases state_step mode index frame a with hs | ⟨i, hi, hs⟩
      · rwa [hs]
      · rw [hs]
        exact hkeep a List.mem_cons_self i hi frame.state h
    rw [runFrom]
    cases (step mode index frame a).stop with
    | some t => exact hstep
    | none => exact ih (fun b hb => hkeep b (List.mem_cons_of_mem a hb)) hstep

end Interpreter

end SlideGraph
