import SlideGraph.Proofs.Interpreter.Idle
import SlideGraph.Proofs.Interpreter.Modes

/-!
# Runs in which no requirement fails

As long as no requirement fails, the marks of blocks have no meaning: a run is what its
instructions do one after the other, up to the first exit. So the marks can be left out, whether
they are balanced or not.
-/

namespace SlideGraph

/-- Whether the first token of an action names the start or the end of a block. -/
def Action.isMarker (a : Action) : Bool :=
  a.opcodeToken == some Opcode.startBlock.name || a.opcodeToken == some Opcode.endBlock.name

/-- Whether an instruction begins or ends a block. -/
def Instruction.isMark : Instruction → Bool
  | .startBlock _ | .endBlock => true
  | _ => false

/-- A mark changes no state, leads nowhere and cannot fail. -/
theorem Instruction.of_isMark {i : Instruction} (h : i.isMark = true) :
    i.changes = [] ∧ i.routes = [] ∧ ∀ state, i.fails state = false := by
  cases i with
  | startBlock label | endBlock => exact ⟨rfl, rfl, fun _ => rfl⟩
  | _ => cases h

/-- Whether an action ends the run. -/
def Action.isExit (a : Action) : Bool := a.instruction.toOption == some .exit

theorem Action.isMarker_of_instruction {a : Action} {i : Instruction}
    (h : a.instruction = .ok i) : a.isMarker = i.isMark := by
  obtain ⟨operands, htokens, -⟩ := instruction_eq_ok_iff.1 h
  rw [isMarker, opcodeToken, htokens]
  cases i <;> rfl

theorem Action.isExit_iff {a : Action} : a.isExit = true ↔ a.instruction = .ok .exit := by
  rw [isExit, beq_iff_eq]
  cases a.instruction with
  | error o => simp [Except.toOption]
  | ok i => simp [Except.toOption]

/-- No mark ends the run. -/
theorem Action.isExit_of_isMarker {a : Action} (h : a.isMarker = true) : a.isExit = false := by
  refine Bool.eq_false_iff.2 fun hexit => ?_
  rw [isMarker_of_instruction (isExit_iff.1 hexit)] at h
  cases h

namespace Interpreter

variable {mode : NestedSkip} {index : Nat} {frame : Frame} {a : Action} {as : List Action}
  {i : Instruction} {state : GameState} {labels : List String}

/-! ### One instruction after the other -/

/-- The instructions of a list in order, up to the first exit. -/
def instructions (as : List Action) : List Instruction :=
  (as.filterMap (·.instruction.toOption)).takeWhile (· ≠ .exit)

theorem instructions_of_error {o : Oversight} (h : a.instruction = .error o) (as : List Action) :
    instructions (a :: as) = instructions as := by
  simp [instructions, h, Except.toOption]

theorem instructions_of_exit (h : a.instruction = .ok .exit) (as : List Action) :
    instructions (a :: as) = [] := by
  simp [instructions, h, Except.toOption]

theorem instructions_of_ok (h : a.instruction = .ok i) (hexit : i ≠ .exit) (as : List Action) :
    instructions (a :: as) = i :: instructions as := by
  simp [instructions, h, hexit, Except.toOption]

/-- Every requirement is met in the state to which the instructions before it lead. -/
def AllMet (state : GameState) : List Instruction → Prop
  | [] => True
  | i :: is => i.fails state = false ∧ AllMet (state.applyAll i.changes) is

instance decidableAllMet (state : GameState) :
    (is : List Instruction) → Decidable (AllMet state is)
  | [] => inferInstanceAs (Decidable True)
  | i :: is =>
    have := decidableAllMet (state.applyAll i.changes) is
    inferInstanceAs (Decidable (_ ∧ _))

/-- Without its marks a list has the instructions that are no marks. -/
theorem instructions_filter (as : List Action) :
    instructions (as.filter (!·.isMarker)) = (instructions as).filter (!·.isMark) := by
  induction as with
  | nil => rfl
  | cons a as ih =>
    cases hi : a.instruction with
    | error o =>
      rw [instructions_of_error hi, List.filter_cons]
      split
      · rw [instructions_of_error hi, ih]
      · exact ih
    | ok i =>
      have hmark := Action.isMarker_of_instruction hi
      by_cases hexit : i = .exit
      · subst hexit
        rw [instructions_of_exit hi, List.filter_cons_of_pos (by simp [hmark, Instruction.isMark]),
          instructions_of_exit hi, List.filter_nil]
      · rw [instructions_of_ok hi hexit, List.filter_cons, List.filter_cons, hmark]
        split
        · rw [instructions_of_ok hi hexit, ih]
        · exact ih

theorem allMet_filter (state : GameState) (is : List Instruction) :
    AllMet state (is.filter (!·.isMark)) ↔ AllMet state is := by
  induction is generalizing state with
  | nil => rfl
  | cons i is ih =>
    rw [List.filter_cons]
    cases hmark : i.isMark with
    | true =>
      obtain ⟨hchanges, -, hfails⟩ := Instruction.of_isMark hmark
      simpa [AllMet, hchanges, hfails state] using ih state
    | false => simp [AllMet, ih]

/-- What the marks do not add is the same without them. -/
theorem flatMap_filter_isMark {α : Type} {f : Instruction → List α}
    (hf : ∀ i, i.isMark = true → f i = []) (is : List Instruction) :
    (is.filter (!·.isMark)).flatMap f = is.flatMap f := by
  induction is with
  | nil => rfl
  | cons i is ih =>
    rw [List.filter_cons]
    cases hmark : i.isMark with
    | true => simpa [hf i hmark] using ih
    | false => simp [ih]

/-! ### Requirements that are met -/

/-- None of the requirements that the run of the rest of a list carries out fails. -/
def UnhinderedFrom (mode : NestedSkip) (index : Nat) (frame : Frame) (as : List Action) : Prop :=
  ∀ (k : Nat) (a : Action) (here : Moment), as[k]? = some a →
    (momentsFrom mode index frame as)[k]? = some here → here.step.tally = .dispatched →
    ¬a.Fails here.before.state

/-- None of the requirements that the run of a list carries out fails. -/
def Unhindered (mode : NestedSkip) (state : GameState) (actions : List Action) : Prop :=
  UnhinderedFrom mode 0 { state } actions

theorem unhinderedFrom_cons :
    UnhinderedFrom mode index frame (a :: as) ↔
      ((step mode index frame a).tally = .dispatched → ¬a.Fails frame.state) ∧
        ((step mode index frame a).stop = none →
          UnhinderedFrom mode (index + 1) (step mode index frame a).frame as) := by
  unfold UnhinderedFrom
  rw [momentsFrom]
  constructor
  · intro h
    refine ⟨h 0 a _ rfl rfl, fun hstop k b here hb hhere => h (k + 1) b here hb ?_⟩
    simpa [hstop] using hhere
  · rintro ⟨hfirst, hrest⟩ k b here hb hhere
    cases k with
    | zero =>
      obtain rfl : a = b := Option.some.inj hb
      obtain rfl : _ = here := Option.some.inj hhere
      exact hfirst
    | succ k =>
      cases hstop : (step mode index frame a).stop with
      | none => exact hrest hstop k b here hb (by simpa [hstop] using hhere)
      | some t => simp [hstop] at hhere

/-- An instruction that neither ends the run nor fails is carried out, and no skip begins. -/
theorem step_of_met (hi : a.instruction = .ok i) (hexit : i ≠ .exit)
    (hmet : i.fails state = false) (mode : NestedSkip) (index : Nat) (labels : List String) :
    (step mode index ⟨state, labels, none⟩ a).frame =
        ⟨state.applyAll i.changes, i.blocks labels, none⟩ ∧
      (step mode index ⟨state, labels, none⟩ a).stop = none := by
  rw [step_unskipped, live_of_ok hi]
  simp [frame_dispatch, stop_dispatch, hmet, hexit]

/-- Whether no requirement fails is seen from the instructions alone: it depends on neither mode nor
open blocks. -/
theorem unhinderedFrom_iff :
    UnhinderedFrom mode index ⟨state, labels, none⟩ as ↔ AllMet state (instructions as) := by
  induction as generalizing index state labels with
  | nil => simp [UnhinderedFrom, instructions, AllMet]
  | cons a as ih =>
    rw [unhinderedFrom_cons]
    cases hi : a.instruction with
    | error o =>
      have hfails : ¬a.Fails state := by
        rintro ⟨i, hok, -⟩
        rw [hi] at hok
        cases hok
      rw [instructions_of_error hi, step_unskipped, live_of_error hi]
      simp [hfails, ih]
    | ok i =>
      have hfails : a.Fails state ↔ i.fails state = true := by
        simp [Action.Fails, hi]
      have htally : (step mode index ⟨state, labels, none⟩ a).tally = .dispatched :=
        tally_live_of_ok hi index _
      simp only [htally, true_implies, hfails, Bool.not_eq_true]
      by_cases hexit : i = .exit
      · subst hexit
        rw [instructions_of_exit hi, step_unskipped, live_of_ok hi]
        simp [AllMet, Instruction.fails, stop_dispatch]
      · rw [instructions_of_ok hi hexit, AllMet]
        refine and_congr_right fun hmet => ?_
        obtain ⟨hframe, hstop⟩ := step_of_met hi hexit hmet mode index labels
        simp [hframe, hstop, ih]

/-- Without requirements none can fail. -/
theorem unhindered_of_no_requirement (h : ∀ a ∈ as, ¬a.IsRequirement) (mode : NestedSkip)
    (state : GameState) : Unhindered mode state as := by
  rintro k a here ha - - ⟨i, hi, hfails⟩
  refine h a (List.mem_of_getElem? ha) ?_
  cases i with
  | requireItem r => exact ⟨r, .inl hi⟩
  | requireFlag r => exact ⟨r, .inr hi⟩
  | _ => cases hfails

/-! ### Runs -/

/-- The end of a run in which no requirement fails: the first exit, if there is one. -/
def exitFrom (index : Nat) (as : List Action) : Termination :=
  (as.findIdx? Action.isExit).elim .completed fun k => .exited (index + k)

/-- What is seen of a run of the rest of a list in which no requirement fails. -/
structure Straight (index : Nat) (state : GameState) (as : List Action) (r : Result) : Prop where
  state_eq : r.state = state.applyAll ((instructions as).flatMap Instruction.changes)
  routes : r.routes = (instructions as).flatMap Instruction.routes
  skipped : r.report.skipped = 0
  termination : r.report.termination = exitFrom index as

theorem exitFrom_cons (h : a.isExit = false) (index : Nat) (as : List Action) :
    exitFrom index (a :: as) = exitFrom (index + 1) as := by
  simp only [exitFrom, List.findIdx?_cons, h, Bool.false_eq_true, if_false]
  cases as.findIdx? Action.isExit with
  | none => rfl
  | some k => simp [Nat.add_assoc, Nat.add_comm 1 k]

theorem Straight.exit (h : a.instruction = .ok .exit) (index : Nat) (state : GameState)
    (as : List Action) :
    Straight index state (a :: as) (.ended state (.exited index) .dispatch) := by
  have hexit : a.isExit = true := Action.isExit_iff.2 h
  refine ⟨?_, ?_, rfl, ?_⟩
  · rw [instructions_of_exit h]
    rfl
  · rw [instructions_of_exit h]
    rfl
  · simp [exitFrom, List.findIdx?_cons, hexit, Result.ended]

/-- One more action in front that means nothing. -/
theorem Straight.ignore {o : Oversight} {r : Result} (h : Straight (index + 1) state as r)
    (ha : a.instruction = .error o) : Straight index state (a :: as) (r.after .ignore) := by
  have hexit : a.isExit = false := by simp [Action.isExit, ha, Except.toOption]
  refine ⟨?_, ?_, ?_, ?_⟩
  · rw [instructions_of_error ha]
    exact h.state_eq
  · rw [instructions_of_error ha]
    exact h.routes
  · simp [Result.after, Stretch.ignore, h.skipped]
  · rw [exitFrom_cons hexit]
    exact h.termination

/-- One more instruction in front. -/
theorem Straight.dispatch {r : Result}
    (h : Straight (index + 1) (state.applyAll i.changes) as r) (ha : a.instruction = .ok i)
    (hi : i ≠ .exit) :
    Straight index state (a :: as) (r.after { routes := i.routes, dispatched := 1 }) := by
  have hexit : a.isExit = false := by simp [Action.isExit, ha, hi, Except.toOption]
  refine ⟨?_, ?_, ?_, ?_⟩
  · rw [instructions_of_ok ha hi, List.flatMap_cons, GameState.applyAll_append]
    exact h.state_eq
  · rw [instructions_of_ok ha hi, List.flatMap_cons, ← h.routes]
    rfl
  · simp [Result.after, h.skipped]
  · rw [exitFrom_cons hexit]
    exact h.termination

/-- While no requirement fails, a run is its instructions, one after the other. -/
theorem straight_runFrom (h : AllMet state (instructions as)) (mode : NestedSkip) (index : Nat)
    (labels : List String) :
    Straight index state as (runFrom mode index ⟨state, labels, none⟩ as).result := by
  induction as generalizing index state labels with
  | nil => exact ⟨rfl, rfl, rfl, rfl⟩
  | cons a as ih =>
    rw [result_runFrom_cons]
    cases hi : a.instruction with
    | error o =>
      rw [instructions_of_error hi] at h
      rw [step_unskipped, live_of_error hi]
      exact (ih h (index + 1) labels).ignore hi
    | ok i =>
      have hstretch := stretch_live_of_ok hi index ⟨state, labels, none⟩
      by_cases hexit : i = .exit
      · subst hexit
        rw [step_unskipped, live_of_ok hi]
        exact .exit hi index state as
      · rw [instructions_of_ok hi hexit, AllMet] at h
        obtain ⟨hframe, hstop⟩ := step_of_met hi hexit h.1 mode index labels
        rw [hframe, hstop, step_unskipped, hstretch]
        exact (ih h.2 (index + 1) (i.blocks labels)).dispatch hi hexit

/-! ### Leaving the marks out -/

/-- The first exit of a list without its marks has moved up by the marks in front of it. -/
theorem findIdx?_isExit_filter (as : List Action) :
    (as.filter (!·.isMarker)).findIdx? Action.isExit =
      (as.findIdx? Action.isExit).map fun k => k - (as.take k).countP (·.isMarker) := by
  induction as with
  | nil => rfl
  | cons a as ih =>
    rw [List.filter_cons, List.findIdx?_cons]
    cases hexit : a.isExit with
    | true =>
      have hmarker : a.isMarker = false := by
        refine Bool.eq_false_iff.2 fun hmarker => ?_
        rw [Action.isExit_of_isMarker hmarker] at hexit
        cases hexit
      simp [hmarker, List.findIdx?_cons, hexit]
    | false =>
      have hle (k : Nat) : (as.take k).countP (·.isMarker) ≤ k :=
        List.countP_le_length.trans (List.length_take_le k as)
      cases hmarker : a.isMarker with
      | true =>
        simp only [Bool.not_true, Bool.false_eq_true, if_false, ih, Option.map_map]
        congr 1
        funext k
        simp only [Function.comp_apply, List.take_succ_cons, List.countP_cons, hmarker, if_true]
        omega
      | false =>
        simp only [Bool.not_false, if_true, List.findIdx?_cons, hexit, Bool.false_eq_true,
          if_false, ih, Option.map_map]
        congr 1
        funext k
        have := hle k
        simp only [Function.comp_apply, List.take_succ_cons, List.countP_cons, hmarker,
          Bool.false_eq_true, if_false]
        omega

/-- Until a requirement fails, the marks of blocks have no meaning. If none fails, then none fails
without the marks, nothing is skipped with them or without, both runs end in the same state, by the
same routes and in the same way, and an exit stands as many places earlier as there are marks before
it. The state and the routes are those of the instructions one after the other, up to the first
exit. Where a list has no requirements none can fail. -/
theorem marker_rules (mode : NestedSkip) (state : GameState) (actions : List Action) :
    ((∀ a ∈ actions, ¬a.IsRequirement) → Unhindered mode state actions) ∧
    (Unhindered mode state actions →
      let bare := actions.filter (!·.isMarker)
      let whole := run mode state actions
      let part := run mode state bare
      Unhindered mode state bare ∧ whole.report.skipped = 0 ∧ part.report.skipped = 0 ∧
        part.state = whole.state ∧ part.result.routes = whole.result.routes ∧
        part.report.termination =
          whole.report.termination.moved
            (fun i => i - (actions.take i).countP (·.isMarker)) ∧
        whole.state = state.applyAll ((instructions actions).flatMap Instruction.changes) ∧
        whole.result.routes = (instructions actions).flatMap Instruction.routes) := by
  refine ⟨fun h => unhindered_of_no_requirement h mode state, ?_⟩
  intro h bare whole part
  have hmet : AllMet state (instructions actions) := unhinderedFrom_iff.1 h
  have hmet' : AllMet state (instructions bare) := by
    rw [instructions_filter, allMet_filter]
    exact hmet
  have hwhole : Straight 0 state actions whole.result := straight_runFrom hmet mode 0 []
  have hpart : Straight 0 state bare part.result := straight_runFrom hmet' mode 0 []
  have hchanges : (instructions bare).flatMap Instruction.changes =
      (instructions actions).flatMap Instruction.changes := by
    rw [instructions_filter]
    exact flatMap_filter_isMark (fun i hi => (Instruction.of_isMark hi).1) _
  have hroutes : (instructions bare).flatMap Instruction.routes =
      (instructions actions).flatMap Instruction.routes := by
    rw [instructions_filter]
    exact flatMap_filter_isMark (fun i hi => (Instruction.of_isMark hi).2.1) _
  refine ⟨unhinderedFrom_iff.2 hmet', hwhole.skipped, hpart.skipped, ?_, ?_, ?_,
    hwhole.state_eq, hwhole.routes⟩
  · have hstate := hpart.state_eq
    rw [hchanges, ← hwhole.state_eq] at hstate
    exact hstate
  · rw [hpart.routes, hroutes, hwhole.routes]
  · have htermination : whole.report.termination = exitFrom 0 actions := hwhole.termination
    have htermination' : part.report.termination = exitFrom 0 bare := hpart.termination
    rw [htermination, htermination', exitFrom, exitFrom, findIdx?_isExit_filter]
    cases actions.findIdx? Action.isExit <;> simp [Termination.moved]

/-- Marks that do not belong together: an end and a start without label before the hall, which is
never left, and the end of a desk inside. -/
def unpaired : List Action := [⟨["EndBlock", "hall"]⟩, ⟨["StartBlock"]⟩, ⟨["StartBlock", "hall"]⟩,
  ⟨["SetGameState", "lamp", "toggle"]⟩, ⟨["RequireGameState", "lamp"]⟩, ⟨["EndBlock", "desk"]⟩,
  ⟨["Route", "roof"]⟩, ⟨["Exit"]⟩, ⟨["AddItem", "rope"]⟩]

/-- The lamp is on when it is asked for. Without the four marks the exit is met four places
earlier. Past the requirement there is none that could fail. -/
theorem marker_rules_unpaired :
    Unhindered .labelMatch .empty unpaired ∧
      (run .labelMatch .empty unpaired).report = ⟨.exited 7, 7, 0, 1⟩ ∧
      (run .labelMatch .empty (unpaired.filter (!·.isMarker))).report.termination = .exited 3 ∧
      (run .labelMatch .empty (unpaired.filter (!·.isMarker))).state =
        (run .labelMatch .empty unpaired).state ∧
      (run .labelMatch .empty unpaired).result.routes = ["roof"] ∧
      (∀ a ∈ unpaired.drop 5, ¬a.IsRequirement) ∧
      Unhindered .labelMatch .empty (unpaired.drop 5) := by
  have hmet : Unhindered .labelMatch .empty unpaired := unhinderedFrom_iff.2 (by decide)
  have hreport : (run .labelMatch .empty unpaired).report = ⟨.exited 7, 7, 0, 1⟩ := by decide
  obtain ⟨-, -, -, hstate, -, htermination, -, hroutes⟩ :=
    (marker_rules .labelMatch .empty unpaired).2 hmet
  have hnone : ∀ a ∈ unpaired.drop 5, ¬a.IsRequirement := by
    rintro a ha ⟨r, hr⟩
    simp only [unpaired, List.drop_succ_cons, List.drop_zero, List.mem_cons, List.not_mem_nil,
      or_false] at ha
    rcases ha with rfl | rfl | rfl | rfl <;> rcases hr with hr | hr <;> cases hr
  rw [hreport] at htermination
  exact ⟨hmet, hreport, htermination, hstate, hroutes, hnone,
    (marker_rules .labelMatch .empty (unpaired.drop 5)).1 hnone⟩

end Interpreter

end SlideGraph
