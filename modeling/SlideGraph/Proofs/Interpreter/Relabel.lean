import Mathlib.Logic.Equiv.Basic
import SlideGraph.Proofs.Interpreter.Straight

/-!
# Other labels for blocks

A label has no meaning but to be the same as another one or not. If the labels of a list are
renamed, each mark of a block with its label, and no two labels become one, then the run does the
same at every action: the labels of its open blocks are the new ones, and so is the label to whose
end it skips.
-/

namespace SlideGraph

variable {f : String → String}

/-! ### Actions -/

/-- Rename the label of an action that begins or ends a block, if it has one. -/
def Action.relabel (f : String → String) (a : Action) : Action :=
  if a.isMarker then ⟨a.tokens.modify 1 f⟩ else a

/-- Rename the label of an instruction that begins a block. -/
def Instruction.relabel (f : String → String) : Instruction → Instruction
  | .startBlock label => .startBlock (f label)
  | i => i

theorem Instruction.relabel_eq_self {i : Instruction} (h : i.isMark = false) :
    i.relabel f = i := by
  cases i with
  | startBlock label => cases h
  | _ => rfl

namespace Action

theorem relabel_eq_self {a : Action} (h : a.isMarker = false) : a.relabel f = a := by
  rw [relabel, h]
  rfl

theorem isMarker_iff {a : Action} : a.isMarker = true ↔
    ∃ o more, (o = Opcode.startBlock ∨ o = .endBlock) ∧ a.tokens = o.name :: more := by
  obtain ⟨_ | ⟨token, more⟩⟩ := a <;> simp [isMarker, opcodeToken]

/-- An action with another label is read as the instruction with that label. One that means nothing
means nothing still, and for the same reason. -/
theorem instruction_relabel (f : String → String) (a : Action) :
    (a.relabel f).instruction = a.instruction.map (Instruction.relabel f) := by
  cases h : a.isMarker with
  | false =>
    rw [relabel_eq_self h]
    cases hi : a.instruction with
    | error o => rfl
    | ok i =>
      rw [isMarker_of_instruction hi] at h
      rw [Except.map, Instruction.relabel_eq_self h]
  | true =>
    obtain ⟨o, more, ho, htokens⟩ := isMarker_iff.1 h
    obtain ⟨_⟩ := a
    subst htokens
    rw [relabel, if_pos h]
    rcases ho with rfl | rfl <;> cases more <;> rfl

theorem opens_relabel (hf : Function.Injective f) (a : Action) (label : String) :
    (a.relabel f).opens (f label) = a.opens label := by
  rw [Bool.eq_iff_iff, opens_iff, opens_iff, instruction_relabel]
  cases a.instruction with
  | error o => simp [Except.map]
  | ok i => cases i <;> simp [Except.map, Instruction.relabel, hf.eq_iff]

theorem closes_relabel (hf : Function.Injective f) (a : Action) (label : String) :
    (a.relabel f).closes (f label) = a.closes label := by
  cases h : a.isMarker with
  | false =>
    have hnone (label : String) : a.closes label = false := by
      refine Bool.eq_false_iff.2 fun hcloses => ?_
      rw [isMarker_of_instruction (instruction_of_closes hcloses)] at h
      cases h
    rw [relabel_eq_self h, hnone, hnone]
  | true =>
    obtain ⟨o, more, ho, htokens⟩ := isMarker_iff.1 h
    obtain ⟨_⟩ := a
    subst htokens
    rw [relabel, if_pos h, Bool.eq_iff_iff, closes_iff, closes_iff]
    cases more <;> simp [hf.eq_iff]

end Action

/-! ### What an instruction does -/

namespace Instruction

theorem changes_relabel (f : String → String) (i : Instruction) :
    (i.relabel f).changes = i.changes := by cases i <;> rfl

theorem routes_relabel (f : String → String) (i : Instruction) :
    (i.relabel f).routes = i.routes := by cases i <;> rfl

theorem fails_relabel (f : String → String) (i : Instruction) (state : GameState) :
    (i.relabel f).fails state = i.fails state := by cases i <;> rfl

theorem relabel_eq_exit_iff {i : Instruction} : i.relabel f = .exit ↔ i = .exit := by
  cases i <;> simp [relabel]

theorem blocks_relabel (f : String → String) (i : Instruction) (labels : List String) :
    (i.relabel f).blocks (labels.map f) = (i.blocks labels).map f := by
  cases i with
  | endBlock => exact List.map_tail.symm
  | _ => rfl

end Instruction

namespace Interpreter

/-! ### One action -/

/-- The same skip to the end of another label. -/
def Skip.relabel (f : String → String) (skip : Skip) : Skip := { skip with label := f skip.label }

/-- The same meeting with a skip to the end of another label. -/
def Meeting.relabel (f : String → String) : Meeting → Meeting
  | .resumes => .resumes
  | .passes skip => .passes (skip.relabel f)

/-- What a run knows where the labels are others. -/
def Frame.relabel (f : String → String) (frame : Frame) : Frame where
  state := frame.state
  labels := frame.labels.map f
  skip := frame.skip.map (Skip.relabel f)

/-- The second step does what the first one does, with other labels. -/
structure Step.Relabels (f : String → String) (x y : Step) : Prop where
  frame : y.frame = x.frame.relabel f
  stretch : y.stretch = x.stretch
  stop : y.stop = x.stop

/-- A skip meets a renamed action as it met the action. Only here it matters that different labels
stay different. -/
theorem meet_relabel (hf : Function.Injective f) (mode : NestedSkip) (skip : Skip) (a : Action) :
    (skip.relabel f).meet mode (a.relabel f) = (skip.meet mode a).relabel f := by
  have hopens := Action.opens_relabel hf a skip.label
  have hcloses := Action.closes_relabel hf a skip.label
  simp only [Skip.meet, Skip.relabel, hopens, hcloses]
  split_ifs
  · rfl
  · cases skip.depth <;> rfl
  · rfl

theorem relabels_live (f : String → String) (index : Nat) (state : GameState)
    (labels : List String) (a : Action) :
    Step.Relabels f (live index ⟨state, labels, none⟩ a)
      (live index ⟨state, labels.map f, none⟩ (a.relabel f)) := by
  have hinstruction := Action.instruction_relabel f a
  cases hi : a.instruction with
  | error o =>
    rw [hi] at hinstruction
    rw [live_of_error hi, live_of_error hinstruction]
    exact ⟨rfl, rfl, rfl⟩
  | ok i =>
    rw [hi] at hinstruction
    refine ⟨?_, ?_, ?_⟩
    · rw [live_of_ok hi, live_of_ok hinstruction]
      simp only [frame_dispatch, Frame.relabel, Instruction.changes_relabel,
        Instruction.blocks_relabel, Instruction.fails_relabel]
      split_ifs
      · cases labels <;> rfl
      · rfl
    · rw [stretch_live_of_ok hi, stretch_live_of_ok hinstruction, Instruction.routes_relabel]
    · rw [live_of_ok hi, live_of_ok hinstruction]
      simp only [stop_dispatch, Instruction.relabel_eq_exit_iff, Instruction.fails_relabel,
        List.map_eq_nil_iff]

/-- An action with another label does the same, where the labels that the run knows are others in
the same way. -/
theorem relabels_step (hf : Function.Injective f) (mode : NestedSkip) (index : Nat) (frame : Frame)
    (a : Action) :
    Step.Relabels f (step mode index frame a)
      (step mode index (frame.relabel f) (a.relabel f)) := by
  obtain ⟨state, labels, skip⟩ := frame
  cases skip with
  | none => exact relabels_live f index state labels a
  | some skip =>
    have hmeet := meet_relabel hf mode skip a
    cases h : skip.meet mode a with
    | resumes =>
      rw [h] at hmeet
      simp only [step, Frame.relabel, Option.map_some, h, hmeet, Meeting.relabel]
      exact relabels_live f index state labels a
    | passes next =>
      rw [h] at hmeet
      simp only [step, Frame.relabel, Option.map_some, h, hmeet, Meeting.relabel]
      exact ⟨rfl, rfl, rfl⟩

/-! ### Runs -/

theorem result_runFrom_relabel (hf : Function.Injective f) (mode : NestedSkip) (index : Nat)
    (frame : Frame) (as : List Action) :
    (runFrom mode index (frame.relabel f) (as.map (·.relabel f))).result =
      (runFrom mode index frame as).result := by
  induction as generalizing index frame with
  | nil => rfl
  | cons a as ih =>
    obtain ⟨hframe, hstretch, hstop⟩ := relabels_step hf mode index frame a
    rw [List.map_cons, result_runFrom_cons, result_runFrom_cons, hframe, hstretch, hstop]
    cases (step mode index frame a).stop with
    | some t => rfl
    | none =>
      simp only
      rw [ih]

/-- The labels of blocks matter only as far as they are the same or not: if they are renamed and no
two become one, a run of whatever list ends in the same state, goes the same way and has the same
report. -/
theorem relabel_rules {f : String → String} (hf : Function.Injective f) (mode : NestedSkip)
    (state : GameState) (actions : List Action) :
    let renamed := actions.map (·.relabel f)
    (run mode state renamed).state = (run mode state actions).state ∧
      (run mode state renamed).result.routes = (run mode state actions).result.routes ∧
      (run mode state renamed).report = (run mode state actions).report := by
  intro renamed
  have hrun : (run mode state renamed).result = (run mode state actions).result :=
    result_runFrom_relabel hf mode 0 { state } actions
  exact ⟨congrArg Result.state hrun, congrArg Result.routes hrun, congrArg Result.report hrun⟩

/-- Marks that are not nested. One of the labels is empty. -/
def nameless : List Action := [⟨["StartBlock", "hall"]⟩, ⟨["StartBlock", ""]⟩,
  ⟨["RequireItem", "key"]⟩, ⟨["StartBlock", "", "again"]⟩, ⟨["EndBlock", "hall"]⟩, ⟨["EndBlock"]⟩,
  ⟨["EndBlock", ""]⟩, ⟨["AddItem", "lamp"]⟩, ⟨["EndBlock", ""]⟩, ⟨["Route", "roof"]⟩]

/-- The hall and the block without a name change their labels. In both modes whoever is without the
key comes to the roof as before, with the lamp only if nothing is counted. -/
theorem relabel_rules_nameless :
    let f := Equiv.swap "" "hall"
    Function.Injective f ∧
      nameless.map (·.relabel f) = [⟨["StartBlock", ""]⟩, ⟨["StartBlock", "hall"]⟩,
        ⟨["RequireItem", "key"]⟩, ⟨["StartBlock", "hall", "again"]⟩, ⟨["EndBlock", ""]⟩,
        ⟨["EndBlock"]⟩, ⟨["EndBlock", "hall"]⟩, ⟨["AddItem", "lamp"]⟩, ⟨["EndBlock", "hall"]⟩,
        ⟨["Route", "roof"]⟩] ∧
      (run .labelMatch .empty (nameless.map (·.relabel f))).report = ⟨.completed, 7, 3, 0⟩ ∧
      (run .labelMatch .empty (nameless.map (·.relabel f))).state.items = ["lamp"] ∧
      (run .depthTracked .empty (nameless.map (·.relabel f))).report = ⟨.completed, 5, 5, 0⟩ ∧
      (run .depthTracked .empty (nameless.map (·.relabel f))).result.routes = ["roof"] := by
  intro f
  have hf : Function.Injective f := f.injective
  obtain ⟨hstate, -, hreport⟩ := relabel_rules hf .labelMatch .empty nameless
  obtain ⟨-, hroutes, hreport'⟩ := relabel_rules hf .depthTracked .empty nameless
  refine ⟨hf, by decide, hreport.trans (by decide), ?_, hreport'.trans (by decide),
    hroutes.trans (by decide)⟩
  rw [hstate]
  decide

/-- One label for both is another list. -/
example : (run .labelMatch .empty (nameless.map (·.relabel fun _ => "hall"))).report ≠
    (run .labelMatch .empty nameless).report := by decide

end Interpreter

end SlideGraph
