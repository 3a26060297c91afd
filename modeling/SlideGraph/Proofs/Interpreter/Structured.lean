import SlideGraph.Proofs.Action.Reading
import SlideGraph.Proofs.Interpreter.Stretch

/-!
# Structured programs

A program whose blocks are well nested is a tree: its items are plain actions and blocks, and the
body of a block is a program again. `evaluate` gives such a program a meaning by recursion on the
tree, without labels, skips or a stack. The one-pass interpreter, run on the actions of the program
in order, does the same.

With tracked depth this holds of every program. With matched labels it holds where no block has a
block with its own label inside.
-/

namespace SlideGraph

/-- Whether an action is no mark of a block: it neither ends a block nor begins one. An action that
should begin a block and has no label means nothing, so it is plain. -/
def Action.isPlain (a : Action) : Bool :=
  a.opcodeToken != some Opcode.endBlock.name &&
    !(a.opcodeToken == some Opcode.startBlock.name && (a.operand 0).isSome)

namespace Interpreter

namespace Structured

/-! ### Programs -/

/-- An item of a program. The tokens behind the label of a mark have no meaning. -/
inductive Item
  | leaf (a : Action) (plain : a.isPlain = true)
  | block (label : String) (opening : List String) (body : List Item) (closing : List String)

/-- The action that begins a block. -/
def startMark (label : String) (more : List String) : Action :=
  ⟨Opcode.startBlock.name :: label :: more⟩

/-- The action that ends a block. -/
def endMark (label : String) (more : List String) : Action :=
  ⟨Opcode.endBlock.name :: label :: more⟩

mutual

/-- The actions of an item in order. -/
def Item.actions : Item → List Action
  | .leaf a _ => [a]
  | .block label opening body closing =>
    startMark label opening :: (actions body ++ [endMark label closing])

/-- The actions of a program in order. -/
def actions : List Item → List Action
  | [] => []
  | item :: items => item.actions ++ actions items

end

theorem Item.actions_block_append (label : String) (opening : List String) (body : List Item)
    (closing : List String) (rest : List Action) :
    (Item.block label opening body closing).actions ++ rest =
      startMark label opening :: (Structured.actions body ++ endMark label closing :: rest) := by
  simp [Item.actions]

theorem Item.length_actions_block (label : String) (opening : List String) (body : List Item)
    (closing : List String) :
    (Item.block label opening body closing).actions.length =
      1 + ((Structured.actions body).length + 1) := by
  simp [Item.actions, Nat.add_comm]

mutual

/-- The labels of an item and of all blocks in it. -/
def Item.labels : Item → List String
  | .leaf _ _ => []
  | .block label _ body _ => label :: labels body

/-- The labels of all blocks of a program, at any depth. -/
def labels : List Item → List String
  | [] => []
  | item :: items => item.labels ++ labels items

end

mutual

/-- No block of an item has a block with its own label inside. -/
def Item.Apart : Item → Prop
  | .leaf _ _ => True
  | .block label _ body _ => label ∉ labels body ∧ Apart body

/-- No block of a program has a block with its own label inside. -/
def Apart : List Item → Prop
  | [] => True
  | item :: items => item.Apart ∧ Apart items

end

/-! ### Meaning -/

/-- How a part of a program ends. -/
inductive Ending
  /-- It comes to its end. -/
  | reached
  /-- A requirement fails at a place, and so many actions behind it are given up. -/
  | failed (index : Nat) (abandoned : Nat)
  /-- The player is told to leave at a place. -/
  | exited (index : Nat)
deriving DecidableEq, Repr

/-- What a part of a program does. -/
structure Trace where
  state : GameState
  stretch : Stretch
  ending : Ending
deriving DecidableEq

/-- A requirement at a place: it is met or fails. -/
def requirement (index : Nat) (state : GameState) (isMet : Bool) : Trace :=
  ⟨state, .dispatch, if isMet then .reached else .failed index 0⟩

/-- What a plain action at a place does. -/
def evaluateLeaf (index : Nat) (state : GameState) (a : Action) : Trace :=
  match a.instruction with
  | .error _ => ⟨state, .ignore, .reached⟩
  | .ok (.route slide) => ⟨state, .route slide, .reached⟩
  | .ok (.addItem item) => ⟨state.apply (.addItem item), .dispatch, .reached⟩
  | .ok (.removeItem item) => ⟨state.apply (.removeItem item), .dispatch, .reached⟩
  | .ok (.setFlag key (some .show)) => ⟨state.apply (.setFlag key true), .dispatch, .reached⟩
  | .ok (.setFlag key (some .hide)) => ⟨state.apply (.setFlag key false), .dispatch, .reached⟩
  | .ok (.setFlag key (some .toggle)) => ⟨state.apply (.toggleFlag key), .dispatch, .reached⟩
  | .ok (.setFlag _ none) => ⟨state, .dispatch, .reached⟩
  | .ok (.requireItem r) => requirement index state (r.holds (state.hasItem r.key))
  | .ok (.requireFlag r) => requirement index state (r.holds (state.flag r.key))
  | .ok .exit => ⟨state, .dispatch, .exited index⟩
  -- no plain action is a mark
  | .ok (.startBlock _) | .ok .endBlock => ⟨state, .dispatch, .reached⟩

mutual

/-- What an item at a place does. A block whose body fails counts the actions that are given up
and goes on with its end. -/
def evaluateItem (index : Nat) (state : GameState) : Item → Trace
  | .leaf a _ => evaluateLeaf index state a
  | .block _ _ body _ =>
    let inner := evaluateItems (index + 1) state body
    match inner.ending with
    | .reached => ⟨inner.state, .dispatch ++ inner.stretch ++ .dispatch, .reached⟩
    | .failed _ abandoned =>
      ⟨inner.state, .dispatch ++ inner.stretch ++ .skip abandoned ++ .dispatch, .reached⟩
    | .exited place => ⟨inner.state, .dispatch ++ inner.stretch, .exited place⟩

/-- What the items from a place on do, one after the other. Where one fails, the others are given
up. -/
def evaluateItems (index : Nat) (state : GameState) : List Item → Trace
  | [] => ⟨state, {}, .reached⟩
  | item :: items =>
    let first := evaluateItem index state item
    match first.ending with
    | .reached =>
      let rest := evaluateItems (index + item.actions.length) first.state items
      { rest with stretch := first.stretch ++ rest.stretch }
    | .failed place abandoned =>
      { first with ending := .failed place (abandoned + (actions items).length) }
    | .exited place => { first with ending := .exited place }

end

/-- What a program does from a state on. A requirement that fails outside all blocks ends it. -/
def evaluate (state : GameState) (program : List Item) : Result :=
  let whole := evaluateItems 0 state program
  match whole.ending with
  | .reached => .ended whole.state .completed whole.stretch
  | .failed place _ => .ended whole.state (.requirementFailed place) whole.stretch
  | .exited place => .ended whole.state (.exited place) whole.stretch

/-! ### Skips -/

/-- A skip to the end of a label passes over all of `inner`: no end in there is taken for the one
that is looked for. -/
def Clear (mode : NestedSkip) (label : String) (inner : List String) : Prop :=
  mode = .labelMatch → label ∉ inner

theorem Clear.append {mode : NestedSkip} {label : String} {xs ys : List String}
    (h : Clear mode label (xs ++ ys)) : Clear mode label xs ∧ Clear mode label ys :=
  ⟨fun hm hx => h hm (List.mem_append_left _ hx), fun hm hy => h hm (List.mem_append_right _ hy)⟩

theorem meet_plain (mode : NestedSkip) (skip : Skip) {a : Action} (h : a.isPlain = true) :
    skip.meet mode a = .passes skip := by
  simp only [Action.isPlain, Bool.and_eq_true, bne_iff_ne, Bool.not_eq_true', Bool.and_eq_false_iff,
    beq_eq_false_iff_ne] at h
  obtain ⟨hend, hstart⟩ := h
  have hcloses : a.closes skip.label = false := by
    simp [Action.closes, hend]
  have hopens : a.opens skip.label = false := by
    rcases hstart with hstart | hstart
    · simp [Action.opens, hstart]
    · cases hop : a.operand 0 with
      | none => simp [Action.opens, hop]
      | some x => simp [hop] at hstart
  simp [Skip.meet, hcloses, hopens]

theorem opens_startMark (label other : String) (more : List String) :
    (startMark label more).opens other = decide (label = other) := by
  simp [Action.opens, startMark, Action.opcodeToken, Action.operand, Action.operands,
    Bool.beq_eq_decide_eq]

theorem closes_startMark (label other : String) (more : List String) :
    (startMark label more).closes other = false := by
  simp [Action.closes, startMark, Action.opcodeToken, Opcode.name]

theorem opens_endMark (label other : String) (more : List String) :
    (endMark label more).opens other = false := by
  simp [Action.opens, endMark, Action.opcodeToken, Opcode.name]

theorem closes_endMark (label other : String) (more : List String) :
    (endMark label more).closes other = decide (label = other) := by
  simp [Action.closes, endMark, Action.opcodeToken, Action.operand, Action.operands,
    Bool.beq_eq_decide_eq]

/-- The marks of a block with another label mean nothing to a skip. -/
theorem meet_marks_of_ne (mode : NestedSkip) (skip : Skip) {label : String}
    (h : label ≠ skip.label) (more : List String) :
    skip.meet mode (startMark label more) = .passes skip ∧
      skip.meet mode (endMark label more) = .passes skip := by
  simp [Skip.meet, opens_startMark, closes_startMark, opens_endMark, closes_endMark, h]

/-- With tracked depth the marks of a block with the same label go one block in and one out. -/
theorem meet_marks_self (label : String) (depth : Nat) (more : List String) :
    (Skip.mk label depth).meet .depthTracked (startMark label more) = .passes ⟨label, depth + 1⟩ ∧
      (Skip.mk label (depth + 1)).meet .depthTracked (endMark label more) =
        .passes ⟨label, depth⟩ := by
  simp [Skip.meet, opens_startMark, opens_endMark, closes_endMark]

theorem meet_endMark_resumes (mode : NestedSkip) (label : String) (more : List String) :
    (Skip.mk label 0).meet mode (endMark label more) = .resumes := by
  simp [Skip.meet, opens_endMark, closes_endMark]

/-- What a skip passes over is counted and nothing else. -/
theorem result_runFrom_passes {mode : NestedSkip} {skip skip' : Skip} {a : Action}
    (h : skip.meet mode a = .passes skip') (index : Nat) (state : GameState)
    (outer : List String) (as : List Action) :
    (runFrom mode index ⟨state, outer, some skip⟩ (a :: as)).result =
      (runFrom mode (index + 1) ⟨state, outer, some skip'⟩ as).result.after (.skip 1) := by
  have hstep : step mode index ⟨state, outer, some skip⟩ a =
      { frame := ⟨state, outer, some skip'⟩, tally := .skipped } := by
    simp only [step, h]
  rw [result_runFrom_cons, hstep]
  rfl

mutual

/-- A skip passes over a whole item, and counts its actions. -/
theorem result_runFrom_skip_item {mode : NestedSkip} {label : String} {outer : List String}
    (item : Item) (h : Clear mode label item.labels) (depth index : Nat) (state : GameState)
    (rest : List Action) :
    (runFrom mode index ⟨state, outer, some ⟨label, depth⟩⟩ (item.actions ++ rest)).result =
      (runFrom mode (index + item.actions.length) ⟨state, outer, some ⟨label, depth⟩⟩
        rest).result.after (.skip item.actions.length) := by
  match item with
  | .leaf a plain =>
    exact result_runFrom_passes (meet_plain mode _ plain) index state outer rest
  | .block inner opening body closing =>
    have hbody : Clear mode label (labels body) := fun hm hl =>
      h hm (by rw [Item.labels]; exact List.mem_cons_of_mem _ hl)
    -- the depth at which the body stands
    obtain ⟨d, hstart, hend⟩ : ∃ d,
        (Skip.mk label depth).meet mode (startMark inner opening) = .passes ⟨label, d⟩ ∧
          (Skip.mk label d).meet mode (endMark inner closing) = .passes ⟨label, depth⟩ := by
      by_cases hl : inner = label
      · subst hl
        cases mode with
        | labelMatch => exact absurd (by rw [Item.labels]; exact List.mem_cons_self) (h rfl)
        | depthTracked =>
          exact ⟨depth + 1, (meet_marks_self inner depth _).1, (meet_marks_self inner depth _).2⟩
      · exact ⟨depth, (meet_marks_of_ne mode ⟨label, depth⟩ hl _).1,
          (meet_marks_of_ne mode ⟨label, depth⟩ hl _).2⟩
    rw [Item.actions_block_append, Item.length_actions_block, result_runFrom_passes hstart,
      result_runFrom_skip_items body hbody, result_runFrom_passes hend]
    simp only [Result.after_after, Stretch.skip_append_skip, Nat.add_assoc]

/-- A skip passes over items, and counts their actions. -/
theorem result_runFrom_skip_items {mode : NestedSkip} {label : String} {outer : List String}
    (items : List Item) (h : Clear mode label (labels items)) (depth index : Nat)
    (state : GameState) (rest : List Action) :
    (runFrom mode index ⟨state, outer, some ⟨label, depth⟩⟩ (actions items ++ rest)).result =
      (runFrom mode (index + (actions items).length) ⟨state, outer, some ⟨label, depth⟩⟩
        rest).result.after (.skip (actions items).length) := by
  match items with
  | [] => simp [actions]
  | item :: items =>
    rw [labels] at h
    simp only [actions, List.append_assoc, List.length_append]
    rw [result_runFrom_skip_item item h.append.1, result_runFrom_skip_items items h.append.2,
      Result.after_after, Stretch.skip_append_skip, Nat.add_assoc]

end

/-! ### The interpreter -/

/-- How the interpreter goes on behind a part of a program that stands inside open blocks. Where
the part failed, the interpreter skips to the end of the innermost block. -/
def Trace.goOn (t : Trace) (mode : NestedSkip) (outer : List String) (next : Nat)
    (rest : List Action) : Result :=
  match t.ending with
  | .reached => (runFrom mode next ⟨t.state, outer, none⟩ rest).result.after t.stretch
  | .failed place abandoned =>
    match outer with
    | [] => .ended t.state (.requirementFailed place) t.stretch
    | label :: _ =>
      (runFrom mode next ⟨t.state, outer, some ⟨label, 0⟩⟩ rest).result.after
        (t.stretch ++ .skip abandoned)
  | .exited place => .ended t.state (.exited place) t.stretch

/-- A change of the state leads nowhere. -/
theorem stretch_change (frame : Frame) (c : GameState.Change) (r : LogRecord) :
    ({ change frame c with effects := .logged r :: (change frame c).effects } : Step).stretch =
      .dispatch := by
  have hrecords := filterMap_route?_logged (r :: frame.state.records c)
  simp only [List.map_cons] at hrecords
  simp only [Step.stretch, change, hrecords]
  rfl

/-- A requirement does inside open blocks what it does by itself. -/
theorem result_require (mode : NestedSkip) (outer : List String) (index : Nat) (state : GameState)
    (isMet : Bool) (r : LogRecord) (rest : List Action) :
    let s := require index ⟨state, outer, none⟩ isMet
    let s := { s with effects := .logged r :: s.effects }
    (match s.stop with
      | some t => .ended s.frame.state t s.stretch
      | none => (runFrom mode (index + 1) s.frame rest).result.after s.stretch) =
      (requirement index state isMet).goOn mode outer (index + 1) rest := by
  cases isMet with
  | true => rfl
  | false =>
    cases outer with
    | nil => rfl
    | cons label labels => rfl

theorem result_runFrom_leaf (mode : NestedSkip) (outer : List String) {a : Action}
    (plain : a.isPlain = true) (index : Nat) (state : GameState) (rest : List Action) :
    (runFrom mode index ⟨state, outer, none⟩ (a :: rest)).result =
      (evaluateLeaf index state a).goOn mode outer (index + 1) rest := by
  rw [result_runFrom_cons]
  simp only [step, live, evaluateLeaf]
  cases hi : a.instruction with
  | error o => rfl
  | ok i =>
    cases i with
    | route slide => rfl
    | addItem item =>
      simp only [dispatch, stretch_change]
      rfl
    | removeItem item =>
      simp only [dispatch, stretch_change]
      rfl
    | setFlag key mode =>
      rcases mode with _ | _ | _ | _ <;> rfl
    | requireItem r => exact result_require mode outer index state _ _ rest
    | requireFlag r => exact result_require mode outer index state _ _ rest
    | startBlock label =>
      obtain ⟨operands, htokens⟩ := Action.instruction_eq_startBlock_iff.1 hi
      simp [Action.isPlain, Action.opcodeToken, Action.operand, Action.operands, htokens] at plain
    | endBlock =>
      obtain ⟨operands, htokens⟩ := Action.instruction_eq_endBlock_iff.1 hi
      simp [Action.isPlain, Action.opcodeToken, htokens] at plain
    | exit => rfl

theorem Trace.goOn_after (t : Trace) (mode : NestedSkip) (outer : List String) (next : Nat)
    (rest : List Action) (w : Stretch) :
    (t.goOn mode outer next rest).after w =
      { t with stretch := w ++ t.stretch }.goOn mode outer next rest := by
  simp only [goOn]
  cases t.ending with
  | reached => simp only [Result.after_after]
  | failed place abandoned =>
    cases outer with
    | nil => rfl
    | cons label labels => simp only [Result.after_after, Stretch.append_assoc]
  | exited place => rfl

/-- The end of a block, met with its label on top, is carried out and leaves the block. -/
theorem result_runFrom_endMark (mode : NestedSkip) (label : String) (outer : List String)
    (more : List String) (index : Nat) (state : GameState) (rest : List Action) :
    (runFrom mode index ⟨state, label :: outer, none⟩ (endMark label more :: rest)).result =
      (runFrom mode (index + 1) ⟨state, outer, none⟩ rest).result.after .dispatch := by
  have hi : (endMark label more).instruction = .ok .endBlock :=
    Action.instruction_eq_endBlock_iff.2 ⟨_, rfl⟩
  rw [result_runFrom_cons]
  simp only [step, live, hi]
  rfl

/-- The end of a block ends a skip that began in the block. -/
theorem result_runFrom_resume (mode : NestedSkip) (label : String) (outer : List String)
    (more : List String) (index : Nat) (state : GameState) (rest : List Action) :
    (runFrom mode index ⟨state, label :: outer, some ⟨label, 0⟩⟩
        (endMark label more :: rest)).result =
      (runFrom mode (index + 1) ⟨state, outer, none⟩ rest).result.after .dispatch := by
  rw [← result_runFrom_endMark mode label outer more, result_runFrom_cons, result_runFrom_cons]
  simp only [step, meet_endMark_resumes]

theorem result_runFrom_startMark (mode : NestedSkip) (label : String) (outer : List String)
    (more : List String) (index : Nat) (state : GameState) (rest : List Action) :
    (runFrom mode index ⟨state, outer, none⟩ (startMark label more :: rest)).result =
      (runFrom mode (index + 1) ⟨state, label :: outer, none⟩ rest).result.after .dispatch := by
  have hi : (startMark label more).instruction = .ok (.startBlock label) :=
    Action.instruction_eq_startBlock_iff.2 ⟨_, rfl⟩
  rw [result_runFrom_cons]
  simp only [step, live, hi]
  rfl

/-- Inside open blocks, a skip to the end of the innermost passes over all of `inner`. -/
def ClearInside (mode : NestedSkip) (outer inner : List String) : Prop :=
  ∀ label ∈ outer.head?, Clear mode label inner

theorem ClearInside.append {mode : NestedSkip} {outer xs ys : List String}
    (h : ClearInside mode outer (xs ++ ys)) :
    ClearInside mode outer xs ∧ ClearInside mode outer ys :=
  ⟨fun label hl => (h label hl).append.1, fun label hl => (h label hl).append.2⟩

mutual

/-- The interpreter does at an item what the item does. -/
theorem result_runFrom_item {mode : NestedSkip} {outer : List String} (item : Item)
    (hclear : ClearInside mode outer item.labels) (hapart : mode = .labelMatch → item.Apart)
    (index : Nat) (state : GameState) (rest : List Action) :
    (runFrom mode index ⟨state, outer, none⟩ (item.actions ++ rest)).result =
      (evaluateItem index state item).goOn mode outer (index + item.actions.length) rest := by
  match item with
  | .leaf a plain => exact result_runFrom_leaf mode outer plain index state rest
  | .block label opening body closing =>
    -- a skip that begins in the body looks for the end of this block, not of an outer one
    have hbody : ClearInside mode (label :: outer) (labels body) := by
      intro l hl hm
      obtain rfl : label = l := Option.some.inj hl
      have := hapart hm
      rw [Item.Apart] at this
      exact this.1
    have hinner : mode = .labelMatch → Apart body := fun hm => by
      have := hapart hm
      rw [Item.Apart] at this
      exact this.2
    rw [Item.actions_block_append, Item.length_actions_block, result_runFrom_startMark,
      result_runFrom_items body hbody hinner, evaluateItem]
    simp only [Trace.goOn]
    cases (evaluateItems (index + 1) state body).ending with
    | reached =>
      simp only [result_runFrom_endMark, Result.after_after, Stretch.append_assoc, Nat.add_assoc]
    | failed place abandoned =>
      simp only [result_runFrom_resume, Result.after_after, Stretch.append_assoc, Nat.add_assoc]
    | exited place => rfl

/-- The interpreter does at items what the items do. -/
theorem result_runFrom_items {mode : NestedSkip} {outer : List String} (items : List Item)
    (hclear : ClearInside mode outer (labels items)) (hapart : mode = .labelMatch → Apart items)
    (index : Nat) (state : GameState) (rest : List Action) :
    (runFrom mode index ⟨state, outer, none⟩ (actions items ++ rest)).result =
      (evaluateItems index state items).goOn mode outer (index + (actions items).length) rest := by
  match items with
  | [] => simp [actions, evaluateItems, Trace.goOn]
  | item :: items =>
    rw [labels] at hclear
    have hitem : mode = .labelMatch → item.Apart := fun hm => by
      have := hapart hm
      rw [Apart] at this
      exact this.1
    have hitems : mode = .labelMatch → Apart items := fun hm => by
      have := hapart hm
      rw [Apart] at this
      exact this.2
    rw [actions, List.append_assoc, List.length_append, ← Nat.add_assoc,
      result_runFrom_item item hclear.append.1 hitem, evaluateItems]
    simp only
    cases hending : (evaluateItem index state item).ending with
    | reached =>
      simp only [Trace.goOn, hending]
      rw [result_runFrom_items items hclear.append.2 hitems, Trace.goOn_after]
      rfl
    | failed place abandoned =>
      simp only [Trace.goOn, hending]
      cases outer with
      | nil => rfl
      | cons label labels =>
        -- the skip that the item begins goes on over the items behind it
        have hl : Clear mode label (Structured.labels items) := hclear.append.2 label rfl
        simp only [result_runFrom_skip_items items hl, Result.after_after, Stretch.append_assoc,
          Stretch.skip_append_skip]
    | exited place =>
      simp only [Trace.goOn, hending]

end

/-- The interpreter gives a structured program its meaning: with tracked depth every program, with
matched labels every program in which no block has a block with its own label inside. -/
theorem result_run_actions (program : List Item) (state : GameState) :
    (run .depthTracked state (actions program)).result = evaluate state program ∧
      (Apart program →
        (run .labelMatch state (actions program)).result = evaluate state program) := by
  have hrun {mode : NestedSkip} (hapart : mode = .labelMatch → Apart program) :
      (run mode state (actions program)).result = evaluate state program := by
    have hclear : ClearInside mode [] (labels program) := fun label hl => by cases hl
    have h := result_runFrom_items program hclear hapart 0 state []
    rw [List.append_nil] at h
    rw [run, h, Trace.goOn, evaluate]
    simp only
    cases (evaluateItems 0 state program).ending with
    | reached => rw [runFrom, Outcome.result_ended, Result.ended_after, Stretch.append_nil]
    | failed place abandoned => rfl
    | exited place => rfl
  exact ⟨hrun (fun hm => by cases hm), fun hapart => hrun fun _ => hapart⟩

/-- Two halls one after the other, a desk inside the first. Nobody holds the key or the map. -/
def halls : List Item := [
  .block "hall" [] [.leaf ⟨["RequireItem", "key"]⟩ rfl, .leaf ⟨["Route", "vault"]⟩ rfl,
    .block "desk" [] [.leaf ⟨["Exit"]⟩ rfl] []] [],
  .block "hall" [] [.leaf ⟨["AddItem", "note"]⟩ rfl] [],
  .leaf ⟨["RequireItem", "map"]⟩ rfl,
  .leaf ⟨["Route", "roof"]⟩ rfl]

/-- The rest of the first hall is skipped, the second is entered, and without a map the run ends. -/
theorem result_run_halls :
    Apart halls ∧ (run .labelMatch .empty (actions halls)).result =
      ⟨⟨.ofList ["note"], .empty⟩, [], ⟨.requirementFailed 10, 7, 4, 0⟩⟩ := by
  have hapart : Apart halls := by simp [halls, Apart, Item.Apart, labels, Item.labels]
  refine ⟨hapart, ?_⟩
  rw [(result_run_actions halls .empty).2 hapart]
  rfl

/-- A hall inside a hall: with matched labels the skip ends too soon. -/
example :
    let program : List Item := [.block "hall" [] [.leaf ⟨["RequireItem", "key"]⟩ rfl,
      .block "hall" [] [] [], .leaf ⟨["AddItem", "lamp"]⟩ rfl] []]
    (run .labelMatch .empty (actions program)).result ≠ evaluate .empty program := by
  decide

end Structured

end Interpreter

end SlideGraph
