import Mathlib.Tactic.Common
import SlideGraph.Action

/-!
# What an instruction tells of its action

The tokens of an action decide its instruction. Read the other way, an instruction tells which
operation the first token names and which operands come next.
-/

namespace SlideGraph

/-- The operation of an instruction. -/
def Instruction.opcode : Instruction → Opcode
  | route _ => .route
  | addItem _ => .addItem
  | removeItem _ => .removeItem
  | setFlag _ _ => .setGameState
  | requireItem _ => .requireItem
  | requireFlag _ => .requireGameState
  | startBlock _ => .startBlock
  | endBlock => .endBlock
  | exit => .exit

namespace Action

theorem opcode_of_instructionOf {o : Opcode} {operands : List String} {i : Instruction}
    (h : instructionOf o operands = some i) : o = i.opcode := by
  unfold instructionOf at h
  split at h <;> simp only [Option.some.injEq, reduceCtorEq] at h
  all_goals
    subst h
    rfl

/-- An action means something if its first token names an operation and enough operands follow. -/
theorem instruction_eq_ok_iff {a : Action} {i : Instruction} :
    a.instruction = .ok i ↔
      ∃ operands, a.tokens = i.opcode.name :: operands ∧
        instructionOf i.opcode operands = some i := by
  unfold instruction
  constructor
  · intro h
    split at h
    · cases h
    · rename_i token operands htokens
      split at h
      · cases h
      · rename_i o ho
        split at h
        · cases h
        · rename_i hi
          cases h
          obtain rfl := opcode_of_instructionOf hi
          exact ⟨operands, by rw [htokens, Opcode.name_of_ofName? ho], hi⟩
  · rintro ⟨operands, htokens, hi⟩
    simp only [htokens, Opcode.ofName?_name, hi]

/-- An action routes exactly if its first token says so and a slide follows. -/
theorem instruction_eq_route_iff {a : Action} {slide : String} :
    a.instruction = .ok (.route slide) ↔
      ∃ operands, a.tokens = Opcode.route.name :: slide :: operands := by
  rw [instruction_eq_ok_iff]
  constructor
  · rintro ⟨operands, htokens, hi⟩
    cases operands with
    | nil => cases hi
    | cons x operands =>
      cases hi
      exact ⟨operands, htokens⟩
  · rintro ⟨operands, htokens⟩
    exact ⟨slide :: operands, htokens, rfl⟩

/-! ### Marks of blocks -/

/-- An action begins a block exactly if its first token says so and a label follows. -/
theorem instruction_eq_startBlock_iff {a : Action} {label : String} :
    a.instruction = .ok (.startBlock label) ↔
      ∃ operands, a.tokens = Opcode.startBlock.name :: label :: operands := by
  rw [instruction_eq_ok_iff]
  constructor
  · rintro ⟨operands, htokens, hi⟩
    cases operands with
    | nil => cases hi
    | cons x operands =>
      cases hi
      exact ⟨operands, htokens⟩
  · rintro ⟨operands, htokens⟩
    exact ⟨label :: operands, htokens, rfl⟩

/-- An action ends a block exactly if its first token says so, whatever follows. -/
theorem instruction_eq_endBlock_iff {a : Action} :
    a.instruction = .ok .endBlock ↔ ∃ operands, a.tokens = Opcode.endBlock.name :: operands := by
  rw [instruction_eq_ok_iff]
  constructor
  · rintro ⟨operands, htokens, -⟩
    exact ⟨operands, htokens⟩
  · rintro ⟨operands, htokens⟩
    exact ⟨operands, htokens, rfl⟩

end Action

end SlideGraph
