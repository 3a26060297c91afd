/-!
# Actions

An action is a list of tokens as an author writes it: the first names an operation, the others are
its operands. `Action.instruction` reads the tokens. An action that means nothing is not an error:
it is passed over for one of the reasons in `Oversight`.
-/

namespace SlideGraph

/-- An action: its tokens in order. -/
structure Action where
  tokens : List String
deriving DecidableEq, Repr, Inhabited

/-! ### Operations -/

/-- The operations that an action can name. -/
inductive Opcode
  | route
  | addItem
  | removeItem
  | setGameState
  | requireItem
  | requireGameState
  | startBlock
  | endBlock
  | exit
deriving DecidableEq, Repr

namespace Opcode

/-- Every operation, in the order in which authors are shown them. -/
def all : List Opcode :=
  [route, addItem, removeItem, setGameState, requireItem, requireGameState, startBlock, endBlock,
    exit]

def name : Opcode → String
  | route => "Route"
  | addItem => "AddItem"
  | removeItem => "RemoveItem"
  | setGameState => "SetGameState"
  | requireItem => "RequireItem"
  | requireGameState => "RequireGameState"
  | startBlock => "StartBlock"
  | endBlock => "EndBlock"
  | exit => "Exit"

/-- The operands that an operation needs at least. -/
def arity : Opcode → Nat
  | exit | endBlock => 0
  | setGameState => 2
  | route | addItem | removeItem | requireItem | requireGameState | startBlock => 1

def ofName? (token : String) : Option Opcode := all.find? (·.name == token)

theorem mem_all (o : Opcode) : o ∈ all := by cases o <;> decide

theorem ofName?_name (o : Opcode) : ofName? o.name = some o := by cases o <;> decide

theorem name_of_ofName? {token : String} {o : Opcode} (h : ofName? token = some o) :
    o.name = token := by
  simpa using List.find?_some h

end Opcode

/-! ### Operands -/

/-- What to do with a flag. -/
inductive FlagMode
  | show
  | hide
  | toggle
deriving DecidableEq, Repr

namespace FlagMode

/-- The mode that a token names. -/
def ofToken? : String → Option FlagMode
  | "true" => some .show
  | "false" => some .hide
  | "toggle" => some .toggle
  | _ => none

end FlagMode

/-- A key with the value that it has to have: false for a key behind an exclamation mark, otherwise
true. -/
structure Requirement where
  key : String
  negated : Bool
deriving DecidableEq, Repr

namespace Requirement

/-- Read an operand. One exclamation mark in front negates, any further one belongs to the key. -/
def ofOperand (operand : String) : Requirement :=
  match operand.toList with
  | '!' :: cs => ⟨String.ofList cs, true⟩
  | _ => ⟨operand, false⟩

/-- Whether the requirement is met where its key has the given value. -/
def holds (r : Requirement) (observed : Bool) : Bool := observed != r.negated

end Requirement

/-! ### Reading the tokens -/

namespace Action

/-- The token that names the operation. -/
def opcodeToken (a : Action) : Option String := a.tokens.head?

/-- The tokens behind the first. -/
def operands (a : Action) : List String := a.tokens.tail

/-- The operand at a place. -/
def operand (a : Action) (i : Nat) : Option String := a.operands[i]?

/-- Whether the action ends a block with the given label. -/
def closes (a : Action) (label : String) : Bool :=
  a.opcodeToken == some Opcode.endBlock.name && a.operand 0 == some label

/-- Whether the action begins a block with the given label. -/
def opens (a : Action) (label : String) : Bool :=
  a.opcodeToken == some Opcode.startBlock.name && a.operand 0 == some label

end Action

/-- What an action tells the interpreter to do. -/
inductive Instruction
  | route (slide : String)
  | addItem (item : String)
  | removeItem (item : String)
  /-- The mode is missing where its token is none of the known ones. -/
  | setFlag (key : String) (mode : Option FlagMode)
  | requireItem (r : Requirement)
  | requireFlag (r : Requirement)
  | startBlock (label : String)
  | endBlock
  | exit
deriving DecidableEq, Repr

/-- Why an action is passed over. -/
inductive Oversight
  | empty
  | unknown (token : String)
  | tooShort (opcode : Opcode) (given : Nat)
deriving DecidableEq, Repr

namespace Action

/-- The instruction of an operation with its operands, if there are enough of them. -/
def instructionOf : Opcode → List String → Option Instruction
  | .route, slide :: _ => some (.route slide)
  | .addItem, item :: _ => some (.addItem item)
  | .removeItem, item :: _ => some (.removeItem item)
  | .setGameState, key :: mode :: _ => some (.setFlag key (FlagMode.ofToken? mode))
  | .requireItem, operand :: _ => some (.requireItem (.ofOperand operand))
  | .requireGameState, operand :: _ => some (.requireFlag (.ofOperand operand))
  | .startBlock, label :: _ => some (.startBlock label)
  | .endBlock, _ => some .endBlock
  | .exit, _ => some .exit
  | _, _ => none

/-- There is an instruction for as many operands as the operation needs. -/
theorem isSome_instructionOf (o : Opcode) (operands : List String) :
    (instructionOf o operands).isSome = decide (o.arity ≤ operands.length) := by
  rcases operands with _ | ⟨_, _ | ⟨_, _⟩⟩ <;> cases o <;> simp [instructionOf, Opcode.arity]

/-- Read an action. -/
def instruction (a : Action) : Except Oversight Instruction :=
  match a.tokens with
  | [] => .error .empty
  | token :: operands =>
    match Opcode.ofName? token with
    | none => .error (.unknown token)
    | some o =>
      match instructionOf o operands with
      | none => .error (.tooShort o operands.length)
      | some i => .ok i

end Action

end SlideGraph
