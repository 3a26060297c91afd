import Mathlib.Data.Set.Basic
import SlideGraph.Proofs.Interpreter.Idle

/-!
# What a run looks at and what it touches

Of the state a run looks only at the items and flags that the requirements of its list name. Two
states that agree on these lead to the same routes and the same report, and agree on them again at
the end; a flag that is missing and one that is false do not differ. A run touches only the items
and flags that the list names where it adds, removes or sets something, each with the name as it
is written.
-/

namespace SlideGraph

/-- The action names an operation and this operand behind it. -/
def Action.Names (a : Action) (o : Opcode) (operand : String) : Prop :=
  ∃ more, a.tokens = o.name :: operand :: more

/-! ### Names in instructions -/

/-- The operand that an instruction uses as it is written. -/
def Instruction.name? : Instruction → Option String
  | .route x | .addItem x | .removeItem x | .setFlag x _ | .startBlock x => some x
  | .requireItem _ | .requireFlag _ | .endBlock | .exit => none

namespace Action

variable {a : Action} {i : Instruction}

/-- An operation that needs operands is read off the first of them and what is behind it. -/
theorem exists_operand (h : a.instruction = .ok i) (harity : 0 < i.opcode.arity) :
    ∃ operand more, a.tokens = i.opcode.name :: operand :: more ∧
      instructionOf i.opcode (operand :: more) = some i := by
  obtain ⟨operands, htokens, hi⟩ := instruction_eq_ok_iff.1 h
  cases operands with
  | nil =>
    have hsome := isSome_instructionOf i.opcode []
    rw [hi] at hsome
    have hle : i.opcode.arity ≤ 0 := by simpa using hsome
    omega
  | cons operand more => exact ⟨operand, more, htokens, hi⟩

theorem names_of_name? {x : String} (h : a.instruction = .ok i) (hx : i.name? = some x) :
    a.Names i.opcode x := by
  cases i with
  | requireItem r | requireFlag r | endBlock | exit => cases hx
  | setFlag key mode =>
    obtain ⟨operand, more, htokens, hi⟩ := exists_operand h (Nat.succ_pos 1)
    cases more with
    | nil => cases hi
    | cons token more =>
      cases hi
      cases hx
      exact ⟨token :: more, htokens⟩
  | route y | addItem y | removeItem y | startBlock y =>
    obtain ⟨operand, more, htokens, hi⟩ := exists_operand h Nat.one_pos
    cases hi
    cases hx
    exact ⟨more, htokens⟩

/-- A requirement is read off the operand behind its operation. -/
theorem names_of_requirement {r : Requirement} (h : a.instruction = .ok i)
    (hr : i = .requireItem r ∨ i = .requireFlag r) :
    ∃ operand, a.Names i.opcode operand ∧ r = .ofOperand operand := by
  rcases hr with rfl | rfl
  all_goals
    obtain ⟨operand, more, htokens, hi⟩ := exists_operand h Nat.one_pos
    cases hi
    exact ⟨operand, ⟨more, htokens⟩, rfl⟩

end Action

/-! ### What is touched -/

namespace Action

variable {a : Action} {i : Instruction}

theorem hasItem_changes (h : a.instruction = .ok i) {item : String}
    (hadd : ¬a.Names .addItem item) (hremove : ¬a.Names .removeItem item) (s : GameState) :
    (s.applyAll i.changes).hasItem item = s.hasItem item := by
  cases i with
  | addItem added =>
    have hne : item ≠ added := by
      rintro rfl
      exact hadd (names_of_name? h rfl)
    exact (GameState.hasItem_apply s (.addItem added) item).trans (by simp [hne])
  | removeItem removed =>
    have hne : item ≠ removed := by
      rintro rfl
      exact hremove (names_of_name? h rfl)
    exact (GameState.hasItem_apply s (.removeItem removed) item).trans (by simp [hne])
  | setFlag key mode => rcases mode with _ | _ | _ | _ <;> rfl
  | _ => rfl

theorem flag?_changes (h : a.instruction = .ok i) {key : String}
    (hset : ¬a.Names .setGameState key) (s : GameState) :
    (s.applyAll i.changes).flag? key = s.flag? key := by
  cases i with
  | setFlag set mode =>
    have hne : key ≠ set := by
      rintro rfl
      exact hset (names_of_name? h rfl)
    have happly (c : GameState.Change) (hc : c = .setFlag set true ∨ c = .setFlag set false ∨
        c = .toggleFlag set) : (s.apply c).flag? key = s.flag? key := by
      rw [GameState.flag?_apply]
      rcases hc with rfl | rfl | rfl <;> simp [hne]
    rcases mode with _ | _ | _ | _
    · rfl
    · exact happly _ (.inl rfl)
    · exact happly _ (.inr (.inl rfl))
    · exact happly _ (.inr (.inr rfl))
  | _ => rfl

end Action

namespace Interpreter

/-! ### What is tested -/

/-- The items that the requirements of a list ask for, without the mark of negation. -/
def testedItems (actions : List Action) : Set String :=
  {item | ∃ a ∈ actions, ∃ operand, a.Names .requireItem operand ∧
    (Requirement.ofOperand operand).key = item}

/-- The flags that the requirements of a list ask for, without the mark of negation. -/
def testedFlags (actions : List Action) : Set String :=
  {key | ∃ a ∈ actions, ∃ operand, a.Names .requireGameState operand ∧
    (Requirement.ofOperand operand).key = key}

/-- Two states with the same of some items and the same values of some flags, where a missing flag
is false. -/
structure AgreeOn (items flags : Set String) (s t : GameState) : Prop where
  items : ∀ item ∈ items, s.hasItem item = t.hasItem item
  flags : ∀ key ∈ flags, s.flag key = t.flag key

variable {items flags : Set String} {s t : GameState} {mode : NestedSkip}

/-- The same change leaves states in agreement: also a toggled flag depends on nothing but its own
value. -/
theorem AgreeOn.apply (h : AgreeOn items flags s t) (c : GameState.Change) :
    AgreeOn items flags (s.apply c) (t.apply c) := by
  constructor
  · intro item hitem
    rw [GameState.hasItem_apply, GameState.hasItem_apply, h.items item hitem]
  · intro key hkey
    rw [GameState.flag_apply, GameState.flag_apply, h.flags key hkey]

theorem indistinct_agreeOn (actions : List Action) :
    Indistinct (AgreeOn (testedItems actions) (testedFlags actions)) actions := by
  refine ⟨fun c h => h.apply c, ?_⟩
  intro s t a i ha hi h
  cases i with
  | requireItem r =>
    obtain ⟨operand, hnames, rfl⟩ := Action.names_of_requirement hi (.inl rfl)
    rw [Instruction.fails, Instruction.fails, h.items _ ⟨a, ha, operand, hnames, rfl⟩]
  | requireFlag r =>
    obtain ⟨operand, hnames, rfl⟩ := Action.names_of_requirement hi (.inr rfl)
    rw [Instruction.fails, Instruction.fails, h.flags _ ⟨a, ha, operand, hnames, rfl⟩]
  | _ => rfl

/-- A run depends on nothing but what its requirements test: from states that agree on it the run
gives the same report and the same routes, and leads to states that agree on it. And it touches
nothing but what it names: every other item and every other flag is as before. -/
theorem influence_rules (mode : NestedSkip) (actions : List Action) :
    (∀ s t, AgreeOn (testedItems actions) (testedFlags actions) s t →
      (run mode s actions).report = (run mode t actions).report ∧
      (run mode s actions).result.routes = (run mode t actions).result.routes ∧
      AgreeOn (testedItems actions) (testedFlags actions) (run mode s actions).state
        (run mode t actions).state) ∧
    (∀ state item, (∀ a ∈ actions, ¬a.Names .addItem item ∧ ¬a.Names .removeItem item) →
      (run mode state actions).state.hasItem item = state.hasItem item) ∧
    (∀ state key, (∀ a ∈ actions, ¬a.Names .setGameState key) →
      (run mode state actions).state.flag? key = state.flag? key) := by
  refine ⟨?_, ?_, ?_⟩
  · intro s t h
    obtain ⟨hstate, hroutes, hreport⟩ := (indistinct_agreeOn actions).run_eq mode h
    exact ⟨hreport.symm, hroutes.symm, hstate⟩
  · intro state item hitem
    apply runFrom_invariant (P := fun s => s.hasItem item = state.hasItem item) _ rfl
    intro a ha i hi s hs
    rw [Action.hasItem_changes hi (hitem a ha).1 (hitem a ha).2, hs]
  · intro state key hkey
    apply runFrom_invariant (P := fun s => s.flag? key = state.flag? key) _ rfl
    intro a ha i hi s hs
    rw [Action.flag?_changes hi (hkey a ha), hs]

/-- A lamp is switched, and an item whose name begins with an exclamation mark is added. The second
requirement asks that the player does not hold another item, the key. -/
def lamps : List Action := [⟨["SetGameState", "lamp", "toggle"]⟩,
  ⟨["RequireGameState", "lamp"]⟩, ⟨["AddItem", "!key"]⟩, ⟨["RequireItem", "!key"]⟩,
  ⟨["Route", "hall"]⟩]

/-- A state in which the lamp was never set and one in which it is off look the same to the run,
whatever else the player holds. The key is not touched. -/
theorem influence_rules_lamps :
    let off : GameState := ⟨.ofList ["rope"], .ofList [("lamp", false)]⟩
    AgreeOn (testedItems lamps) (testedFlags lamps) off .empty ∧
      (run .labelMatch .empty lamps).report = ⟨.completed, 5, 0, 0⟩ ∧
      (run .labelMatch off lamps).report = ⟨.completed, 5, 0, 0⟩ ∧
      (run .labelMatch off lamps).state.hasItem "key" = false ∧
      (run .labelMatch off lamps).state.flag? "door" = none := by
  intro off
  have hagree : AgreeOn (testedItems lamps) (testedFlags lamps) off .empty := by
    constructor
    · rintro item ⟨a, ha, operand, ⟨more, htokens⟩, rfl⟩
      simp only [lamps, List.mem_cons, List.not_mem_nil, or_false] at ha
      rcases ha with rfl | rfl | rfl | rfl | rfl <;> simp [Opcode.name] at htokens
      obtain ⟨rfl, -⟩ := htokens
      decide
    · rintro key ⟨a, ha, operand, ⟨more, htokens⟩, rfl⟩
      simp only [lamps, List.mem_cons, List.not_mem_nil, or_false] at ha
      rcases ha with rfl | rfl | rfl | rfl | rfl <;> simp [Opcode.name] at htokens
      obtain ⟨rfl, -⟩ := htokens
      decide
  have hkey : ∀ a ∈ lamps, ¬a.Names .addItem "key" ∧ ¬a.Names .removeItem "key" := by
    simp [lamps, Action.Names, Opcode.name]
  have hdoor : ∀ a ∈ lamps, ¬a.Names .setGameState "door" := by
    simp [lamps, Action.Names, Opcode.name]
  obtain ⟨htwo, hitems, hflags⟩ := influence_rules .labelMatch lamps
  have hempty : (run .labelMatch .empty lamps).report = ⟨.completed, 5, 0, 0⟩ := by decide
  exact ⟨hagree, hempty, (htwo off .empty hagree).1.trans hempty, hitems off "key" hkey,
    hflags off "door" hdoor⟩

end Interpreter

end SlideGraph
