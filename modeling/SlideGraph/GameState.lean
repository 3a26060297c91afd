import SlideGraph.Collection.KeyMap
import SlideGraph.Log

/-!
# Game state

A player holds items and has flags, which say what is shown. A flag that was never set is not
there, and counts as false where its value is asked for.
-/

namespace SlideGraph

/-- The items that a player holds and the flags that have been set. -/
structure GameState where
  inventory : KeySet
  flags : KeyMap Bool
deriving DecidableEq, Inhabited

namespace GameState

def empty : GameState := ⟨.empty, .empty⟩

/-! ### Looking up -/

def hasItem (s : GameState) (item : String) : Bool := s.inventory.contains item

/-- The value of a flag that has been set. -/
def flag? (s : GameState) (key : String) : Option Bool := s.flags.get? key

/-- The value of a flag, false where it was never set. -/
def flag (s : GameState) (key : String) : Bool := (s.flag? key).getD false

def items (s : GameState) : List String := s.inventory.keys

/-! ### Changing -/

/-- A change to a game state. -/
inductive Change
  | addItem (item : String)
  | removeItem (item : String)
  | setFlag (key : String) (value : Bool)
  | toggleFlag (key : String)
deriving DecidableEq, Repr

/-- The state after a change. -/
def apply (s : GameState) : Change → GameState
  | .addItem item => { s with inventory := s.inventory.add item }
  | .removeItem item => { s with inventory := s.inventory.erase item }
  | .setFlag key value => { s with flags := s.flags.insert key value }
  | .toggleFlag key => { s with flags := s.flags.insert key (!s.flag key) }

theorem hasItem_apply (s : GameState) (c : Change) (item : String) :
    (s.apply c).hasItem item =
      match c with
      | .addItem added => decide (item = added) || s.hasItem item
      | .removeItem removed => !decide (item = removed) && s.hasItem item
      | _ => s.hasItem item := by
  cases c with
  | addItem added => exact KeyMap.contains_insert s.inventory added item ()
  | removeItem removed => exact KeyMap.contains_erase s.inventory removed item
  | setFlag key value => rfl
  | toggleFlag key => rfl

theorem flag?_apply (s : GameState) (c : Change) (key : String) :
    (s.apply c).flag? key =
      match c with
      | .setFlag set value => if key = set then some value else s.flag? key
      | .toggleFlag toggled => if key = toggled then some (!s.flag toggled) else s.flag? key
      | _ => s.flag? key := by
  cases c with
  | addItem added => rfl
  | removeItem removed => rfl
  | setFlag set value => exact KeyMap.get?_insert s.flags set key value
  | toggleFlag toggled => exact KeyMap.get?_insert s.flags toggled key (!s.flag toggled)

/-- What the log says of a change: an item that comes or goes, and nothing of one that is there or
missing already. -/
def records (s : GameState) : Change → List LogRecord
  | .addItem item => if s.hasItem item then [] else [.debug ("item added: " ++ item)]
  | .removeItem item => if s.hasItem item then [.debug ("item removed: " ++ item)] else []
  | .setFlag _ _ => []
  | .toggleFlag _ => []

end GameState

end SlideGraph
