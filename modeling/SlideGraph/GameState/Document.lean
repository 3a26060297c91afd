import SlideGraph.Collection.Document
import SlideGraph.GameState
import SlideGraph.Json.Printer

/-!
# Game states as documents

A game state is written as a record of its inventory, a sorted list, and its flags, a sorted map.
Either may be missing in a text that is read.
-/

namespace SlideGraph

open Json

namespace GameState

def toValue (s : GameState) : Value :=
  .object [("inventory", .strings s.items), ("visibility", s.flags.toValue .bool)]

/-- A game state that is being read. -/
structure Draft where
  inventory : Option (List String) := none
  flags : Option (KeyMap Bool) := none

def fields : List (FieldReader Draft) := [
  .slot "inventory" Draft.inventory (fun x d => { d with inventory := some x })
    (.list .string),
  .slot "visibility" Draft.flags (fun x d => { d with flags := some x }) (KeyMap.reader .bool)]

def reader : Reader GameState := .record fields {} fun d =>
  some ⟨.ofList (d.inventory.getD []), d.flags.getD .empty⟩

end GameState

end SlideGraph
