import SlideGraph.Collection.Document
import SlideGraph.Json.Printer

/-!
# Snapshots

What is shown of a session: the current slide with its buttons, and what the player has.
-/

namespace SlideGraph

open Json

/-- A button as it is shown. -/
structure ButtonView where
  name : String
  visible : Bool
deriving DecidableEq, Repr

/-- What is shown of a session. -/
structure Snapshot where
  slide : String
  minigame : Bool
  buttons : List ButtonView
  inventory : List String
  flags : KeyMap Bool
  revision : Nat
deriving DecidableEq

/-! ### Documents -/

namespace ButtonView

def toValue (b : ButtonView) : Value :=
  .object [("name", .string b.name), ("visible", .bool b.visible)]

/-- A button that is being read. -/
structure Draft where
  name : Option String := none
  visible : Option Bool := none

def fields : List (FieldReader Draft) := [
  .slot "name" Draft.name (fun x d => { d with name := some x }) .string,
  .slot "visible" Draft.visible (fun x d => { d with visible := some x }) .bool]

/-- Reads a button, of which no field may be missing. -/
def reader : Reader ButtonView := .record fields {} fun d => do some ⟨← d.name, ← d.visible⟩

end ButtonView

namespace Snapshot

def toValue (s : Snapshot) : Value :=
  .object [("slide_id", .string s.slide), ("minigame", .bool s.minigame),
    ("buttons", .array (s.buttons.map ButtonView.toValue)), ("inventory", .strings s.inventory),
    ("flags", s.flags.toValue .bool), ("revision", .nat s.revision)]

/-- A snapshot that is being read. -/
structure Draft where
  slide : Option String := none
  minigame : Option Bool := none
  buttons : Option (List ButtonView) := none
  inventory : Option (List String) := none
  flags : Option (KeyMap Bool) := none
  revision : Option Nat := none

def fields : List (FieldReader Draft) := [
  .slot "slide_id" Draft.slide (fun x d => { d with slide := some x }) .string,
  .slot "minigame" Draft.minigame (fun x d => { d with minigame := some x }) .bool,
  .slot "buttons" Draft.buttons (fun x d => { d with buttons := some x })
    (.list ButtonView.reader),
  .slot "inventory" Draft.inventory (fun x d => { d with inventory := some x }) (.list .string),
  .slot "flags" Draft.flags (fun x d => { d with flags := some x }) (KeyMap.reader .bool),
  .slot "revision" Draft.revision (fun x d => { d with revision := some x }) .count]

/-- Reads a snapshot, of which no field may be missing. -/
def reader : Reader Snapshot := .record fields {} fun d => do
  some ⟨← d.slide, ← d.minigame, ← d.buttons, ← d.inventory, ← d.flags, ← d.revision⟩

end Snapshot

end SlideGraph
