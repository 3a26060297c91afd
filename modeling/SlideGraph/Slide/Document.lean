import SlideGraph.Collection.Document
import SlideGraph.Json.Printer
import SlideGraph.Slide

/-!
# Decks of slides as documents

A deck is written as an object of slides, a slide as a record of its kind, buttons and fallback
slide, a button as a record of its visibility and actions, and an action as the list of its tokens.
Every field may be missing. A kind with an unknown name is an ordinary slide.
-/

namespace SlideGraph

open Json

/-! ### Actions -/

namespace Action

def toValue (a : Action) : Value := .strings a.tokens

def listToValue (as : List Action) : Value := .array (as.map toValue)

def listReader : Reader (List Action) := .list ((Reader.list .string).map Action.mk)

def listOfValue? : Value → Option (List Action) :=
  Value.list? fun v => (v.list? Value.string?).map Action.mk

end Action

/-! ### Buttons -/

namespace Button

def toValue (b : Button) : Value :=
  .members [("Visible", b.visible.map .bool), ("Actions", some (Action.listToValue b.actions))]

/-- A button that is being read. -/
structure Draft where
  visible : Option (Option Bool) := none
  actions : Option (List Action) := none

def fields : List (FieldReader Draft) := [
  .slot "Visible" Draft.visible (fun x d => { d with visible := some x }) (.optional .bool),
  .slot "Actions" Draft.actions (fun x d => { d with actions := some x }) Action.listReader]

def reader : Reader Button := .record fields {} fun d =>
  some ⟨d.visible.getD none, d.actions.getD []⟩

end Button

/-! ### Slides -/

namespace SlideKind

def name : SlideKind → String
  | minigame => "Minigame"
  | ordinary => "Ordinary"

/-- The kind that a word stands for. -/
def ofName : String → SlideKind
  | "Minigame" => minigame
  | _ => ordinary

end SlideKind

namespace Slide

def toValue (s : Slide) : Value :=
  .members [("Type", s.tag.map fun k => .string k.name),
    ("Buttons", some (s.buttons.toValue Button.toValue)),
    ("FallbackSlide", s.fallback.map .string)]

/-- A slide that is being read. -/
structure Draft where
  tag : Option (Option SlideKind) := none
  buttons : Option (OrderedMap Button) := none
  fallback : Option (Option String) := none

def fields : List (FieldReader Draft) := [
  .slot "Type" Draft.tag (fun x d => { d with tag := some x })
    (.optional (.name fun s => some (.ofName s))),
  .slot "Buttons" Draft.buttons (fun x d => { d with buttons := some x })
    (OrderedMap.reader Button.reader),
  .slot "FallbackSlide" Draft.fallback (fun x d => { d with fallback := some x })
    (.optional .string)]

def reader : Reader Slide := .record fields {} fun d =>
  some ⟨d.tag.getD none, d.buttons.getD .empty, d.fallback.getD none⟩

end Slide

/-! ### Decks -/

namespace Deck

def toValue (d : Deck) : Value := OrderedMap.toValue Slide.toValue d

def reader : Reader Deck := OrderedMap.reader Slide.reader

def ofText (s : String) : Except Fault Deck := reader.document s.toList

end Deck

end SlideGraph
