import SlideGraph.Action
import SlideGraph.Collection.OrderedMap

/-!
# Slides

A slide has buttons, each with a list of actions that is run when the button is pressed. A minigame
is a slide that is left for its fallback slide when the game is over. A deck is all the slides of a
game in the order of their source.
-/

namespace SlideGraph

/-- What a slide is. -/
inductive SlideKind
  | minigame
  | ordinary
deriving DecidableEq, Repr

/-- A button of a slide. -/
structure Button where
  /-- Whether the button is shown at first, if the author says so. -/
  visible : Option Bool := none
  actions : List Action := []
deriving DecidableEq, Inhabited

/-- A slide. -/
structure Slide where
  /-- The kind that the author gives the slide. -/
  tag : Option SlideKind := none
  buttons : OrderedMap Button := .empty
  /-- The slide that follows a minigame. -/
  fallback : Option String := none
deriving DecidableEq, Inhabited

namespace Slide

/-- What the slide is: ordinary if the author does not say. -/
def kind (s : Slide) : SlideKind := s.tag.getD .ordinary

def isMinigame (s : Slide) : Bool := s.kind == .minigame

end Slide

/-- The slides of a game by their ids, in the order of their source. -/
abbrev Deck := OrderedMap Slide

end SlideGraph
