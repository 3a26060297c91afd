import SlideGraph.Catalog
import SlideGraph.Interpreter
import SlideGraph.Text.Basic

/-!
# Navigation

The current slide, how often it has changed, and who is told of a change. Listeners are numbered in
the order in which they subscribe, and each hears of every later change.
-/

namespace SlideGraph

/-- What happens while a session runs, in order: records of the log, and listeners that hear of a
new slide. -/
inductive Event
  | logged (record : LogRecord)
  | heard (listener : Nat) (slide : String)
deriving DecidableEq, Repr

namespace Event

/-- The record of an event, if it is one. -/
def record? : Event → Option LogRecord
  | logged r => some r
  | heard _ _ => none

/-- Who hears of which slide. -/
def heard? : Event → Option (Nat × String)
  | logged _ => none
  | heard listener slide => some (listener, slide)

end Event

/-- Leaving a minigame that failed. -/
inductive NavigationError
  | catalog (e : CatalogError)
  | missingFallback (slide : String)
deriving DecidableEq, Repr

def NavigationError.message : NavigationError → String
  | catalog e => e.message
  | missingFallback slide => "slide `" ++ slide ++ "` has no fallback slide"

/-- The current slide and those who want to know it. -/
structure Navigation where
  current : String
  /-- How often the slide has changed. -/
  revision : Nat := 0
  /-- The number of listeners. -/
  listeners : Nat := 0
deriving DecidableEq, Repr

namespace Navigation

/-- One more listener, with the next number. -/
def subscribe (n : Navigation) : Nat × Navigation :=
  (n.listeners, { n with listeners := n.listeners + 1 })

/-- What is heard of a change: first by the log, then by each listener. -/
def changeEvents (n : Navigation) (slide : String) : List Event :=
  .logged (.info ("slide change: " ++ n.current ++ " -> " ++ slide)) ::
    (List.range n.listeners).map (.heard · slide)

/-- Go to a slide, whether there is one with the id or not. -/
def changeSlide (n : Navigation) (slide : String) : Navigation :=
  { n with current := slide, revision := n.revision + 1 }

/-- Where a minigame on the current slide leads. -/
def fallback (n : Navigation) (c : Catalog) : Except NavigationError String :=
  match c.slide n.current with
  | .error e => .error (.catalog e)
  | .ok slide =>
    match slide.fallback with
    | none => .error (.missingFallback n.current)
    | some target => .ok target

/-- Leave the minigame on the current slide. Whether it was won makes no difference to the way. -/
def finishMinigame (n : Navigation) (c : Catalog) (success : Bool) :
    Except NavigationError (Navigation × List Event) :=
  match n.fallback c with
  | .error e => .error e
  | .ok target =>
    let done : LogRecord := .debug ("minigame on `" ++ n.current ++ "` finished (success: " ++
      Text.truth success ++ ")")
    .ok (n.changeSlide target, .logged done :: n.changeEvents target)

/-- Follow the effects of a run. -/
def follow (n : Navigation) : List Effect → Navigation × List Event
  | [] => (n, [])
  | .logged r :: effects =>
    let (n', events) := n.follow effects
    (n', .logged r :: events)
  | .routed slide :: effects =>
    let (n', events) := (n.changeSlide slide).follow effects
    (n', n.changeEvents slide ++ events)

/-- The state of the navigation for a reader of a log. -/
def text (n : Navigation) : String :=
  "NavigationController \x7b current: " ++ Text.quoted n.current ++ ", revision: " ++
    n.revision.repr ++ ", listeners: " ++ n.listeners.repr ++ " \x7d"

end Navigation

end SlideGraph
