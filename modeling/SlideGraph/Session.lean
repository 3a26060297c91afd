import SlideGraph.Navigation
import SlideGraph.Snapshot

/-!
# Sessions

One player's way through the slides of a catalog. An operation that fails leaves the session as it
is, so it answers with an error alone; one that succeeds answers with a `Turn`, which holds the
session as it is then and what happened on the way.
-/

namespace SlideGraph

/-- Why an operation on a session failed. -/
inductive SessionError
  | catalog (e : CatalogError)
  | navigation (e : NavigationError)
  | buttonNotFound (slide button : String)
  | buttonHidden (slide button : String)
deriving DecidableEq, Repr

def SessionError.message : SessionError → String
  | catalog e => e.message
  | navigation e => e.message
  | buttonNotFound slide button => "slide `" ++ slide ++ "` has no button `" ++ button ++ "`"
  | buttonHidden slide button => "button `" ++ slide ++ "." ++ button ++ "` is hidden"

/-- One player's way through a catalog. -/
structure Session where
  catalog : Catalog
  state : GameState
  navigation : Navigation
  nestedSkip : NestedSkip

/-- What came of an operation on a session. -/
structure Turn (α : Type) where
  answer : α
  session : Session
  events : List Event := []

/-- Change the answer of a turn. -/
def Turn.map {α β : Type} (f : α → β) (t : Turn α) : Turn β := { t with answer := f t.answer }

namespace Session

/-! ### Beginning -/

/-- Begin on the start slide with a game state that is there already. -/
def resume (c : Catalog) (state : GameState) (config : Config) : Except SessionError (Turn Unit) :=
  match c.start with
  | .error e => .error (.catalog e)
  | .ok start => .ok {
      answer := ()
      session := ⟨c, state, { current := start }, config.nestedSkip⟩
      events := [.logged (.info ("session opened on `" ++ start ++ "`"))] }

/-- Begin on the start slide with the first flags of the catalog. -/
def fresh (c : Catalog) (config : Config) : Except SessionError (Turn Unit) :=
  resume c (c.seed .empty) config

/-! ### Looking -/

def currentSlide (s : Session) : Except CatalogError Slide := s.catalog.slide s.navigation.current

/-- Whether a button of the current slide is shown: unless its flag has been set to false. -/
def isVisible (s : Session) (button : String) : Bool :=
  (s.state.flag? (buttonKey s.navigation.current button)).getD true

/-- What is shown of the session. -/
def snapshot (s : Session) : Except CatalogError Snapshot :=
  match s.currentSlide with
  | .error e => .error e
  | .ok slide => .ok {
      slide := s.navigation.current
      minigame := slide.isMinigame
      buttons := slide.buttons.keys.map fun name => ⟨name, s.isVisible name⟩
      inventory := s.state.items
      flags := s.state.flags
      revision := s.navigation.revision }

/-! ### Acting -/

/-- Change the game state from outside. -/
def change (s : Session) (c : GameState.Change) : Turn Unit where
  answer := ()
  session := { s with state := s.state.apply c }
  events := (s.state.records c).map .logged

/-- Run a list of actions. -/
def evaluate (s : Session) (actions : List Action) : Turn Report :=
  let outcome := Interpreter.run s.nestedSkip s.state actions
  let (navigation, events) := s.navigation.follow outcome.effects
  { answer := outcome.report
    session := { s with state := outcome.state, navigation }
    events }

/-- The button of the current slide that can be pressed under a name. -/
def pressable (s : Session) (button : String) : Except SessionError Button :=
  let slide := s.navigation.current
  if s.isVisible button then
    match s.currentSlide with
    | .error e => .error (.catalog e)
    | .ok here =>
      match here.buttons.get? button with
      | none => .error (.buttonNotFound slide button)
      | some b => .ok b
  else .error (.buttonHidden slide button)

/-- Press a button of the current slide. -/
def press (s : Session) (button : String) : Except SessionError (Turn Report) :=
  match s.pressable button with
  | .error e => .error e
  | .ok b =>
    let turn := s.evaluate b.actions
    let pressed : LogRecord :=
      .debug ("button `" ++ buttonKey s.navigation.current button ++ "` pressed")
    .ok { turn with events := .logged pressed :: turn.events }

/-- Leave the minigame on the current slide. -/
def finishMinigame (s : Session) (success : Bool) : Except SessionError (Turn Unit) :=
  match s.navigation.finishMinigame s.catalog success with
  | .error e => .error (.navigation e)
  | .ok (navigation, events) => .ok { answer := (), session := { s with navigation }, events }

/-- Go to a slide, whether there is one with the id or not. -/
def changeSlide (s : Session) (slide : String) : Turn Unit where
  answer := ()
  session := { s with navigation := s.navigation.changeSlide slide }
  events := s.navigation.changeEvents slide

/-- Go to a slide of the catalog. -/
def goTo (s : Session) (slide : String) : Except SessionError (Turn Unit) :=
  match s.catalog.slide slide with
  | .error e => .error (.catalog e)
  | .ok _ => .ok (s.changeSlide slide)

/-- Tell one more listener of every later change of the slide. -/
def subscribe (s : Session) : Turn Nat :=
  let (listener, navigation) := s.navigation.subscribe
  { answer := listener, session := { s with navigation } }

/-! ### Commands -/

/-- What can be done in a session. -/
inductive Command
  | press (button : String)
  | evaluate (actions : List Action)
  | finishMinigame (success : Bool)
  | goTo (slide : String)
  | changeSlide (slide : String)
  | subscribe
  | change (c : GameState.Change)
deriving DecidableEq, Repr

/-- Do what a command says. The answer is the report of the actions, if there were any. -/
def perform (s : Session) : Command → Except SessionError (Turn (Option Report))
  | .press button => (s.press button).map (Turn.map some)
  | .evaluate actions => .ok ((s.evaluate actions).map some)
  | .finishMinigame success => (s.finishMinigame success).map (Turn.map fun _ => none)
  | .goTo slide => (s.goTo slide).map (Turn.map fun _ => none)
  | .changeSlide slide => .ok ((s.changeSlide slide).map fun _ => none)
  | .subscribe => .ok (s.subscribe.map fun _ => none)
  | .change c => .ok ((s.change c).map fun _ => none)

end Session

end SlideGraph
