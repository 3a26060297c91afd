import SlideGraph.GameState
import SlideGraph.Slide

/-!
# Catalogs

A catalog holds the slides of a deck as instances. Each instance has a number that no other
instance has, so a slide of a catalog is told apart from an equal slide elsewhere, and its id can
be found from the instance. A catalog also finds the references of its slides that lead nowhere.
-/

namespace SlideGraph

/-! ### Errors -/

/-- A look-up that failed. -/
inductive CatalogError
  | slideNotFound (id : String)
  | unregisteredSlide
  | emptyCatalog
deriving DecidableEq, Repr

namespace CatalogError

def message : CatalogError → String
  | slideNotFound id => "no slide with id `" ++ id ++ "` found"
  | unregisteredSlide => "no id corresponds to the given slide"
  | emptyCatalog => "slide catalog is empty"

/-- Whether something was looked for that is not there. -/
def isNotFound : CatalogError → Bool
  | slideNotFound _ | unregisteredSlide => true
  | emptyCatalog => false

end CatalogError

/-- A reference in a deck that leads nowhere. -/
inductive Issue
  | danglingFallback (slide target : String)
  | danglingRoute (slide button target : String)
  | missingFallback (slide : String)
deriving DecidableEq, Repr

namespace Issue

def message : Issue → String
  | danglingFallback slide target =>
    "slide `" ++ slide ++ "` falls back to unknown slide `" ++ target ++ "`"
  | danglingRoute slide button target =>
    "button `" ++ slide ++ "." ++ button ++ "` routes to unknown slide `" ++ target ++ "`"
  | missingFallback slide => "minigame slide `" ++ slide ++ "` has no fallback slide"

end Issue

/-- The flag that says whether a button is shown. -/
def buttonKey (slide button : String) : String := slide ++ "." ++ button

/-! ### Instances -/

/-- A slide that is kept somewhere. Two instances are the same one if their numbers are equal. -/
structure Instance where
  number : Nat
  slide : Slide
deriving DecidableEq

/-- The slides of a game as instances. -/
structure Catalog where
  slides : OrderedMap Instance
  distinct : (slides.entries.map fun e => e.2.number).Nodup

namespace Catalog

/-- Number slides from `first` on. -/
def enumerate : Nat → List (String × Slide) → List (String × Instance)
  | _, [] => []
  | first, (id, slide) :: rest => (id, ⟨first, slide⟩) :: enumerate (first + 1) rest

theorem map_fst_enumerate (first : Nat) (es : List (String × Slide)) :
    (enumerate first es).map Prod.fst = es.map Prod.fst := by
  induction es generalizing first with
  | nil => rfl
  | cons e es ih => simp [enumerate, ih]

theorem map_number_enumerate (first : Nat) (es : List (String × Slide)) :
    ((enumerate first es).map fun e => e.2.number) = List.range' first es.length := by
  induction es generalizing first with
  | nil => rfl
  | cons e es ih => simp [enumerate, ih, List.range'_succ]

/-- The catalog of a deck, with new instances numbered from `first` on. -/
def ofDeck (first : Nat) (deck : Deck) : Catalog where
  slides := ⟨enumerate first deck.entries, by rw [map_fst_enumerate]; exact deck.distinct⟩
  distinct := by rw [map_number_enumerate]; exact List.nodup_range'

/-- The slides with their ids, in order. -/
def entries (c : Catalog) : List (String × Slide) :=
  c.slides.entries.map fun (id, i) => (id, i.slide)

def ids (c : Catalog) : List String := c.slides.keys

theorem map_slide_enumerate (first : Nat) (es : List (String × Slide)) :
    ((enumerate first es).map fun (id, i) => (id, i.slide)) = es := by
  induction es generalizing first with
  | nil => rfl
  | cons e es ih => simp [enumerate, ih]

@[simp] theorem entries_ofDeck (first : Nat) (deck : Deck) :
    (ofDeck first deck).entries = deck.entries :=
  map_slide_enumerate first deck.entries

@[simp] theorem ids_ofDeck (first : Nat) (deck : Deck) : (ofDeck first deck).ids = deck.keys :=
  map_fst_enumerate first deck.entries

def size (c : Catalog) : Nat := c.slides.size

def isEmpty (c : Catalog) : Bool := c.slides.isEmpty

def contains (c : Catalog) (id : String) : Bool := c.slides.contains id

/-! ### Look-ups -/

def find (c : Catalog) (id : String) : Except CatalogError Instance :=
  match c.slides.get? id with
  | some i => .ok i
  | none => .error (.slideNotFound id)

def slide (c : Catalog) (id : String) : Except CatalogError Slide := (c.find id).map Instance.slide

def idOf (c : Catalog) (i : Instance) : Except CatalogError String :=
  match c.slides.entries.find? fun e => e.2.number == i.number with
  | some (id, _) => .ok id
  | none => .error .unregisteredSlide

/-- The slide on which a game begins. -/
def start (c : Catalog) : Except CatalogError String :=
  match c.ids with
  | id :: _ => .ok id
  | [] => .error .emptyCatalog

/-! ### First flags -/

/-- The flags that a slide declares for its buttons. A minigame shows its buttons itself. -/
def slideSeeds (id : String) (slide : Slide) : List (String × Bool) :=
  if slide.isMinigame then []
  else slide.buttons.entries.filterMap fun (name, button) =>
    button.visible.map (buttonKey id name, ·)

/-- The flags that are set when a game begins, in order. -/
def seeds (c : Catalog) : List (String × Bool) :=
  c.entries.flatMap fun (id, slide) => slideSeeds id slide

/-- Set the first flags. -/
def seed (c : Catalog) (s : GameState) : GameState :=
  c.seeds.foldl (fun s (key, value) => s.apply (.setFlag key value)) s

/-! ### Validation -/

/-- The slide to which an action leads, if it names one. -/
def routeTarget? (a : Action) : Option String :=
  if a.opcodeToken = some Opcode.route.name then a.operand 0 else none

/-- What is wrong with the fallback of a slide. -/
def fallbackIssues (c : Catalog) (id : String) (slide : Slide) : List Issue :=
  match slide.fallback with
  | some target => if c.contains target then [] else [.danglingFallback id target]
  | none => if slide.isMinigame then [.missingFallback id] else []

/-- The routes of a button that lead nowhere. -/
def routeIssues (c : Catalog) (id name : String) (button : Button) : List Issue :=
  ((button.actions.filterMap routeTarget?).filter fun target => !c.contains target).map
    (.danglingRoute id name ·)

/-- What is wrong with a slide. -/
def slideIssues (c : Catalog) (id : String) (slide : Slide) : List Issue :=
  c.fallbackIssues id slide ++
    slide.buttons.entries.flatMap fun (name, button) => c.routeIssues id name button

/-- What is wrong with the slides, in order. -/
def issues (c : Catalog) : List Issue := c.entries.flatMap fun (id, slide) => c.slideIssues id slide

end Catalog

end SlideGraph
