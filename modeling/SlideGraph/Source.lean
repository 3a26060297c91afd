import SlideGraph.Catalog
import SlideGraph.Disk
import SlideGraph.Slide.Document

/-!
# Sources of slides

A deck comes from a text or from a file. A load that fails gives an error and nothing else, so
whatever state there is stays as it is.
-/

namespace SlideGraph

/-- Why no deck could be loaded. The origin is the name of the source. -/
inductive LoadError
  | unreachable (origin : String) (fault : FileFault)
  | malformed (origin : String) (fault : Json.Fault)
deriving DecidableEq, Repr

namespace LoadError

/-- The name of the source. -/
def origin : LoadError → String
  | unreachable origin _ | malformed origin _ => origin

def message : LoadError → String
  | unreachable origin _ => "failed to read slide source `" ++ origin ++ "`"
  | malformed origin _ => "malformed slide source `" ++ origin ++ "`"

end LoadError

/-- Where a deck comes from. -/
inductive Source
  | text (origin : String) (json : String)
  | file (path : String)
deriving DecidableEq, Repr

namespace Source

/-- Read a deck from a text with a name. -/
def parse (origin json : String) : Except LoadError Deck :=
  match Deck.ofText json with
  | .error fault => .error (.malformed origin fault)
  | .ok deck => .ok deck

/-- The deck of a source. -/
def deck (d : Disk) : Source → Except LoadError Deck
  | text origin json => parse origin json
  | file path =>
    match d.readText path with
    | .error fault => .error (.unreachable path fault)
    | .ok json => parse path json

/-- The catalog of a source, with instances numbered from `first` on. -/
def catalog (first : Nat) (d : Disk) (s : Source) : Except LoadError (Catalog × List LogRecord) :=
  match s.deck d with
  | .error e => .error e
  | .ok deck =>
    let c := Catalog.ofDeck first deck
    .ok (c, [.info ("loaded " ++ c.size.repr ++ " slides")])

/-- The catalog of a source, and a game state with its first flags. -/
def load (first : Nat) (d : Disk) (s : Source) (state : GameState) :
    Except LoadError (Catalog × GameState × List LogRecord) :=
  match s.catalog first d with
  | .error e => .error e
  | .ok (c, records) =>
    .ok (c, c.seed state,
      records ++ [.info ("seeded " ++ c.seeds.length.repr ++ " visibility flags")])

end Source

end SlideGraph
