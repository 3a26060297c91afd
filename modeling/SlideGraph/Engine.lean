import SlideGraph.Session
import SlideGraph.Source

/-!
# The engine

An engine knows a source of slides and the settings, and opens sessions.
-/

namespace SlideGraph

/-- Why no session could be opened from a source. -/
inductive EngineError
  | load (e : LoadError)
  | session (e : SessionError)
deriving DecidableEq, Repr

/-- What opens sessions on the slides of a source. -/
structure Engine where
  source : Source
  config : Config

namespace Engine

def loadCatalog (e : Engine) (first : Nat) (d : Disk) :
    Except LoadError (Catalog × List LogRecord) :=
  e.source.catalog first d

def openSession (e : Engine) (c : Catalog) : Except SessionError (Turn Unit) :=
  Session.fresh c e.config

def createSession (e : Engine) (first : Nat) (d : Disk) : Except EngineError (Turn Unit) :=
  match e.loadCatalog first d with
  | .error e => .error (.load e)
  | .ok (c, records) =>
    match e.openSession c with
    | .error e => .error (.session e)
    | .ok turn => .ok { turn with events := records.map .logged ++ turn.events }

end Engine

end SlideGraph
