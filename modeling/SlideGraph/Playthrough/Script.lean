import SlideGraph.Slide.Document
import SlideGraph.Text.Basic

/-!
# Playthrough scripts

A script is a list of steps to take in a fresh session, with what is expected at the end. A
document holds one script or a list of them, and is read whole before it is matched.
-/

namespace SlideGraph.Playthrough

open Json

/-- Something that a player does. -/
inductive Step
  | press (button : String)
  | actions (list : List Action)
  | finishMinigame (success : Bool)
  | route (slide : String)
deriving DecidableEq, Repr

/-- What is expected of a session at its end. -/
structure Expectations where
  slide : Option String := none
  items : List String := []
  missingItems : List String := []
  flags : KeyMap Bool := .empty
deriving DecidableEq

/-- Steps to take, and what is expected at their end. -/
structure Script where
  name : String
  description : String := ""
  steps : List Step := []
  expect : Expectations := {}
deriving DecidableEq

/-- A step in the words of a report. -/
def Step.text : Step → String
  | press button => "press `" ++ button ++ "`"
  | actions list => "actions (" ++ list.length.repr ++ " entries)"
  | finishMinigame success => "finish minigame (success: " ++ Text.truth success ++ ")"
  | route slide => "route to `" ++ slide ++ "`"

/-! ### Documents -/

/-- The strings in a list. -/
def strings? : Value → Option (List String) := Value.list? Value.string?

/-- A flag with the value that a member of an object gives it. -/
def flag? (m : String × Value) : Option (String × Bool) := m.2.bool?.map (m.1, ·)

/-- The flags in an object. -/
def flags? : Value → Option (KeyMap Bool)
  | .object ms => (ms.mapM flag?).map .ofList
  | _ => none

namespace Step

def toValue : Step → Value
  | press button => .object [("press", .string button)]
  | actions list => .object [("actions", Action.listToValue list)]
  | finishMinigame success => .object [("finish_minigame", .bool success)]
  | route slide => .object [("route", .string slide)]

/-- The step of a kind with its value. -/
def ofMember? : String → Value → Option Step
  | "press", v => v.string?.map press
  | "actions", v => (Action.listOfValue? v).map actions
  | "finish_minigame", v => v.bool?.map finishMinigame
  | "route", v => v.string?.map route
  | _, _ => none

/-- The step that a value is: an object with one member. -/
def ofValue? : Value → Option Step
  | .object [(kind, v)] => ofMember? kind v
  | _ => none

end Step

namespace Expectations

def toValue (e : Expectations) : Value :=
  .object [("slide", (e.slide.map .string).getD .null), ("items", .strings e.items),
    ("missing_items", .strings e.missingItems), ("flags", e.flags.toValue .bool)]

def fields : List String := ["slide", "items", "missing_items", "flags"]

/-- The expectations that a value is. Every field may be missing. -/
def ofValue? (v : Value) : Option Expectations := do
  let p ← Payload.ofValue? v
  guard (p.fits fields)
  some {
    slide := ← p.withDefault 0 "slide" none (Value.optional? Value.string?)
    items := ← p.withDefault 1 "items" [] strings?
    missingItems := ← p.withDefault 2 "missing_items" [] strings?
    flags := ← p.withDefault 3 "flags" .empty flags? }

end Expectations

namespace Script

def toValue (s : Script) : Value :=
  .object [("name", .string s.name), ("description", .string s.description),
    ("steps", .array (s.steps.map Step.toValue)), ("expect", s.expect.toValue)]

def fields : List String := ["name", "description", "steps", "expect"]

/-- The script that a value is. Only the name has to be there. -/
def ofValue? (v : Value) : Option Script := do
  let p ← Payload.ofValue? v
  guard (p.fits fields)
  some {
    name := ← p.required 0 "name" Value.string?
    description := ← p.withDefault 1 "description" "" Value.string?
    steps := ← p.withDefault 2 "steps" [] (Value.list? Step.ofValue?)
    expect := ← p.withDefault 3 "expect" {} Expectations.ofValue? }

/-- The scripts that a value is: a list of scripts, or else one script. -/
def listOfValue? (v : Value) : Option (List Script) :=
  match v.list? ofValue? with
  | some scripts => some scripts
  | none => (ofValue? v).map ([·])

def listReader : Reader (List Script) := (Reader.value Reader.maxDepth).check listOfValue?

def listOfText (s : String) : Except Fault (List Script) := listReader.document s.toList

end Script

end SlideGraph.Playthrough
