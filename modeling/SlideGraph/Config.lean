import SlideGraph.Json.Printer
import SlideGraph.Json.Reader.Container
import SlideGraph.Time

/-!
# Settings of the engine

Two settings, each with a default: where the skip behind a failed requirement ends if blocks are
nested, and how long pointer moves are held back.
-/

namespace SlideGraph

open Json

/-- Which end of a block ends the skip behind a failed requirement. -/
inductive NestedSkip
  /-- The first end with the label, also that of an inner block with the same label. -/
  | labelMatch
  /-- The end that belongs to the block in which the requirement failed. -/
  | depthTracked
deriving DecidableEq, Repr

namespace NestedSkip

def name : NestedSkip → String
  | labelMatch => "label_match"
  | depthTracked => "depth_tracked"

def ofName? : String → Option NestedSkip
  | "label_match" => some labelMatch
  | "depth_tracked" => some depthTracked
  | _ => none

end NestedSkip

/-- The settings of the engine. -/
structure Config where
  nestedSkip : NestedSkip := .labelMatch
  /-- How long a pointer move is held back, in milliseconds. -/
  pointerMoveDelay : UInt64 := 100
deriving DecidableEq, Repr

namespace Config

/-- How long a pointer move is held back. -/
def delay (c : Config) : Duration := .ofMilliseconds c.pointerMoveDelay

/-! ### Documents -/

def toValue (c : Config) : Value :=
  .object [("nested_skip", .string c.nestedSkip.name),
    ("pointer_move_delay_ms", .nat c.pointerMoveDelay.toNat)]

/-- Settings that are being read. -/
structure Draft where
  nestedSkip : Option NestedSkip := none
  pointerMoveDelay : Option UInt64 := none

def fields : List (FieldReader Draft) := [
  .slot "nested_skip" Draft.nestedSkip (fun x d => { d with nestedSkip := some x })
    (.name NestedSkip.ofName?),
  .slot "pointer_move_delay_ms" Draft.pointerMoveDelay
    (fun x d => { d with pointerMoveDelay := some x })
    (Reader.count.map UInt64.ofNat)]

/-- Reads settings. One that is missing keeps its default. -/
def reader : Reader Config := .record fields {} fun d =>
  let standard : Config := {}
  some ⟨d.nestedSkip.getD standard.nestedSkip, d.pointerMoveDelay.getD standard.pointerMoveDelay⟩

def ofText (s : String) : Except Fault Config := reader.document s.toList

end Config

end SlideGraph
