import SlideGraph.Interpreter
import SlideGraph.Json.Printer
import SlideGraph.Json.Reader.Container

/-!
# Reports of runs as documents

A report is written as a record of its end and its counts. The end is a record of its own, told
apart by its field `kind`, and has the position where the run ended, if it ended early.
-/

namespace SlideGraph

open Json

namespace Termination

/-- The ways in which a run can end, without the position. -/
inductive Kind
  | completed
  | exited
  | requirementFailed
deriving DecidableEq, Repr

def Kind.ofName? : String → Option Kind
  | "completed" => some completed
  | "exited" => some exited
  | "requirement_failed" => some requirementFailed
  | _ => none

def toValue : Termination → Value
  | .completed => .object [("kind", .string "completed")]
  | .exited index => .object [("kind", .string "exited"), ("at", .nat index)]
  | .requirementFailed index =>
    .object [("kind", .string "requirement_failed"), ("at", .nat index)]

def index? (p : Payload) : Option Nat :=
  if p.fits ["at"] then p.required 0 "at" Value.count? else none

/-- The end with the given fields. One without a position has no item besides its kind. -/
def ofPayload? : Kind → Payload → Option Termination
  | .completed, .items vs => if vs.isEmpty then some .completed else none
  | .completed, .members _ => some .completed
  | .exited, p => (index? p).map .exited
  | .requirementFailed, p => (index? p).map .requirementFailed

/-- Reads an end that stands in a document with brackets of its own. -/
def reader : Reader Termination :=
  (Reader.tagged "kind" Kind.ofName? (Reader.maxDepth - 2)).check fun (k, p) => ofPayload? k p

end Termination

namespace Report

def toValue (r : Report) : Value :=
  .object [("termination", r.termination.toValue), ("dispatched", .nat r.dispatched),
    ("skipped", .nat r.skipped), ("ignored", .nat r.ignored)]

/-- A report that is being read. -/
structure Draft where
  termination : Option Termination := none
  dispatched : Option Nat := none
  skipped : Option Nat := none
  ignored : Option Nat := none

def fields : List (FieldReader Draft) := [
  .slot "termination" Draft.termination (fun x d => { d with termination := some x })
    Termination.reader,
  .slot "dispatched" Draft.dispatched (fun x d => { d with dispatched := some x }) .count,
  .slot "skipped" Draft.skipped (fun x d => { d with skipped := some x }) .count,
  .slot "ignored" Draft.ignored (fun x d => { d with ignored := some x }) .count]

/-- Reads a report, in which no field may be missing. -/
def reader : Reader Report := .record fields {} fun d => do
  some ⟨← d.termination, ← d.dispatched, ← d.skipped, ← d.ignored⟩

end Report

end SlideGraph
