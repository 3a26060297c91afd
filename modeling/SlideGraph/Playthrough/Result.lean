import SlideGraph.Snapshot
import SlideGraph.Time

/-!
# Results of playthroughs

What came of a script, as it is told in a report. In a document the time is written in whole
microseconds.
-/

namespace SlideGraph.Playthrough

open Json

/-- What came of a script. -/
structure Result where
  script : String
  passed : Bool
  stepsRun : Nat
  stepsTotal : Nat
  /-- The slide on which the session ended, empty if there was no session. -/
  finalSlide : String
  failures : List String
  duration : Duration
  /-- What was shown at the end, if the last slide is known. -/
  snapshot : Option Snapshot
deriving DecidableEq

namespace Result

/-- The microseconds that are written for a span: the whole ones in it, of at most 64 bits. -/
def writtenMicroseconds (d : Duration) : UInt64 := .ofNat (min d.microseconds (UInt64.size - 1))

def toValue (r : Result) : Value :=
  .members [("scenario_name", some (.string r.script)), ("passed", some (.bool r.passed)),
    ("steps_run", some (.nat r.stepsRun)), ("steps_total", some (.nat r.stepsTotal)),
    ("final_slide", some (.string r.finalSlide)), ("failures", some (.strings r.failures)),
    ("duration", some (.nat (writtenMicroseconds r.duration).toNat)),
    ("snapshot", r.snapshot.map Snapshot.toValue)]

def listToValue (rs : List Result) : Value := .array (rs.map toValue)

/-- A result that is being read. -/
structure Draft where
  script : Option String := none
  passed : Option Bool := none
  stepsRun : Option Nat := none
  stepsTotal : Option Nat := none
  finalSlide : Option String := none
  failures : Option (List String) := none
  duration : Option Duration := none
  snapshot : Option (Option Snapshot) := none

def fields : List (FieldReader Draft) := [
  .slot "scenario_name" Draft.script (fun x d => { d with script := some x }) .string,
  .slot "passed" Draft.passed (fun x d => { d with passed := some x }) .bool,
  .slot "steps_run" Draft.stepsRun (fun x d => { d with stepsRun := some x }) .count,
  .slot "steps_total" Draft.stepsTotal (fun x d => { d with stepsTotal := some x }) .count,
  .slot "final_slide" Draft.finalSlide (fun x d => { d with finalSlide := some x }) .string,
  .slot "failures" Draft.failures (fun x d => { d with failures := some x }) (.list .string),
  .slot "duration" Draft.duration (fun x d => { d with duration := some x })
    (Reader.count.map fun n => .ofMicroseconds (.ofNat n)),
  .slot "snapshot" Draft.snapshot (fun x d => { d with snapshot := some x })
    (.optional Snapshot.reader)]

/-- Reads a result. Only the snapshot may be missing. -/
def reader : Reader Result := .record fields {} fun d => do
  some ⟨← d.script, ← d.passed, ← d.stepsRun, ← d.stepsTotal, ← d.finalSlide, ← d.failures,
    ← d.duration, d.snapshot.getD none⟩

def listOfText (s : String) : Except Fault (List Result) :=
  (Reader.list reader).document s.toList

end Result

end SlideGraph.Playthrough
