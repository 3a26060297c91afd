import SlideGraph.Playthrough.Result
import SlideGraph.Playthrough.Script
import SlideGraph.Session

/-!
# Replaying a script

A script is replayed in a fresh session. The first step that fails ends the replay, and the
session stays where it was before that step. What is expected is checked only if no step failed.
-/

namespace SlideGraph.Playthrough

/-! ### Steps -/

/-- How a run ended, in the words of a report. -/
def ending : Termination → String
  | .completed => "completed"
  | .exited index => "exited at #" ++ index.repr
  | .requirementFailed index => "requirement failed at #" ++ index.repr

/-- Where a step led, and how its actions went if it had any. -/
def note (s : Session) (r : Option Report) : String :=
  "-> " ++ s.navigation.current ++
    match r with
    | none => ""
    | some r =>
      " (" ++ ending r.termination ++ ", " ++ r.dispatched.repr ++ " run, " ++ r.skipped.repr ++
        " skipped)"

/-- The command that a step is. -/
def Step.command : Step → Session.Command
  | press button => .press button
  | actions list => .evaluate list
  | finishMinigame success => .finishMinigame success
  | route slide => .goTo slide

/-- A step that failed. -/
structure Failure where
  step : Step
  error : SessionError
deriving DecidableEq

/-- What came of a list of steps: the session after the last step that succeeded, the notes of the
steps that succeeded, and the step that failed, if there is one. -/
structure Course where
  session : Session
  notes : List (Step × String)
  failure : Option Failure
  records : List LogRecord

/-- The number of steps that were taken, the one that failed among them. -/
def Course.stepsRun (c : Course) : Nat := c.notes.length + (if c.failure.isSome then 1 else 0)

/-- Take steps until one fails. `position` is that of the first of them, counted from one. -/
def follow (script : String) : Nat → Session → List Step → Course
  | _, s, [] => ⟨s, [], none, []⟩
  | position, s, step :: steps =>
    match s.perform step.command with
    | .error error =>
      ⟨s, [], some ⟨step, error⟩,
        [.warn (script ++ " step " ++ position.repr ++ " failed: " ++ error.message)]⟩
    | .ok turn =>
      let said := note turn.session turn.answer
      let done : LogRecord :=
        .debug (script ++ " step " ++ position.repr ++ ": " ++ step.text ++ " " ++ said)
      let course := follow script (position + 1) turn.session steps
      { course with
        notes := (step, said) :: course.notes
        records := turn.events.filterMap Event.record? ++ done :: course.records }

/-! ### Expectations -/

namespace Expectations

/-- What is said of the last slide if another one was expected. -/
def slideFailures (e : Expectations) (s : Session) : List String :=
  match e.slide with
  | none => []
  | some slide =>
    if slide = s.navigation.current then []
    else ["expected slide `" ++ slide ++ "`, ended on `" ++ s.navigation.current ++ "`"]

/-- What is said of items that are missing. -/
def itemFailures (e : Expectations) (s : Session) : List String :=
  (e.items.filter fun item => !s.state.hasItem item).map fun item =>
    "expected item `" ++ item ++ "` in inventory"

/-- What is said of items that should be missing. -/
def missingItemFailures (e : Expectations) (s : Session) : List String :=
  (e.missingItems.filter s.state.hasItem).map fun item =>
    "expected item `" ++ item ++ "` to be absent"

/-- What is said of flags with another value. -/
def flagFailures (e : Expectations) (s : Session) : List String :=
  (e.flags.entries.filter fun (key, expected) => s.state.flag key != expected).map
    fun (key, expected) =>
      "expected flag `" ++ key ++ "` = " ++ Text.truth expected ++ ", found " ++
        Text.truth (s.state.flag key)

/-- What is not as expected, in order. -/
def failures (e : Expectations) (s : Session) : List String :=
  e.slideFailures s ++ e.itemFailures s ++ e.missingItemFailures s ++ e.flagFailures s

end Expectations

/-! ### Scripts -/

/-- What came of replaying a script. -/
structure Replay where
  result : Result
  notes : List (Step × String)
  records : List LogRecord

/-- The failures of a course that came to its end or not. -/
def Course.failures (c : Course) (expect : Expectations) : List String :=
  match c.failure with
  | none => expect.failures c.session
  | some f =>
    ["step " ++ c.stepsRun.repr ++ " (" ++ f.step.text ++ ") on `" ++
      c.session.navigation.current ++ "`: " ++ f.error.message]

namespace Script

/-- What is told of a script for which no session could be opened. -/
def unopened (s : Script) (e : SessionError) : Result where
  script := s.name
  passed := false
  stepsRun := 0
  stepsTotal := s.steps.length
  finalSlide := ""
  failures := ["could not open session: " ++ e.message]
  duration := .ofNanoseconds 0
  snapshot := none

/-- What is told of a script after its steps. -/
def completed (s : Script) (c : Course) : Result where
  script := s.name
  passed := (c.failures s.expect).isEmpty
  stepsRun := c.stepsRun
  stepsTotal := s.steps.length
  finalSlide := c.session.navigation.current
  failures := c.failures s.expect
  duration := .ofNanoseconds 0
  snapshot := c.session.snapshot.toOption

/-- Replay a script. The time that it takes is for the caller to measure. -/
def replay (c : Catalog) (config : Config) (s : Script) : Replay :=
  match Session.fresh c config with
  | .error e => ⟨s.unopened e, [], []⟩
  | .ok turn =>
    let course := follow s.name 1 turn.session s.steps
    ⟨s.completed course, course.notes, turn.events.filterMap Event.record? ++ course.records⟩

end Script

end SlideGraph.Playthrough
