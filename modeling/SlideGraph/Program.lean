import SlideGraph.CommandLine
import SlideGraph.Engine
import SlideGraph.Playthrough.Loading
import SlideGraph.Playthrough.Replay

/-!
# The program

The program replays scripts against a deck of slides and reports how they went. It is a function
of its arguments, the disk, the readings of a clock, and the words in which the system and the
reader of documents tell of faults: what it prints, what it writes and how it ends. `start` is what
comes before the scripts are replayed, `finish` what comes after.
-/

namespace SlideGraph

open Playthrough (Script ScriptError Result Replay)
open Text (lines)

namespace Program

/-! ### Failures -/

/-- Why the program gives up. -/
inductive Failure
  | slides (e : LoadError)
  | configUnreadable (path : String) (fault : FileFault)
  | configMalformed (path : String) (fault : Json.Fault)
  | graphIssues (path : String) (count : Nat)
  | script (e : ScriptError)
  | noScripts (paths : String)
  | outputUnavailable (path : String) (fault : FileFault)
deriving DecidableEq, Repr

namespace Failure

def message : Failure → String
  | slides e => e.message
  | configUnreadable path _ => "failed to read config " ++ path
  | configMalformed path _ => "malformed config " ++ path
  | graphIssues path count => path ++ " has " ++ count.repr ++ " graph issue(s)"
  | script e => e.message
  | noScripts paths => "no playthrough scripts found in `" ++ paths ++ "`"
  | outputUnavailable path _ => "failed to create " ++ path

/-- What lies under a failure: a fault that the system or the reader of documents has told of. -/
inductive Cause
  | file (fault : FileFault)
  | text (fault : Json.Fault)
deriving DecidableEq, Repr

/-- What a failure was caused by, if it was caused by something else. -/
def cause? : Failure → Option Cause
  | slides (.unreachable _ fault) | configUnreadable _ fault | script (.unreadable _ fault)
  | outputUnavailable _ fault => some (.file fault)
  | slides (.malformed _ fault) | configMalformed _ fault | script (.malformed _ fault) =>
    some (.text fault)
  | graphIssues _ _ | noScripts _ => none

/-- What the program prints of a failure. The cause is told in the words of those that found it. -/
def report (words : Cause → String) (f : Failure) : String :=
  "Error: " ++ f.message ++ "\n" ++
    match f.cause? with
    | none => ""
    | some cause => "\nCaused by:\n    " ++ words cause ++ "\n"

end Failure

/-! ### Parts of a run -/

/-- The settings in a file, or the defaults if no file is given. -/
def loadConfig (d : Disk) : Option String → Except Failure Config
  | none => .ok {}
  | some path =>
    match d.readText path with
    | .error fault => .error (.configUnreadable path fault)
    | .ok text =>
      match Config.ofText text with
      | .error fault => .error (.configMalformed path fault)
      | .ok config => .ok config

def loadCatalog (d : Disk) (path : String) : Except Failure (Catalog × List LogRecord) :=
  match (Source.file path).catalog 0 d with
  | .error e => .error (.slides e)
  | .ok loaded => .ok loaded

/-- The scripts for which a comma-separated list of paths stands. There has to be one. -/
def loadScripts (d : Disk) (paths : String) : Except Failure (List Script) :=
  match Script.load d paths with
  | .error e => .error (.script e)
  | .ok [] => .error (.noScripts paths)
  | .ok scripts => .ok scripts

/-- What the check of a catalog brings to light. -/
structure Check where
  records : List LogRecord
  /-- The lines for the caller. -/
  warnings : List String
  failure : Option Failure

/-- How a warning is set off. -/
def warning : Text.Style := ⟨[33]⟩

/-- Check a catalog from a file. Its issues are a failure only if they are asked to be. -/
def checkCatalog (colored : Bool) (path : String) (validate : Bool) (c : Catalog) : Check where
  records := c.issues.map fun i => .warn (path ++ ": " ++ i.message)
  warnings := c.issues.map fun i => "⚠️  " ++ warning.paint colored i.message
  failure :=
    if validate && !c.issues.isEmpty then some (.graphIssues path c.issues.length) else none

/-- A slide in a line. -/
def slideLine (id : String) (slide : Slide) : String :=
  "  " ++ id ++ String.ofList (List.replicate (25 - id.length) ' ') ++ " - " ++
    slide.buttons.size.repr ++ " buttons" ++ (if slide.isMinigame then ", minigame" else "") ++
    match slide.fallback with
    | none => ""
    | some target => ", falls back to " ++ target

def slideList (c : Catalog) : String :=
  lines ("Available slides:" :: c.entries.map fun (id, slide) => slideLine id slide)

/-- What stands above a run. -/
def banner (colored : Bool) : String :=
  lines [Playthrough.Summary.title.paint colored "🎞️ Slideweave Playthrough Tester",
    Playthrough.Summary.rule.paint colored "================================"]

/-- How the name of a script is set off while it is replayed. -/
def highlight : Text.Style := ⟨[97]⟩

/-- How what is beside the point is set off. -/
def aside : Text.Style := ⟨[2]⟩

/-- The lines of the steps that succeeded, from a position on. -/
def noteLines (colored : Bool) : Nat → List (Playthrough.Step × String) → List String
  | _, [] => []
  | position, (step, note) :: rest =>
    ("   " ++ aside.paint colored ("#" ++ position.repr) ++ " " ++ step.text ++ " " ++
      aside.paint colored note) :: noteLines colored (position + 1) rest

/-- A replay in lines. -/
def replayLines (colored : Bool) (r : Replay) : List String :=
  ("🧪 Replaying: " ++ highlight.paint colored r.result.script) :: noteLines colored 1 r.notes

/-! ### Runs -/

/-- Where a run takes place: whether texts are coloured there, and the words of the system and of
the reader of documents for what a failure was caused by. -/
structure Host where
  colored : Bool
  words : Failure.Cause → String

/-- How a run ended, what it printed, and the disk that it left. -/
structure Outcome where
  code : Nat
  output : String := ""
  errors : String := ""
  disk : Disk

/-- A run that is ready to replay its scripts. -/
structure Ready where
  options : Options
  host : Host
  catalog : Catalog
  config : Config
  scripts : List Script
  output : String
  errors : String
  disk : Disk

/-- A run that is over already, or ready to replay its scripts. -/
inductive Stage
  | ended (o : Outcome)
  | ready (r : Ready)

/-- Put a text where the caller wants it: into a file, or behind what has been printed. -/
def deliver (output : Option String) (printed text : String) (d : Disk) :
    Except Failure (String × Disk) :=
  match output with
  | none => .ok (printed ++ text, d)
  | some path =>
    match d.writeText path text with
    | .error fault => .error (.outputUnavailable path fault)
    | .ok d => .ok (printed, d)

/-- A run that has failed after it has printed something. -/
def failed (host : Host) (d : Disk) (output errors : String) (f : Failure) : Outcome :=
  ⟨1, output, errors ++ f.report host.words, d⟩

/-- What a run does before it replays scripts. -/
def start (host : Host) (o : Options) (d : Disk) : Stage :=
  match loadConfig d o.config with
  | .error f => .ended (failed host d "" "" f)
  | .ok config =>
    match loadCatalog d o.slides with
    | .error f => .ended (failed host d "" "" f)
    | .ok (catalog, _) =>
      if o.listSlides then
        match deliver o.output "" (slideList catalog) d with
        | .error f => .ended (failed host d "" "" f)
        | .ok (output, d) => .ended ⟨0, output, "", d⟩
      else
        let check := checkCatalog host.colored o.slides o.validate catalog
        let printed := banner host.colored
        let errors := lines check.warnings
        match check.failure with
        | some f => .ended (failed host d printed errors f)
        | none =>
          match loadScripts d o.scripts with
          | .error f => .ended (failed host d printed errors f)
          | .ok scripts => .ready ⟨o, host, catalog, config, scripts, printed, errors, d⟩

/-- What a run prints while it replays scripts. -/
def replayed (r : Ready) (replays : List Replay) : String :=
  if r.options.verbose then lines (replays.flatMap (replayLines r.host.colored)) else ""

/-- What a run does after it has replayed scripts. Not all of them may have passed. -/
def finish (r : Ready) (replays : List Replay) (summed total : Duration) (stamp : String) :
    Outcome :=
  let results := replays.map Replay.result
  let printed := r.output ++ replayed r replays
  let report :=
    Playthrough.Summary.written r.options.format r.host.colored results summed total stamp
  match deliver r.options.output printed report r.disk with
  | .error f => failed r.host r.disk printed r.errors f
  | .ok (output, disk) => ⟨if results.all Result.passed then 0 else 1, output, r.errors, disk⟩

/-- The readings of a clock: how long each script took, how long it took until the results were
summed up and until the end, and the time of day. -/
structure Clock where
  script : Nat → Duration
  summed : Duration
  total : Duration
  stamp : String

/-- Replay scripts, of which the first has the position `index`. -/
def replayAll (catalog : Catalog) (config : Config) (took : Nat → Duration) :
    Nat → List Script → List Replay
  | _, [] => []
  | index, s :: rest =>
    let r := s.replay catalog config
    { r with result := { r.result with duration := took index } } ::
      replayAll catalog config took (index + 1) rest

/-- Run the program with options. -/
def execute (host : Host) (o : Options) (clock : Clock) (d : Disk) : Outcome :=
  match start host o d with
  | .ended outcome => outcome
  | .ready r =>
    finish r (replayAll r.catalog r.config clock.script 0 r.scripts) clock.summed clock.total
      clock.stamp

/-- Run the program with arguments. -/
def run (host : Host) (arguments : List String) (clock : Clock) (d : Disk) : Outcome :=
  match CommandLine.parse arguments with
  | .error e => ⟨2, "", "error: " ++ e.message ++ "\n", d⟩
  | .ok .version => ⟨0, CommandLine.versionText, "", d⟩
  | .ok .help => ⟨0, CommandLine.helpText, "", d⟩
  | .ok (.run o) => execute host o clock d

end Program

end SlideGraph
