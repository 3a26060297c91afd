import SlideGraph.Program
import Std.Time.DateTime

/-!
# The command line program

Looks at the part of the disk that the arguments name, runs the program on it, and puts what comes
of it onto the disk and the terminal.
-/

namespace SlideGraph.Main

open Playthrough (Replay)

/-! ### The disk -/

/-- What stands at a path. -/
def look (path : String) : IO (Option Item) := do
  let p := System.mkFilePath [path]
  try
    if ← p.isDir then return some .directory
    else if ← p.pathExists then return some (.file (← IO.FS.readBinFile p))
    else return none
  catch _ => return none

/-- The place to which names lead if no directory is a link. -/
def placeOf (start : Place) (names : List String) : Place :=
  names.foldl (fun place name =>
    if name = "" ∨ name = "." then place
    else if name = ".." then place.dropLast
    else place ++ [name]) start

/-- Look at a path and at all that lies above it. -/
def survey (d : Disk) (path : String) : IO Disk := do
  let names := Disk.namesOf path
  let found ← (List.range names.length).filterMapM fun n => do
    let above := names.take (n + 1)
    let place := placeOf (d.origin path) above
    if (d.item? place).isSome then return none
    else return (← look (String.intercalate "/" above)).map (place, ·)
  return { d with items := found ++ d.items }

/-- Look at a path, and at the script files in it if it is a directory. -/
def surveyScripts (d : Disk) (path : String) : IO Disk := do
  let d ← survey d path
  if d.isDirectory path then
    let entries ← (System.mkFilePath [path]).readDir
    let names := (entries.toList.map (·.fileName)).filter Playthrough.isScriptName
    (names.map (Playthrough.join path)).foldlM survey d
  else return d

/-- The directory in which the program runs. -/
def workingDirectory : IO Disk := do
  let here := (Disk.namesOf (← IO.currentDir).toString).filter (· ≠ "")
  let above := (List.range here.length).map fun n => (here.take (n + 1), Item.directory)
  return ⟨above, here⟩

/-- The part of the disk that options name. -/
def diskFor (o : Options) : IO Disk := do
  let d ← workingDirectory
  let d ← (o.slides :: (o.config.toList ++ o.output.toList)).foldlM survey d
  (Text.splitCommas o.scripts).foldlM surveyScripts d

/-- The content of the file that is written under a path. -/
def contentAt (d : Disk) (path : String) : Option (Array UInt8) :=
  match d.find path with
  | .ok (_, .file content) => some content.data
  | _ => none

/-- Put the file that a run has written onto the disk. -/
def store (before after : Disk) (path : String) : IO Unit := do
  if let some content := contentAt after path then
    if contentAt before path != some content then
      IO.FS.writeBinFile (System.mkFilePath [path]) ⟨content⟩

/-! ### The terminal and the clock -/

/-- Whether a variable of the environment is set to anything but zero. -/
def isOn (name : String) : IO (Option Bool) := return (← IO.getEnv name).map (· ≠ "0")

/-- Whether texts are styled: as the environment demands, or else if a terminal shows them. -/
def wantsColors : IO Bool := do
  if (← isOn "CLICOLOR_FORCE") = some true then return true
  else if (← isOn "NO_COLOR").isSome then return false
  else return ((← isOn "CLICOLOR").getD true) && (← (← IO.getStdout).isTty)

/-- A number with at least so many digits. -/
def digits (width : Nat) (n : Int) : String :=
  let s := n.toNat.repr
  String.ofList (List.replicate (width - s.length) '0') ++ s

/-- The time of the world clock, to the second. -/
def stamp : IO String := do
  let t := Std.Time.PlainDateTime.ofWallTime ((← Std.Time.Timestamp.now).toWallTime ⟨0⟩)
  return digits 4 t.year.toInt ++ "-" ++ digits 2 t.month.val ++ "-" ++ digits 2 t.day.val ++ " " ++
    digits 2 t.hour.val ++ ":" ++ digits 2 t.minute.val ++ ":" ++ digits 2 t.second.val ++ " UTC"

/-- The time since a reading of the clock. -/
def elapsed (since : Nat) : IO Duration :=
  return .ofNanoseconds (.ofNat ((← IO.monoNanosNow) - since))

/-- The words for what a failure was caused by. Of a document only the kind of fault is known. -/
def words : Program.Failure.Cause → String
  | .file .notFound => "No such file or directory (os error 2)"
  | .file .notADirectory => "Not a directory (os error 20)"
  | .file .isADirectory => "Is a directory (os error 21)"
  | .file .nameTooLong => "File name too long (os error 36)"
  | .file .notText => "stream did not contain valid UTF-8"
  | .file .invalidPath => "file name contained an unexpected NUL byte"
  | .text .malformed => "the text is not a document"
  | .text .truncated => "the text ends too early"
  | .text .mismatch => "the document has another shape"

/-- Replay the scripts of a run, each by the clock. -/
def replayTimed (r : Program.Ready) : IO (List Replay) :=
  r.scripts.mapM fun s => do
    let begun ← IO.monoNanosNow
    let replay := s.replay r.catalog r.config
    let duration ← elapsed begun
    return { replay with result := { replay.result with duration } }

/-! ### The program -/

/-- Print what a run has printed. -/
def print (o : Program.Outcome) : IO UInt32 := do
  IO.print o.output
  IO.eprint o.errors
  return UInt32.ofNat o.code

/-- Run the program with options. -/
def execute (o : Options) : IO UInt32 := do
  let host : Program.Host := ⟨← wantsColors, words⟩
  let d ← diskFor o
  let begun ← IO.monoNanosNow
  let outcome ← match Program.start host o d with
    | .ended outcome => pure outcome
    | .ready r =>
      let replays ← replayTimed r
      pure (Program.finish r replays (← elapsed begun) (← elapsed begun) (← stamp))
  match o.output with
  | none => print outcome
  | some path =>
    try
      store d outcome.disk path
      print outcome
    catch e =>
      let host := { host with words := fun _ => toString e }
      let f : Program.Failure := .outputUnavailable path .notFound
      print (Program.failed host d outcome.output outcome.errors f)

end SlideGraph.Main

/-- Replays scripted playthroughs against a deck of slides. -/
def main (arguments : List String) : IO UInt32 := do
  match SlideGraph.CommandLine.parse arguments with
  | .ok (.run o) => SlideGraph.Main.execute o
  | _ =>
    let never : SlideGraph.Duration := .ofNanoseconds 0
    let clock : SlideGraph.Program.Clock := ⟨fun _ => never, never, never, ""⟩
    let host : SlideGraph.Program.Host := ⟨false, SlideGraph.Main.words⟩
    SlideGraph.Main.print (SlideGraph.Program.run host arguments clock ⟨[], []⟩)
