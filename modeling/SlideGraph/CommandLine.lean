import SlideGraph.Playthrough.Summary

/-!
# The command line

Arguments are read from the left, and the first that cannot be used refuses them all. No option
may be given twice. A value stands behind its option or, after an equals sign, in the same
argument; one that begins with a dash can only be given after an equals sign.
-/

namespace SlideGraph

open Playthrough (Format)

/-- What a run is asked to do. -/
structure Options where
  slides : String := "slideweave-game/assets/slides.json"
  scripts : String := "slideweave-tester/scripts"
  listSlides : Bool := false
  format : Format := .console
  output : Option String := none
  config : Option String := none
  validate : Bool := false
  verbose : Bool := false
deriving DecidableEq, Repr

/-- What the program is asked to do. -/
inductive Request
  | run (options : Options)
  | version
  | help
deriving DecidableEq, Repr

/-- Why arguments are refused. -/
inductive UsageError
  | unexpected (argument : String)
  | missingValue (option : String)
  | unwantedValue (option : String)
  | invalidValue (option value : String)
  | repeated (option : String)
deriving DecidableEq, Repr

namespace UsageError

def message : UsageError → String
  | unexpected argument => "unexpected argument " ++ argument
  | missingValue option => "a value is required for " ++ option
  | unwantedValue option => "no value may be given to " ++ option
  | invalidValue option value => "invalid value " ++ value ++ " for " ++ option
  | repeated option => option ++ " cannot be used multiple times"

end UsageError

namespace CommandLine

/-! ### Options -/

/-- The options that have a value. -/
inductive Setting
  | slides
  | scripts
  | report
  | output
  | config
deriving DecidableEq, Repr

/-- The options that have none. -/
inductive Flag
  | listSlides
  | validate
  | verbose
deriving DecidableEq, Repr

/-- An option of any kind. -/
inductive Switch
  | setting (s : Setting)
  | flag (f : Flag)
  | version
  | help
deriving DecidableEq, Repr

/-- The option with a long name. -/
def Switch.ofLong? : String → Option Switch
  | "slides" => some (.setting .slides)
  | "scripts" => some (.setting .scripts)
  | "report" => some (.setting .report)
  | "output" => some (.setting .output)
  | "config" => some (.setting .config)
  | "list-slides" => some (.flag .listSlides)
  | "validate" => some (.flag .validate)
  | "verbose" => some (.flag .verbose)
  | "version" => some .version
  | "help" => some .help
  | _ => none

/-- The option with a short name. None of them has a value. -/
def Switch.ofShort? : Char → Option Switch
  | 'v' => some (.flag .verbose)
  | 'V' => some .version
  | 'h' => some .help
  | _ => none

/-- The options that have been given so far. -/
structure Draft where
  settings : List (Setting × String) := []
  flags : List Flag := []

/-- Whether an option takes a value. A path may not be empty. -/
def Setting.takes : Setting → String → Bool
  | .report, value => (Format.ofName? value).isSome
  | .scripts, _ => true
  | .slides, value | .output, value | .config, value => value ≠ ""

namespace Draft

/-- Give an option its value. -/
def set (d : Draft) (name : String) (s : Setting) (value : String) : Except UsageError Draft :=
  if (d.settings.lookup s).isSome then .error (.repeated name)
  else if s.takes value then .ok { d with settings := (s, value) :: d.settings }
  else .error (.invalidValue name value)

/-- Give an option that has no value. -/
def raise (d : Draft) (name : String) (f : Flag) : Except UsageError Draft :=
  if f ∈ d.flags then .error (.repeated name) else .ok { d with flags := f :: d.flags }

/-- The options that were given, and the defaults of the others. -/
def options (d : Draft) : Options :=
  let standard : Options := {}
  { slides := (d.settings.lookup .slides).getD standard.slides
    scripts := (d.settings.lookup .scripts).getD standard.scripts
    listSlides := .listSlides ∈ d.flags
    format := ((d.settings.lookup .report).bind Format.ofName?).getD standard.format
    output := d.settings.lookup .output
    config := d.settings.lookup .config
    validate := .validate ∈ d.flags
    verbose := .verbose ∈ d.flags }

end Draft

/-! ### Arguments -/

/-- How far the reading of arguments has come. -/
inductive Progress
  /-- An option may follow. -/
  | reading (d : Draft)
  /-- The value of an option has to follow. -/
  | awaiting (d : Draft) (name : String) (s : Setting)
  /-- Nothing may follow. -/
  | ended (d : Draft)
  /-- What follows makes no difference. -/
  | settled (r : Request)

/-- Give an option whose value, if it has one, is not in the same argument. -/
def give (d : Draft) (name : String) : Switch → Except UsageError Progress
  | .setting s => .ok (.awaiting d name s)
  | .flag f => (d.raise name f).map .reading
  | .version => .ok (.settled .version)
  | .help => .ok (.settled .help)

/-- The short options in one argument. -/
def short (d : Draft) : List Char → Except UsageError Progress
  | [] => .ok (.reading d)
  | c :: cs =>
    let name := "-" ++ c.toString
    match Switch.ofShort? c with
    | none => .error (.unexpected name)
    | some switch =>
      match give d name switch with
      | .ok (.reading d) => short d cs
      | other => other

/-- A long option, with the value behind its equals sign if there is one. -/
def long (d : Draft) (cs : List Char) : Except UsageError Progress :=
  let word := String.ofList (cs.takeWhile (· ≠ '='))
  let name := "--" ++ word
  match Switch.ofLong? word, cs.dropWhile (· ≠ '=') with
  | none, _ => .error (.unexpected name)
  | some switch, [] => give d name switch
  | some (.setting s), _ :: value => (d.set name s (String.ofList value)).map .reading
  | some _, _ :: _ => .error (.unwantedValue name)

/-- Whether an argument can be a value behind its option. -/
def isValue (argument : String) : Bool := argument = "-" || !argument.startsWith "-"

/-- Read one more argument. -/
def advance : Progress → String → Except UsageError Progress
  | .reading d, argument =>
    match argument.toList with
    | ['-', '-'] => .ok (.ended d)
    | '-' :: '-' :: cs => long d cs
    | '-' :: c :: cs => short d (c :: cs)
    | _ => .error (.unexpected argument)
  | .awaiting d name s, argument =>
    if isValue argument then (d.set name s argument).map .reading else .error (.missingValue name)
  | .ended _, argument => .error (.unexpected argument)
  | .settled r, _ => .ok (.settled r)

/-- What is asked for when there are no more arguments. -/
def conclude : Progress → Except UsageError Request
  | .reading d | .ended d => .ok (.run d.options)
  | .awaiting _ name _ => .error (.missingValue name)
  | .settled r => .ok r

/-- Read the arguments of the program. -/
def parse (arguments : List String) : Except UsageError Request := do
  conclude (← arguments.foldlM advance (.reading {}))

/-! ### Texts for the caller -/

/-- What the caller is told about the program's version. -/
def versionText : String := "slideweave-tester 0.1.0\n"

def helpText : String := Text.lines [
  "Replays scripted playthroughs against a Slideweave slide graph",
  "",
  "Usage: slideweave-tester [OPTIONS]",
  "",
  "Options:",
  "      --slides <SLIDES>    Slide graph to load",
  "      --scripts <SCRIPTS>  Script files or directories of scripts (comma-separated)",
  "      --list-slides        List the slides in the graph and exit",
  "      --report <REPORT>    Output report format (json, markdown or console)",
  "      --output <OUTPUT>    Optional path to write the report output instead of stdout",
  "      --config <CONFIG>    Engine configuration file (JSON)",
  "      --validate           Fail when the slide graph has dangling references",
  "  -v, --verbose            Verbose output",
  "  -h, --help               Print help",
  "  -V, --version            Print version"]

end CommandLine

end SlideGraph
