import SlideGraph.Disk
import SlideGraph.Playthrough.Script

/-!
# Loading scripts

Scripts are loaded from a comma-separated list of files and directories. A directory stands for
the script files directly in it, in ascending order of their names, so the order in which the disk
lists them does not matter. The first file that cannot be loaded ends the loading.
-/

namespace SlideGraph.Playthrough

/-- Why the scripts in a file could not be loaded. -/
inductive ScriptError
  | unreadable (path : String) (fault : FileFault)
  | malformed (path : String) (fault : Json.Fault)
deriving DecidableEq, Repr

def ScriptError.message : ScriptError → String
  | unreadable path _ => "failed to read script " ++ path
  | malformed path _ => "malformed script " ++ path

/-- The ending of the names of script files. -/
def extension : String := ".json"

/-- Whether a name is that of a script file: something stands in front of the extension. -/
def isScriptName (name : String) : Bool := name.endsWith extension && name ≠ extension

/-- The path of what has a name in a directory. -/
def join (path name : String) : String :=
  if path.endsWith "/" then path ++ name else path ++ "/" ++ name

/-- The paths of the script files for which a path stands: those in it if it is a directory, or
else itself. -/
def scriptFiles (d : Disk) (path : String) : List String :=
  match d.list path with
  | .ok names => ((names.filter isScriptName).mergeSort fun a b => decide (a ≤ b)).map (join path)
  | .error _ => [path]

namespace Script

/-- The scripts in a file. -/
def loadFile (d : Disk) (path : String) : Except ScriptError (List Script) :=
  match d.readText path with
  | .error fault => .error (.unreadable path fault)
  | .ok text =>
    match listOfText text with
    | .error fault => .error (.malformed path fault)
    | .ok scripts => .ok scripts

/-- The scripts in files, up to the first that cannot be loaded. -/
def loadFiles (d : Disk) : List String → Except ScriptError (List Script)
  | [] => .ok []
  | path :: paths =>
    match loadFile d path with
    | .error e => .error e
    | .ok scripts =>
      match loadFiles d paths with
      | .error e => .error e
      | .ok more => .ok (scripts ++ more)

/-- The scripts for which a comma-separated list of paths stands. -/
def load (d : Disk) (paths : String) : Except ScriptError (List Script) :=
  loadFiles d ((Text.splitCommas paths).flatMap (scriptFiles d))

end Script

end SlideGraph.Playthrough
