import SlideGraph.Text.Blank

/-!
# A disk with files and directories

A disk is a list of places with what is there, and a place from which relative paths start. A path
is walked name by name, so it fails where the walk fails: at a name that is missing, or at a file
that is taken for a directory.
-/

namespace SlideGraph

/-- Why a file cannot be used. -/
inductive FileFault
  | notFound
  | notADirectory
  | isADirectory
  /-- The content is not text. -/
  | notText
  | invalidPath
  | nameTooLong
deriving DecidableEq, Repr

/-- The names that lead to a place from the root. -/
abbrev Place := List String

/-- What there is at a place. -/
inductive Item
  | directory
  | file (content : ByteArray)

def Item.isDirectory : Item → Bool
  | directory => true
  | file _ => false

/-- A disk and the directory from which relative paths start. -/
structure Disk where
  items : List (Place × Item)
  here : Place

namespace Disk

/-! ### Places -/

/-- What there is at a place. The root is always there. -/
def item? (d : Disk) (place : Place) : Option Item :=
  if place = [] then some .directory else d.items.lookup place

/-- The names of what stands in a directory, in no particular order. -/
def names (d : Disk) (place : Place) : List String :=
  d.items.filterMap fun (p, _) => if p.dropLast = place then p.getLast? else none

/-- Put a file at a place, over one that is there. -/
def write (d : Disk) (place : Place) (content : ByteArray) : Disk :=
  { d with
    items := (place, .file content) :: d.items.filter fun (p, _) => p ≠ place }

/-- Add an item, given by its names from `here`, with all the directories above it. -/
def add (d : Disk) (names : List String) (item : Item) : Disk :=
  let above := (List.range names.length).map fun n => (d.here ++ names.take n, Item.directory)
  let missing := above.filter fun (p, _) => (d.item? p).isNone
  let others := d.items.filter fun (p, _) => p ≠ d.here ++ names
  { d with items := (d.here ++ names, item) :: missing ++ others }

/-! ### Paths -/

/-- Walk from a place along names. -/
def walk (d : Disk) (place : Place) : List String → Except FileFault Place
  | [] => .ok place
  | name :: rest =>
    match d.item? place with
    | none => .error .notFound
    | some (.file _) => .error .notADirectory
    | some .directory =>
      if name = "" ∨ name = "." then d.walk place rest
      else if name = ".." then d.walk place.dropLast rest
      else if 255 < name.utf8ByteSize then .error .nameTooLong
      else
        match d.item? (place ++ [name]) with
        | none => .error .notFound
        | some _ => d.walk (place ++ [name]) rest

/-- The names in a path. -/
def namesOf (path : String) : List String := (Text.between '/' path.toList).map String.ofList

/-- Where the walk along a path starts. -/
def origin (d : Disk) (path : String) : Place := if path.startsWith "/" then [] else d.here

/-- What is wrong with a path whatever is on the disk. -/
def pathFault? (path : String) : Option FileFault :=
  if path.contains '\x00' then some .invalidPath
  else if path = "" then some .notFound
  else if 4096 ≤ path.utf8ByteSize then some .nameTooLong
  else none

/-- The place to which a path leads, and what is there. -/
def find (d : Disk) (path : String) : Except FileFault (Place × Item) :=
  match pathFault? path with
  | some fault => .error fault
  | none =>
    match d.walk (d.origin path) (namesOf path) with
    | .error fault => .error fault
    | .ok place =>
      match d.item? place with
      | none => .error .notFound
      | some item => .ok (place, item)

/-! ### Files -/

/-- The text of a file. -/
def readText (d : Disk) (path : String) : Except FileFault String :=
  match d.find path with
  | .error fault => .error fault
  | .ok (_, .directory) => .error .isADirectory
  | .ok (_, .file content) =>
    match String.fromUTF8? content with
    | none => .error .notText
    | some text => .ok text

def isDirectory (d : Disk) (path : String) : Bool :=
  match d.find path with
  | .ok (_, .directory) => true
  | _ => false

/-- The names in the directory to which a path leads. -/
def list (d : Disk) (path : String) : Except FileFault (List String) :=
  match d.find path with
  | .error fault => .error fault
  | .ok (_, .file _) => .error .notADirectory
  | .ok (place, .directory) => .ok (d.names place)

/-- The place of the file that is written under a path. The directory above it has to be there, and
no directory may be there in its stead. -/
def target (d : Disk) (path : String) : Except FileFault Place :=
  match pathFault? path with
  | some fault => .error fault
  | none =>
    match d.walk (d.origin path) (namesOf path).dropLast with
    | .error fault => .error fault
    | .ok above =>
      match d.item? above, (namesOf path).getLast? with
      | some .directory, some name =>
        if name = "" ∨ name = "." ∨ name = ".." then .error .isADirectory
        else if 255 < name.utf8ByteSize then .error .nameTooLong
        else if (d.item? (above ++ [name])).any Item.isDirectory then .error .isADirectory
        else .ok (above ++ [name])
      | some (.file _), _ => .error .notADirectory
      | _, _ => .error .notFound

/-- Write a text to a file, over what is there. -/
def writeText (d : Disk) (path text : String) : Except FileFault Disk :=
  match d.target path with
  | .error fault => .error fault
  | .ok place => .ok (d.write place text.toUTF8)

end Disk

end SlideGraph
