import SlideGraph.Json.Quoted
import SlideGraph.Json.Value

/-!
# Writing values

A value is written with the members of an object in their order. Two layouts differ only in the
blanks between tokens: `Layout.compact` has none, `Layout.indented` puts each item of a container
on a line of its own. An empty container has nothing between its brackets in either.
-/

namespace SlideGraph.Json

/-- The blanks that a written text has between its tokens. -/
structure Layout where
  /-- What stands in front of an item, or of a closing bracket, inside so many containers. -/
  lineBreak : Nat → List Char
  /-- What stands after the colon of a member. -/
  afterColon : List Char

namespace Layout

/-- No blanks at all. -/
def compact : Layout := ⟨fun _ => [], []⟩

/-- One item a line, two more spaces for each container around it. -/
def indented : Layout := ⟨fun depth => '\n' :: List.replicate (2 * depth) ' ', [' ']⟩

end Layout

namespace Value

variable (layout : Layout)

mutual

/-- The text of a value that stands inside `depth` containers. -/
def chars (depth : Nat) : Value → List Char
  | .null => ['n', 'u', 'l', 'l']
  | .bool true => ['t', 'r', 'u', 'e']
  | .bool false => ['f', 'a', 'l', 's', 'e']
  | .number n => n.chars
  | .string s => Quoted.quote s
  | .array [] => ['[', ']']
  | .array (v :: vs) =>
    '[' :: (layout.lineBreak (depth + 1) ++ (chars (depth + 1) v ++ restChars depth vs))
  | .object [] => ['{', '}']
  | .object (m :: ms) =>
    '{' :: (layout.lineBreak (depth + 1) ++ (memberChars depth m ++ restMembers depth ms))

/-- The text from behind an item of an array to the end of the array. -/
def restChars (depth : Nat) : List Value → List Char
  | [] => layout.lineBreak depth ++ [']']
  | v :: vs =>
    ',' :: (layout.lineBreak (depth + 1) ++ (chars (depth + 1) v ++ restChars depth vs))

/-- The text of a member of an object. -/
def memberChars (depth : Nat) : String × Value → List Char
  | (k, v) => Quoted.quote k ++ (':' :: (layout.afterColon ++ chars (depth + 1) v))

/-- The text from behind a member of an object to the end of the object. -/
def restMembers (depth : Nat) : List (String × Value) → List Char
  | [] => layout.lineBreak depth ++ ['}']
  | m :: ms =>
    ',' :: (layout.lineBreak (depth + 1) ++ (memberChars depth m ++ restMembers depth ms))

end

/-- The text of a value without blanks. -/
def compact (v : Value) : String := String.ofList (v.chars .compact 0)

/-- The text of a value with one item a line. -/
def indented (v : Value) : String := String.ofList (v.chars .indented 0)

end Value

end SlideGraph.Json
