/-!
# Words and lines
-/

namespace SlideGraph.Text

/-- A truth value as a word. -/
def truth (b : Bool) : String := if b then "true" else "false"

/-- A text of lines, each with its line break. -/
def lines (ls : List String) : String := String.join (ls.map (· ++ "\n"))

end SlideGraph.Text
