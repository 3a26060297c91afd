/-!
# Styled text for a terminal

A style is switched on in front of a text and all styles are switched off behind it, each by a
control sequence. A text that switches styles off itself is followed by the style again, so that
the rest of it does not lose its style.
-/

namespace SlideGraph.Text

/-- How a text is set off on a terminal: the parameters of the sequence that switches it on. -/
structure Style where
  parameters : List Nat
deriving DecidableEq, Repr

namespace Style

/-- A control sequence with the given parameters. -/
def sequence (parameters : List Nat) : List Char :=
  ['\x1b', '['] ++ ((parameters.map Nat.repr).intersperse ";").flatMap String.toList ++ ['m']

/-- Switches the style on. -/
def on (style : Style) : List Char := sequence style.parameters

/-- Switches all styles off. -/
def off : List Char := ['\x1b', '[', '0', 'm']

/-- Switch a style on again wherever a text switches it off. -/
def resume (on : List Char) : List Char → List Char
  | '\x1b' :: '[' :: '0' :: 'm' :: cs => off ++ (on ++ resume on cs)
  | c :: cs => c :: resume on cs
  | [] => []

/-- A text in a style. -/
def wrap (style : Style) (cs : List Char) : List Char := style.on ++ (resume style.on cs ++ off)

/-- A text in a style, or as it is where nothing is coloured. -/
def paint (style : Style) (colored : Bool) (s : String) : String :=
  if colored then String.ofList (style.wrap s.toList) else s

end Style

end SlideGraph.Text
