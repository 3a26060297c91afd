/-!
# Blank characters and comma-separated lists

The blank characters of Unicode (`White_Space`), and the reading of a list whose pieces stand
between commas: a piece is trimmed of blanks at both ends, and one that is blank altogether is no
piece.
-/

namespace SlideGraph.Text

/-- The code points of blank characters. -/
def blanks : List Nat := [
  0x09, 0x0a, 0x0b, 0x0c, 0x0d, 0x20, 0x85, 0xa0, 0x1680, 0x2000, 0x2001, 0x2002, 0x2003, 0x2004,
  0x2005, 0x2006, 0x2007, 0x2008, 0x2009, 0x200a, 0x2028, 0x2029, 0x202f, 0x205f, 0x3000]

/-- Whether a character is blank. -/
def isBlank (c : Char) : Bool := blanks.contains c.toNat

theorem isBlank_of_isWhitespace {c : Char} (h : c.isWhitespace = true) : isBlank c = true := by
  have : c = ' ' ∨ c = '\t' ∨ c = '\r' ∨ c = '\n' := by
    simpa [Char.isWhitespace, or_assoc] using h
  rcases this with rfl | rfl | rfl | rfl <;> decide

/-- Drop the blanks at the end of a text. -/
def trimEnd (cs : List Char) : List Char := (cs.reverse.dropWhile isBlank).reverse

/-- Drop the blanks at both ends of a text. -/
def trim (cs : List Char) : List Char := trimEnd (cs.dropWhile isBlank)

/-- The texts between the places where a separator stands. There is one more of them than there
are separators. -/
def between (separator : Char) : List Char → List (List Char)
  | [] => [[]]
  | c :: cs =>
    if c = separator then [] :: between separator cs
    else
      match between separator cs with
      | [] => [[c]]
      | piece :: pieces => (c :: piece) :: pieces

theorem between_ne_nil (separator : Char) (cs : List Char) : between separator cs ≠ [] := by
  cases cs with
  | nil => simp [between]
  | cons c cs =>
    simp only [between]
    split
    · simp
    · split <;> simp

/-- The pieces of a comma-separated list. -/
def pieces (cs : List Char) : List (List Char) :=
  ((between ',' cs).map trim).filter (!·.isEmpty)

/-- The pieces of a comma-separated list that is given as a string. -/
def splitCommas (s : String) : List String := (pieces s.toList).map String.ofList

end SlideGraph.Text
