import SlideGraph.Text.Glyph

/-!
# Texts in quotation marks

A text is quoted for the eye of an author who reads a log: a quote or a backslash inside it gets a
backslash, the usual controls have their letters, and any other character without a glyph is
spelled out by its code point.
-/

namespace SlideGraph.Text

/-- A character inside quotation marks. -/
def spell (c : Char) : List Char :=
  if c = '\x00' then ['\\', '0']
  else if c = '\t' then ['\\', 't']
  else if c = '\r' then ['\\', 'r']
  else if c = '\n' then ['\\', 'n']
  else if c = '"' ∨ c = '\\' then ['\\', c]
  else if hasGlyph c then [c]
  else ['\\', 'u', '{'] ++ Nat.toDigits 16 c.toNat ++ ['}']

/-- A text in quotation marks. -/
def quoted (s : String) : String := String.ofList ('"' :: s.toList.flatMap spell ++ ['"'])

/-- A list of texts in quotation marks, in square brackets. -/
def quotedList (xs : List String) : String := "[" ++ String.intercalate ", " (xs.map quoted) ++ "]"

end SlideGraph.Text
