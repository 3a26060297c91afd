/-!
# Faults of a JSON text

A text is read from left to right and the first problem met decides what is said about it. A
*step* reads one thing from the front of a text and hands back the rest.
-/

namespace SlideGraph.Json

/-- Why a text is refused. -/
inductive Fault
  /-- The text is not JSON. -/
  | malformed
  /-- The text ends before the document does. -/
  | truncated
  /-- The text is JSON of a shape that its place does not take. -/
  | mismatch
deriving DecidableEq, Repr

/-- What a step makes of a text: what it read and the text that is left, or the first fault. -/
abbrev Step (α : Type) := Except Fault (α × List Char)

/-- The characters that may stand between the tokens of a document. -/
def isBlank (c : Char) : Bool :=
  c == ' ' || c == '\t' || c == '\n' || c == '\r'

/-- Drop the blanks at the front of a text. -/
def dropBlanks (s : List Char) : List Char :=
  s.dropWhile isBlank

theorem length_dropBlanks_le (s : List Char) : (dropBlanks s).length ≤ s.length :=
  (List.dropWhile_sublist isBlank).length_le

theorem length_lt_of_dropBlanks_eq_cons {s t : List Char} {c : Char}
    (h : dropBlanks s = c :: t) : t.length < s.length := by
  have := length_dropBlanks_le s
  simp only [h, List.length_cons] at this
  omega

/-- Read the characters of `word` from the front of a text. -/
def literal : List Char → List Char → Except Fault (List Char)
  | [], s => .ok s
  | _ :: _, [] => .error .truncated
  | c :: word, d :: s => if c = d then literal word s else .error .malformed

theorem literal_eq_ok {word s t : List Char} (h : literal word s = .ok t) : s = word ++ t := by
  induction word generalizing s with
  | nil => simpa [literal] using h
  | cons c word ih =>
    cases s with
    | nil => simp [literal] at h
    | cons d s =>
      by_cases hc : c = d
      · simp only [literal, hc, if_true] at h
        simp [hc, ih h]
      · simp [literal, hc] at h

end SlideGraph.Json
