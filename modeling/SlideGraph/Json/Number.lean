import SlideGraph.Json.Fault
import SlideGraph.Arithmetic.Binary64

/-!
# Numbers

A number is first read as a *numeral*, the digits that are written, and then told apart by what
its place may take: an integer without a sign, an integer below zero, or any other number.
-/

namespace SlideGraph.Json

/-! ### Numerals -/

/-- A number as it is written. -/
structure Numeral where
  /-- A minus sign stands in front. -/
  negative : Bool
  /-- The digits before the point, none of them superfluous. -/
  whole : List Char
  /-- The digits after the point, none if there is no point. -/
  fraction : List Char
  /-- The sign of the exponent (true for minus) and its digits, if there is one. -/
  exponent : Option (Bool × List Char)
deriving DecidableEq, Repr

namespace Numeral

/-- The digits at the front of a text, at least one. -/
def digits (s : List Char) : Step (List Char) :=
  match s.takeWhile Char.isDigit with
  | [] => .error (if s.isEmpty then .truncated else .malformed)
  | ds => .ok (ds, s.dropWhile Char.isDigit)

/-- The digits before the point. A zero stands alone. -/
def wholePart (s : List Char) : Step (List Char) :=
  match digits s with
  | .error e => .error e
  | .ok ('0' :: _ :: _, _) => .error .malformed
  | .ok r => .ok r

/-- The digits after the point, if a point follows. -/
def fractionPart : List Char → Step (List Char)
  | '.' :: s => digits s
  | s => .ok ([], s)

/-- The sign of an exponent, true for minus. -/
def exponentSign : List Char → Bool × List Char
  | '+' :: s => (false, s)
  | '-' :: s => (true, s)
  | s => (false, s)

/-- The exponent, if one follows. -/
def exponentPart : List Char → Step (Option (Bool × List Char))
  | c :: s =>
    if c = 'e' ∨ c = 'E' then
      let (minus, s) := exponentSign s
      match digits s with
      | .error e => .error e
      | .ok (ds, rest) => .ok (some (minus, ds), rest)
    else .ok (none, c :: s)
  | [] => .ok (none, [])

/-- Read a numeral after its sign. -/
def magnitude (negative : Bool) (s : List Char) : Step Numeral :=
  match wholePart s with
  | .error e => .error e
  | .ok (whole, s) =>
    match fractionPart s with
    | .error e => .error e
    | .ok (fraction, s) =>
      match exponentPart s with
      | .error e => .error e
      | .ok (exponent, s) => .ok (⟨negative, whole, fraction, exponent⟩, s)

def scan : List Char → Step Numeral
  | '-' :: s => magnitude true s
  | s => magnitude false s

theorem digits_eq_ok {s t ds : List Char} (h : digits s = .ok (ds, t)) :
    ds ≠ [] ∧ ds = s.takeWhile Char.isDigit ∧ t = s.dropWhile Char.isDigit := by
  unfold digits at h
  split at h
  · cases h
  · rename_i ds' hne
    simp only [Except.ok.injEq, Prod.mk.injEq] at h
    obtain ⟨rfl, rfl⟩ := h
    exact ⟨fun h => hne h, rfl, rfl⟩

theorem digits_length {s t ds : List Char} (h : digits s = .ok (ds, t)) :
    t.length < s.length := by
  obtain ⟨hne, rfl, rfl⟩ := digits_eq_ok h
  have h1 := congrArg List.length (List.takeWhile_append_dropWhile (p := Char.isDigit) (l := s))
  rw [List.length_append] at h1
  have h2 := List.length_pos_iff.2 hne
  omega

theorem wholePart_length {s t ds : List Char} (h : wholePart s = .ok (ds, t)) :
    t.length < s.length := by
  unfold wholePart at h
  split at h
  · cases h
  · cases h
  · rename_i r _ hr
    cases h
    exact digits_length hr

theorem fractionPart_length {s t ds : List Char} (h : fractionPart s = .ok (ds, t)) :
    t.length ≤ s.length := by
  unfold fractionPart at h
  split at h
  · have := digits_length h; simp only [List.length_cons]; omega
  · cases h; exact Nat.le_refl _

theorem exponentSign_length (s : List Char) : (exponentSign s).2.length ≤ s.length := by
  unfold exponentSign
  split <;> simp

theorem exponentPart_length {s t : List Char} {e : Option (Bool × List Char)}
    (h : exponentPart s = .ok (e, t)) : t.length ≤ s.length := by
  unfold exponentPart at h
  split at h
  · rename_i c s
    split at h
    · have := exponentSign_length s
      simp only at h
      split at h
      · cases h
      · rename_i ds rest hd
        cases h
        have := digits_length hd
        simp only [List.length_cons]
        omega
    · cases h; exact Nat.le_refl _
  · cases h; exact Nat.le_refl _

theorem magnitude_length {b : Bool} {s t : List Char} {n : Numeral}
    (h : magnitude b s = .ok (n, t)) : t.length < s.length := by
  unfold magnitude at h
  split at h
  · cases h
  · rename_i h1
    split at h
    · cases h
    · rename_i h2
      split at h
      · cases h
      · rename_i h3
        cases h
        have := wholePart_length h1
        have := fractionPart_length h2
        have := exponentPart_length h3
        omega

theorem scan_length {s t : List Char} {n : Numeral} (h : scan s = .ok (n, t)) :
    t.length < s.length := by
  unfold scan at h
  split at h
  · have := magnitude_length h; simp only [List.length_cons]; omega
  · exact magnitude_length h

end Numeral

/-! ### What a numeral stands for -/

/-- A number as its place sees it. -/
inductive Number
  /-- An integer that is written without a sign and fits 64 bits. -/
  | natural (n : Nat)
  /-- The integer `-n`, where `n` is not zero and `-n` fits 64 bits. -/
  | negative (n : Nat)
  /-- Any other number: one with a point or an exponent, minus zero, or a longer integer. -/
  | real
deriving DecidableEq, Repr

namespace Numeral

/-- The value of a digit. -/
def digitValue (c : Char) : Nat := c.toNat - 48

/-- The number that a list of digits denotes. -/
def valueOf (ds : List Char) : Nat :=
  ds.foldl (fun n d => n * 10 + digitValue d) 0

/-- Append digits to a significand while it fits 64 bits; the digits that are left over come
second. -/
def absorb (significand : Nat) : List Char → Nat × List Char
  | [] => (significand, [])
  | d :: ds =>
    if significand * 10 + digitValue d < UInt64.size then
      absorb (significand * 10 + digitValue d) ds
    else (significand, d :: ds)

/-- Whether `significand * 10 ^ exponent` is finite when each factor and the product are rounded
to 53 bits. -/
def isFinite (significand : Nat) (exponent : Int) : Bool :=
  significand == 0 || exponent < 0 ||
    (exponent ≤ 308 &&
      Binary64.nearest significand * Binary64.nearest (Nat.pow 10 exponent.toNat) <
        Binary64.overflow)

/-- The exponent that is written, zero if there is none. -/
def writtenExponent (n : Numeral) : Int :=
  match n.exponent with
  | none => 0
  | some (minus, ds) => if minus then -(valueOf ds : Int) else valueOf ds

/-- What a numeral stands for, nothing if it is beyond the finite numbers. Digits that the
significand has no room for count as powers of ten before the point and not at all after it. -/
def number? (n : Numeral) : Option Number :=
  let (significand, excess) := absorb 0 n.whole
  if n.fraction.isEmpty && n.exponent.isNone && excess.isEmpty then
    if n.negative then
      if 0 < significand ∧ significand ≤ UInt64.size / 2 then some (.negative significand)
      else some .real
    else some (.natural significand)
  else
    let (significand, dropped) := absorb significand n.fraction
    let exponent :=
      (excess.length : Int) - (n.fraction.length - dropped.length : Nat) + n.writtenExponent
    if isFinite significand exponent then some .real else none

end Numeral

namespace Number

/-- Read a number. One beyond the finite numbers is no JSON. -/
def scan (s : List Char) : Step Number :=
  match Numeral.scan s with
  | .error e => .error e
  | .ok (n, t) =>
    match n.number? with
    | some k => .ok (k, t)
    | none => .error .malformed

/-- Go over a number that nobody asks for. Its value does not matter, and a digit that is missing
at the end of the text is no excuse. -/
def pass (s : List Char) : Except Fault (List Char) :=
  match Numeral.scan s with
  | .error _ => .error .malformed
  | .ok (_, t) => .ok t

theorem scan_length {s t : List Char} {n : Number} (h : scan s = .ok (n, t)) :
    t.length < s.length := by
  unfold scan at h
  split at h
  · cases h
  · rename_i h1
    split at h
    · cases h; exact Numeral.scan_length h1
    · cases h

theorem pass_length {s t : List Char} (h : pass s = .ok t) : t.length < s.length := by
  unfold pass at h
  split at h
  · cases h
  · rename_i h1
    cases h; exact Numeral.scan_length h1

/-- The digits of a number, with its sign. A number that is no integer has none. -/
def chars : Number → List Char
  | .natural n => (Nat.repr n).toList
  | .negative n => '-' :: (Nat.repr n).toList
  | .real => []

/-- The integer that a number is. -/
def toInt? : Number → Option Int
  | .natural n => some n
  | .negative n => some (-(n : Int))
  | .real => none

/-- The number that an integer is. -/
def ofInt : Int → Number
  | .ofNat n => .natural n
  | .negSucc n => .negative (n + 1)

end Number

end SlideGraph.Json
