/-!
# Spans and points of time

A `Duration` counts nanoseconds, of which the whole seconds fit 64 bits. An `Instant` is a point of
a clock that may have been read before its origin, with a sign in its 64 bits of seconds, so the
time that passed between two readings is nothing if the clock went backwards. There is a last point
of time, and no point is after it.
-/

namespace SlideGraph

/-- The nanoseconds in as many seconds as 64 bits can count. -/
def Duration.limit : Nat := 18446744073709551616 * 1000000000

/-- A span of time. -/
structure Duration where
  nanoseconds : Nat
  lt : nanoseconds < Duration.limit
deriving DecidableEq, Repr

namespace Duration

theorem mul_lt_limit (n : UInt64) {unit : Nat} (h : unit ≤ 1000000000) :
    n.toNat * unit < limit :=
  Nat.mul_lt_mul_of_lt_of_le n.toNat_lt h (by decide)

def ofMilliseconds (n : UInt64) : Duration := ⟨n.toNat * 1000000, mul_lt_limit n (by decide)⟩

def ofMicroseconds (n : UInt64) : Duration := ⟨n.toNat * 1000, mul_lt_limit n (by decide)⟩

def ofNanoseconds (n : UInt64) : Duration := ⟨n.toNat, Nat.lt_trans n.toNat_lt (by decide)⟩

@[simp] theorem nanoseconds_ofMicroseconds (n : UInt64) :
    (ofMicroseconds n).nanoseconds = n.toNat * 1000 := rfl

@[simp] theorem nanoseconds_ofMilliseconds (n : UInt64) :
    (ofMilliseconds n).nanoseconds = n.toNat * 1000000 := rfl

/-- The whole microseconds in a span. -/
def microseconds (d : Duration) : Nat := d.nanoseconds / 1000

/-- The digits behind the point: `places` of them, without zeros at the end. -/
def fraction (places n : Nat) : List Char :=
  let digits := Nat.toDigits 10 n
  let padded := List.replicate (places - digits.length) '0' ++ digits
  (padded.reverse.dropWhile (· = '0')).reverse

/-- A number of nanoseconds in a unit of `10 ^ places` of them. -/
def inUnit (places : Nat) (name : String) (n : Nat) : String :=
  let unit := Nat.pow 10 places
  let whole := (n / unit).repr
  match fraction places (n % unit) with
  | [] => whole ++ name
  | ds => whole ++ "." ++ String.ofList ds ++ name

/-- A span in the largest unit of which it holds at least one, to the nanosecond. -/
def text (d : Duration) : String :=
  if 1000000000 ≤ d.nanoseconds then inUnit 9 "s" d.nanoseconds
  else if 1000000 ≤ d.nanoseconds then inUnit 6 "ms" d.nanoseconds
  else if 1000 ≤ d.nanoseconds then inUnit 3 "µs" d.nanoseconds
  else d.nanoseconds.repr ++ "ns"

end Duration

/-- The nanoseconds in as many seconds as a clock counts in both directions. -/
def Instant.limit : Int := 9223372036854775808 * 1000000000

/-- A point of time, in nanoseconds since the origin of a clock. -/
@[ext]
structure Instant where
  nanoseconds : Int
  ge : -Instant.limit ≤ nanoseconds
  lt : nanoseconds < Instant.limit
deriving DecidableEq, Repr

/-- What stops a sum of times: it is behind the last point of time. -/
inductive Overflow
  | overflow
deriving DecidableEq, Repr

namespace Instant

variable {t due : Instant} {d : Duration}

def ofNanoseconds (n : Int64) : Instant where
  nanoseconds := n.toInt
  ge := Int.le_trans (by decide) n.le_toInt
  lt := Int.lt_trans n.toInt_lt (by decide)

theorem toNat_sub_lt (now earlier : Instant) :
    (now.nanoseconds - earlier.nanoseconds).toNat < Duration.limit := by
  have hnow := now.lt
  have hearlier := earlier.ge
  have hspan : (Duration.limit : Int) = 2 * limit := by decide
  have hpos : 0 < Duration.limit := by decide
  omega

/-- The time from an earlier reading of the clock to this one. -/
def since (now earlier : Instant) : Duration :=
  ⟨(now.nanoseconds - earlier.nanoseconds).toNat, toNat_sub_lt now earlier⟩

/-- The point of time after a span. -/
def after (t : Instant) (d : Duration) : Except Overflow Instant :=
  if h : t.nanoseconds + d.nanoseconds < limit then
    .ok ⟨t.nanoseconds + d.nanoseconds, by have := t.ge; omega, h⟩
  else .error .overflow

theorem after_eq_error_iff :
    t.after d = .error .overflow ↔ limit ≤ t.nanoseconds + d.nanoseconds := by
  rw [after]
  split
  · constructor
    · rintro ⟨⟩
    · omega
  · exact ⟨fun _ => by omega, fun _ => rfl⟩

end Instant

end SlideGraph
