/-!
# Numbers of 53 bits

Rounding to the nearest number that has at most 53 significant bits, a tie going to the even
neighbour, in exact integer arithmetic. These are the magnitudes of the 64-bit binary floating
point format as long as its exponent does not run out.
-/

namespace SlideGraph.Binary64

/-- The integer nearest to `num / den`; of two equally near ones the even one. -/
def roundDiv (num den : Nat) : Nat :=
  let q := num / den
  let r := num % den
  if 2 * r < den then q
  else if den < 2 * r then q + 1
  else q + q % 2

/-- The nearest integer that has at most 53 significant bits. -/
def nearest (n : Nat) : Nat :=
  let unit := Nat.pow 2 (n.log2 - 52)
  roundDiv n unit * unit

/-- The least magnitude that rounds to infinity: half a unit in the last place above the greatest
finite number. -/
def overflow : Nat := Nat.pow 2 1024 - Nat.pow 2 970

/-- The quotient of two positive integers, `a` at most `b`, rounded to 53 bits: the pair `(m, k)`
stands for `m / 2 ^ k`. -/
def quotient (a b : Nat) : Nat × Nat :=
  let k := 52 + b.log2 - a.log2
  if a * Nat.pow 2 k < Nat.pow 2 52 * b then (roundDiv (a * Nat.pow 2 (k + 1)) b, k + 1)
  else (roundDiv (a * Nat.pow 2 k) b, k)

/-- Twice the distance to the rounded quotient is at most one divisor. -/
theorem roundDiv_near (num : Nat) {den : Nat} (hden : 0 < den) :
    2 * num ≤ 2 * (roundDiv num den * den) + den ∧
      2 * (roundDiv num den * den) ≤ 2 * num + den := by
  have hdm := Nat.div_add_mod num den
  have hcomm : den * (num / den) = num / den * den := Nat.mul_comm _ _
  have hlt := Nat.mod_lt num hden
  unfold roundDiv
  simp only
  split
  · omega
  · split
    · rw [Nat.add_mul]; omega
    · rcases Nat.mod_two_eq_zero_or_one (num / den) with h | h <;> rw [h, Nat.add_mul] <;> omega

end SlideGraph.Binary64
