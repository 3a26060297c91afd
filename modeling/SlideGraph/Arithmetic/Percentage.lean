import SlideGraph.Arithmetic.Binary64

/-!
# Percentages

A share is divided, multiplied by a hundred and written with one decimal. The quotient and the
product are each rounded to 53 bits, and the decimal is rounded from the product, so a share such
as 1/16 may round differently from its exact value.
-/

namespace SlideGraph

/-- A share of a whole in tenths of a percent. Of nothing the share is nothing. -/
def tenthsOfPercent (part whole : Nat) : Nat :=
  if part = 0 ∨ whole = 0 then 0
  else
    let (m, k) := Binary64.quotient part whole
    Binary64.roundDiv (Binary64.nearest (m * 100) * 10) (Nat.pow 2 k)

/-- A share of a whole as a percentage with one decimal. -/
def percentage (part whole : Nat) : String :=
  let t := tenthsOfPercent part whole
  (t / 10).repr ++ "." ++ (t % 10).repr

end SlideGraph
