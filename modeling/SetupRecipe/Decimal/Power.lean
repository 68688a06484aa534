/-!
# Powers of two and ten

The bases of the two number systems between which decimals are read and written.
-/

namespace SetupRecipe.Decimal

/-- A power of two. -/
def twoPow (e : Nat) : Nat := Nat.pow 2 e

/-- A power of ten. -/
def tenPow (e : Nat) : Nat := Nat.pow 10 e

end SetupRecipe.Decimal
