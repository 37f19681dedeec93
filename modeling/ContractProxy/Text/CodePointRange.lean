/-!
Classes of characters as ascending lists of closed ranges of code points.
-/

set_option autoImplicit false

namespace ContractProxy.Text

abbrev CodePointRanges := List (Nat × Nat)

/-- The ranges ascend, so the search ends at the first range that starts above the code point. -/
def CodePointRanges.contains : CodePointRanges → Nat → Bool
  | [], _ => false
  | (low, high) :: rest, n =>
    if n < low then false else n ≤ high || CodePointRanges.contains rest n

end ContractProxy.Text
