/-! Sets of code points, given as closed ranges in rising order. -/
namespace SexprCall.Text

/-- The ranges rise, so the search ends at the first that starts above the code point. -/
def inRanges : List (Nat × Nat) → Nat → Bool
  | [], _ => false
  | (low, high) :: ranges, code =>
    if code < low then false else code ≤ high || inRanges ranges code

end SexprCall.Text
