set_option autoImplicit false

namespace Stemming.Text

/-- A range of code points by its first and its last member. -/
abbrev CodeRange : Type :=
  Nat × Nat

/-- Whether a code point lies in one of the ranges. The ranges are in ascending order, so the look
ends at the first range above it. -/
def inRanges (code : Nat) : List CodeRange → Bool
  | [] => false
  | (first, last) :: rest =>
    if code < first then false
    else if code ≤ last then true
    else inRanges code rest

end Stemming.Text
