set_option autoImplicit false

/-! Character classes of the Unicode character database, held as inclusive ranges of code points in
ascending order. -/

namespace BuildBench.Text

/-- Ascending ranges are searched from the front, up to the first one that ends at or after the
code point. -/
def inRanges (code : Nat) : List (Nat × Nat) → Bool
  | [] => false
  | (low, high) :: rest => if high < code then inRanges code rest else decide (low ≤ code)

end BuildBench.Text
