/-!
# Ranges of code points

Character classes are given as lists of closed ranges, in increasing order.
-/

namespace ChatDispatch.Text

/-- A code point belongs to a list of ranges when one of them encloses it. -/
def inRanges (ranges : List (Nat × Nat)) (point : Nat) : Bool :=
  ranges.any fun range => range.1 ≤ point && point ≤ range.2

theorem inRanges_iff {ranges : List (Nat × Nat)} {point : Nat} :
    inRanges ranges point = true ↔
      ∃ range ∈ ranges, range.1 ≤ point ∧ point ≤ range.2 := by
  simp [inRanges]

end ChatDispatch.Text
