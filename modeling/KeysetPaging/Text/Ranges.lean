/-!
# Ranges of characters

Classes of characters are tables of code point ranges.
-/

namespace KeysetPaging.Text

/-- Whether a code point lies in one of the ranges, both ends included. -/
def inRanges (ranges : List (Nat × Nat)) (code : Nat) : Bool :=
  ranges.any fun range => range.1 ≤ code && code ≤ range.2

end KeysetPaging.Text
