/-!
Classes of characters given by ranges of code points.
-/

namespace ODataAdapter.Text

def inRanges (ranges : List (Nat × Nat)) (code : Nat) : Bool :=
  ranges.any fun (low, high) => low ≤ code && code ≤ high

end ODataAdapter.Text
