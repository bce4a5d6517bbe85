/-! Sets of characters given by sorted ranges of code points. -/

namespace RowFence.Text

def inRanges (ranges : Array (Nat × Nat)) (c : Char) : Bool :=
  ranges.any fun (low, high) => low ≤ c.toNat && c.toNat ≤ high

end RowFence.Text
