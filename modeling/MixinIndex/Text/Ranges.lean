/-!
# Ranges of code points

The tables of character properties list closed ranges of code points in increasing order.

## Main definitions

* `inRanges`: membership of a character in such a table
-/

namespace MixinIndex.Text

/-- Whether a character lies in one of the given closed ranges of code points. -/
def inRanges (ranges : List (Nat × Nat)) (c : Char) : Bool :=
  ranges.any fun r => r.1 ≤ c.toNat && c.toNat ≤ r.2

end MixinIndex.Text
