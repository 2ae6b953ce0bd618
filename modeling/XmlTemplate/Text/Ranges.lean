/-!
# Ranges of characters

* `inRanges`: membership in a property that is listed as ranges of code points.
-/

namespace XmlTemplate.Text

/-- Whether a character lies in one of the ranges, whose ends belong to them. -/
def inRanges (ranges : List (Nat × Nat)) (c : Char) : Bool :=
  ranges.any fun r => r.1 ≤ c.toNat && c.toNat ≤ r.2

end XmlTemplate.Text
