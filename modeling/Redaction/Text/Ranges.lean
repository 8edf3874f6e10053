/-!
# Tables of code points

A property of characters is a table of ranges of code points, in increasing order and apart from each
other, so that a look-up halves the table at each step.

* `Text.Ranges`: such a table.
* `Ranges.find?`: the range that holds a code point.
* `Ranges.contains`: whether some range holds it.
-/

namespace Redaction.Text

/-- Ranges of code points, both ends included, in increasing order. -/
abbrev Ranges := Array (Nat × Nat)

namespace Ranges

/-- The range that holds `code` among the ranges from index `lo` up to but not including `hi`. -/
def findBetween? (table : Ranges) (code lo hi : Nat) : Option (Nat × Nat) :=
  if lo < hi then
    let mid := (lo + hi) / 2
    match table[mid]? with
    | none => none
    | some (first, last) =>
      if code < first then findBetween? table code lo mid
      else if last < code then findBetween? table code (mid + 1) hi
      else some (first, last)
  else none
termination_by hi - lo

/-- The range that holds a code point. -/
def find? (table : Ranges) (code : Nat) : Option (Nat × Nat) :=
  findBetween? table code 0 table.size

/-- Whether some range holds the code point. -/
def contains (table : Ranges) (code : Nat) : Bool :=
  (table.find? code).isSome

end Ranges
end Redaction.Text
