import Redaction.Text.Ranges

/-!
# White space

* `Text.isBlank`: white space of all scripts, the four information separators included.
* `Text.isWhiteSpace`: the same without the four information separators.
* `Text.isAsciiBlank`: space, tab, line feed, vertical tab, form feed and carriage return.
* `Text.strip`: a text without the white space at its two ends.
-/

namespace Redaction.Text

/-- The white space of all scripts. -/
def blankRanges : Ranges := #[
  (0x9, 0xD), (0x1C, 0x20), (0x85, 0x85), (0xA0, 0xA0), (0x1680, 0x1680), (0x2000, 0x200A),
  (0x2028, 0x2029), (0x202F, 0x202F), (0x205F, 0x205F), (0x3000, 0x3000)]

/-- White space of any script. -/
def isBlank (code : Nat) : Bool :=
  blankRanges.contains code

/-- White space of any script that is no information separator. -/
def isWhiteSpace (code : Nat) : Bool :=
  isBlank code && !(0x1C ≤ code && code ≤ 0x1F)

/-- White space among the ASCII characters; the information separators do not count here. -/
def isAsciiBlank (code : Nat) : Bool :=
  code = 0x20 || (0x09 ≤ code && code ≤ 0x0D)

/-- Drops the characters of a class at both ends. -/
def trim (isDropped : Nat → Bool) (text : List Char) : List Char :=
  let dropped := fun c : Char => isDropped c.toNat
  ((text.dropWhile dropped).reverse.dropWhile dropped).reverse

/-- Drops the white space at both ends. -/
def strip (text : List Char) : List Char :=
  trim isBlank text

end Redaction.Text
