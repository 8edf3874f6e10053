import Redaction.Pattern.Syntax
import Redaction.Text.Blank
import Redaction.Text.Case
import Redaction.Text.Digit
import Redaction.Text.Letter

/-!
# Tests of one character

What a single-character item of a pattern accepts once flags are known. Where case is ignored, the lower
case of a character is tested, and every listed character is replaced by the lower-case letters that
count as the same.

* `Pattern.Fold`: how case is treated.
* `Pattern.CharTest`: a test of one character, and `CharTest.accepts`, its outcome.
* `CharTest.ofLiteral`, `CharTest.ofSet`: the tests of written items.
-/

namespace Redaction.Pattern

/-- How case is treated: kept apart, ignored for ASCII letters, or ignored for all letters. -/
inductive Fold
  | exact
  | ascii
  | unicode
deriving Repr, DecidableEq

namespace Fold

/-- The treatment that flags ask for. -/
def ofFlags (flags : Flags) : Fold :=
  if !flags.ignoreCase then exact else if flags.unicode then unicode else ascii

/-- The form in which characters are compared. -/
def lower : Fold → Nat → Nat
  | exact, code => code
  | ascii, code => Text.Case.asciiLower code
  | unicode, code => Text.Case.lower code

/-- Whether a character has case. -/
def isCased : Fold → Nat → Bool
  | exact, _ => false
  | ascii, code => Text.Case.isAsciiCased code
  | unicode, code => Text.Case.isCased code

/-- The other forms that count as equal to a lower-case form. -/
def siblings : Fold → Nat → List Nat
  | unicode, code => Text.Case.siblings code
  | _, _ => []

/-- The characters with a given lower-case form. -/
def lowerSources : Fold → Nat → List Nat
  | exact, code => [code]
  | ascii, code =>
    if 0x61 ≤ code && code ≤ 0x7A then [code, code - 0x20]
    else if 0x41 ≤ code && code ≤ 0x5A then []
    else [code]
  | unicode, code => Text.Case.lowerSources code

end Fold

/-- Whether a character is in a named class. -/
def Category.has (kind : Category) (ascii : Bool) (code : Nat) : Bool :=
  match kind, ascii with
  | .digit, true => Text.isAsciiDigit code
  | .digit, false => Text.isDigit code
  | .blank, true => Text.isAsciiBlank code
  | .blank, false => Text.isBlank code
  | .word, true => Text.isAsciiWordChar code
  | .word, false => Text.isWordChar code

/-- A part of a set, as tested against a folded character. -/
inductive Part
  /-- One of a few folded characters. -/
  | codes (codes : List Nat)
  | range (first last : Nat)
  /-- The folded forms of the characters in a range. -/
  | foldedRange (fold : Fold) (first last : Nat)
  /-- A range beyond the basic plane: the character or its upper case is in it. -/
  | eitherCase (first last : Nat)
  | category (kind : Category) (negated ascii : Bool)
deriving Repr

/-- Whether a part holds a folded character. -/
def Part.has : Part → Nat → Bool
  | codes members, code => members.contains code
  | range first last, code => first ≤ code && code ≤ last
  | foldedRange fold first last, code =>
    (code :: fold.siblings code).any fun form =>
      (fold.lowerSources form).any fun source => first ≤ source && source ≤ last
  | eitherCase first last, code =>
    let upper := Text.Case.upperFirst code
    (first ≤ code && code ≤ last) || (first ≤ upper && upper ≤ last)
  | category kind negated ascii, code => kind.has ascii code != negated

/-- A test of one character. -/
inductive CharTest
  | anything
  /-- Anything but a line feed. -/
  | inLine
  /-- In one of the parts after folding, or in none of them. -/
  | among (fold : Fold) (negated : Bool) (parts : List Part)
deriving Repr

namespace CharTest

/-- Whether a character passes. -/
def accepts : CharTest → Nat → Bool
  | anything, _ => true
  | inLine, code => code != 0x0A
  | among fold negated parts, code =>
    let folded := fold.lower code
    parts.any (·.has folded) != negated

/-- The test of a single written character. -/
def ofLiteral (fold : Fold) (negated : Bool) (code : Nat) : CharTest :=
  if fold.isCased code then
    let lower := fold.lower code
    among fold negated [.codes (lower :: fold.siblings lower)]
  else among .exact negated [.codes [code]]

/-- The end of the basic plane, up to which sets fold each character. -/
def planeEnd : Nat := 0xFFFF

/-- Whether case matters for a member of a set. -/
def memberCased (fold : Fold) : Member → Bool
  | .code code => fold.isCased code || planeEnd < fold.lower code
  | .range first last =>
    planeEnd < last || (List.range (last + 1 - first)).any fun i => fold.isCased (first + i)
  | .category _ _ => false

/-- The part for a member of a set in which case matters. A character beyond the basic plane is
compared as it is written. -/
def foldedPart (fold : Fold) (ascii : Bool) : Member → Part
  | .code code =>
    let lower := fold.lower code
    if planeEnd < lower then .codes [code] else .codes (lower :: fold.siblings lower)
  | .range first last =>
    if planeEnd < last then .eitherCase first last else .foldedRange fold first last
  | .category kind negated => .category kind negated ascii

/-- The part for a member of a set in which case does not matter. -/
def exactPart (ascii : Bool) : Member → Part
  | .code code => .codes [code]
  | .range first last => .range first last
  | .category kind negated => .category kind negated ascii

/-- The parts of a range beyond the basic plane that starts inside it. -/
def planePart (fold : Fold) : Member → List Part
  | .range first last =>
    if first ≤ planeEnd && planeEnd < last then [.foldedRange fold first planeEnd] else []
  | _ => []

/-- The test of a written set. -/
def ofSet (fold : Fold) (ascii negated : Bool) (members : List Member) : CharTest :=
  if fold != .exact && members.any (memberCased fold) then
    among fold negated (members.flatMap fun m => foldedPart fold ascii m :: planePart fold m)
  else among .exact negated (members.map (exactPart ascii))

end CharTest
end Redaction.Pattern
