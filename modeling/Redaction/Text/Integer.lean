import Redaction.Text.Blank
import Redaction.Text.Digit

/-!
# Whole numbers in text

The lenient way to read a whole number: white space around it, a sign, digits of any script, and single
low lines between digits.

* `Text.readInt?`: the number a text stands for, if it stands for one.
* `Text.decimal`: a number in decimal digits.
-/

namespace Redaction.Text

/-- Texts with more digits than this are not read as numbers. -/
def maxDigits : Nat := 4300

/-- The values of digits in which single low lines may separate neighbours; `afterDigit` says whether a
digit stands just before. -/
def separatedDigits? (afterDigit : Bool) : List Char → Option (List Nat)
  | [] => if afterDigit then some [] else none
  | c :: rest =>
    match digitValue? c.toNat with
    | some d => (separatedDigits? true rest).map (d :: ·)
    | none => if c = '_' && afterDigit then separatedDigits? false rest else none

/-- The number written by digits, the most significant first. -/
def ofDigits (digits : List Nat) : Nat :=
  digits.foldl (fun n d => 10 * n + d) 0

/-- Drops the white space around a number. In a text of ASCII characters alone the information
separators are not white space. -/
def trimNumber (text : List Char) : List Char :=
  let ascii := text.all fun c => c.toNat < 0x80
  trim (if ascii then isAsciiBlank else isBlank) text

/-- Reads digits without a sign, unless there are too many of them. -/
def readNat? (digits : List Char) : Option Nat :=
  (separatedDigits? false digits).bind fun ds =>
    if ds.length ≤ maxDigits then some (ofDigits ds) else none

/-- Reads a whole number. -/
def readInt? (text : List Char) : Option Int :=
  match trimNumber text with
  | '-' :: digits => (readNat? digits).map fun n => -(n : Int)
  | '+' :: digits => (readNat? digits).map fun n => (n : Int)
  | digits => (readNat? digits).map fun n => (n : Int)

/-- A natural number in decimal digits. -/
def decimal (n : Nat) : String :=
  String.ofList (Nat.toDigits 10 n)

/-- A whole number in decimal digits, with a minus sign if it is negative. -/
def signedDecimal (n : Int) : String :=
  if n < 0 then "-" ++ decimal n.natAbs else decimal n.natAbs

end Redaction.Text
