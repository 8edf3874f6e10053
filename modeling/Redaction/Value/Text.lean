import Redaction.Number.Decimal
import Redaction.Text.Integer
import Redaction.Text.Quoted
import Redaction.Value

/-!
# The text of values

* `Value.text`: a value as it stands in running text; a text stands for itself.
* `Value.literal`: a value inside another one, with texts in quotes.
* `Value.TooLong`: whole numbers with too many digits have no text.
-/

namespace Redaction

namespace Text

/-- A number by which the decimal digits of whole numbers are limited. -/
def digitBound : Nat := Nat.pow 10 maxDigits

end Text

namespace Value

/-- A whole number that has too many digits to be written. -/
structure TooLong where
  digits : Nat := Text.maxDigits
deriving Repr, DecidableEq

/-- The decimal digits of a whole number, unless there are too many. -/
def digits (n : Int) : Except TooLong String :=
  if n.natAbs < Text.digitBound then .ok (Text.signedDecimal n) else .error {}

/-- Texts with commas between them. -/
def listed (texts : List String) : String :=
  String.intercalate ", " texts

/-- A row in round brackets; a comma follows a single item. -/
def tupleText : List String → String
  | [item] => "(" ++ item ++ ",)"
  | items => "(" ++ listed items ++ ")"

mutual

/-- A value inside another one. -/
def literal : Value → Except TooLong String
  | none => .ok "None"
  | bool value => .ok (if value then "True" else "False")
  | int n => digits n
  | float x => .ok x.text
  | str text => .ok (Text.quoted text)
  | bytes items => .ok (Text.quotedBytes items)
  | list items => do
    let texts ← literals items
    pure ("[" ++ listed texts ++ "]")
  | tuple items => do
    let texts ← literals items
    pure (tupleText texts)
  | dict items => do
    let texts ← entries items
    pure ("\x7b" ++ listed texts ++ "\x7d")
  | object text => .ok text

/-- The values of a list. -/
def literals : List Value → Except TooLong (List String)
  | [] => .ok []
  | item :: rest => do
    let text ← literal item
    let texts ← literals rest
    pure (text :: texts)

/-- The keys and values of a dictionary. -/
def entries : List (Value × Value) → Except TooLong (List String)
  | [] => .ok []
  | (key, item) :: rest => do
    let name ← literal key
    let text ← literal item
    let texts ← entries rest
    pure ((name ++ ": " ++ text) :: texts)

end

/-- A value in running text. -/
def text : Value → Except TooLong String
  | str text => .ok text
  | value => value.literal

/-- A value inside another one, in ASCII. -/
def asciiLiteral (value : Value) : Except TooLong String := do
  let text ← value.literal
  pure (String.ofList (text.toList.flatMap fun c => if c.toNat < 0x80 then [c] else Text.codeEscape c.toNat))

end Value
end Redaction
