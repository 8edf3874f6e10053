import Redaction.Text.Integer
import Redaction.Text.Quoted

/-!
# Why a message cannot be rendered

* `Fault`: the causes.
* `Fault.message`: their wording.
-/

namespace Redaction.Percent

/-- A reason for which a template and its arguments give no text. -/
inductive Fault
  /-- A whole number has too many digits. -/
  | integerTooLong
  | tooFewArguments
  | tooManyArguments
  | mappingRequired
  | unclosedKey
  | unknownKey (name : String)
  | amountNotInteger
  | widthTooBig
  | precisionTooBig
  | widthOutOfRange
  | precisionOutOfRange
  | precisionTooLarge
  | incomplete
  | unsupported (conversion : Char) (index : Nat)
  | realRequired (conversion : Char) (typeName : String)
  | integerRequired (conversion : Char) (typeName : String)
  | floatRequired (typeName : String)
  | integerTooLargeForFloat
  | nanNotInteger
  | infinityNotInteger
  | characterRequired
  | characterOutOfRange
  /-- The text would be longer than any that can be held. -/
  | outOfMemory
deriving Repr, DecidableEq

/-- How a conversion that is not known is shown. -/
def shownConversion (c : Char) : Char :=
  if 31 ≤ c.toNat && c.toNat < 126 then c else '?'

/-- A number in hexadecimal digits without zeros in front. -/
def hexDigits (n : Nat) : String :=
  String.ofList (Nat.toDigits 16 n)

/-- The wording of a fault. -/
def Fault.message : Fault → String
  | integerTooLong => "Exceeds the limit (" ++ Text.decimal Text.maxDigits ++
      " digits) for integer string conversion; use sys.set_int_max_str_digits() to increase the limit"
  | tooFewArguments => "not enough arguments for format string"
  | tooManyArguments => "not all arguments converted during string formatting"
  | mappingRequired => "format requires a mapping"
  | unclosedKey => "incomplete format key"
  | unknownKey name => Text.quoted name
  | amountNotInteger => "* wants int"
  | widthTooBig => "width too big"
  | precisionTooBig => "precision too big"
  | widthOutOfRange => "Python int too large to convert to C ssize_t"
  | precisionOutOfRange => "Python int too large to convert to C int"
  | precisionTooLarge => "precision too large"
  | incomplete => "incomplete format"
  | unsupported c index => "unsupported format character '" ++ String.singleton (shownConversion c) ++
      "' (0x" ++ hexDigits c.toNat ++ ") at index " ++ Text.decimal index
  | realRequired c typeName => "%" ++ String.singleton c ++ " format: a real number is required, not " ++ typeName
  | integerRequired c typeName => "%" ++ String.singleton c ++ " format: an integer is required, not " ++ typeName
  | floatRequired typeName => "must be real number, not " ++ typeName
  | integerTooLargeForFloat => "int too large to convert to float"
  | nanNotInteger => "cannot convert float NaN to integer"
  | infinityNotInteger => "cannot convert float infinity to integer"
  | characterRequired => "%c requires int or char"
  | characterOutOfRange => "%c arg not in range(0x110000)"
  | outOfMemory => ""

end Redaction.Percent
