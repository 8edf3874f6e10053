import Redaction.Text.Printable

/-!
# Quoted texts

How a text is shown inside quotes: the single quote is used unless the text has a single quote and no
double one; the quote in use, the backslash and everything unprintable are escaped.

* `Text.quoted`: a quoted text, with every printable character as itself.
* `Text.quotedBytes`: a quoted run of bytes, marked by a leading `b`.
-/

namespace Redaction.Text

/-- The lower-case hexadecimal digit of a number below sixteen. -/
def hexDigit (n : Nat) : Char :=
  Char.ofNat (if n < 10 then 0x30 + n else 0x57 + n)

/-- The last `width` hexadecimal digits of a number. -/
def hex (width n : Nat) : List Char :=
  match width with
  | 0 => []
  | width + 1 => hex width (n / 16) ++ [hexDigit (n % 16)]

/-- The quote to put around a text. -/
def quoteFor (text : List Char) : Char :=
  if text.contains '\'' && !text.contains '"' then '"' else '\''

/-- The escape of a code point by its number, as short as its size allows. -/
def codeEscape (code : Nat) : List Char :=
  if code < 0x100 then '\\' :: 'x' :: hex 2 code
  else if code < 0x10000 then '\\' :: 'u' :: hex 4 code
  else '\\' :: 'U' :: hex 8 code

/-- One character of a quoted text; `shown` says which ones print as themselves. -/
def quotedChar (shown : Nat → Bool) (quote c : Char) : List Char :=
  if c = quote || c = '\\' then ['\\', c]
  else if c = '\t' then ['\\', 't']
  else if c = '\n' then ['\\', 'n']
  else if c = '\r' then ['\\', 'r']
  else if shown c.toNat then [c]
  else codeEscape c.toNat

/-- A text in quotes, with the characters that `shown` allows as themselves. -/
def quotedWith (shown : Nat → Bool) (text : String) : String :=
  let chars := text.toList
  let quote := quoteFor chars
  String.ofList (quote :: chars.flatMap (quotedChar shown quote) ++ [quote])

/-- A text in quotes. -/
def quoted (text : String) : String :=
  quotedWith isPrintable text

/-- Bytes in quotes, those of the printable ASCII characters as these characters. -/
def quotedBytes (bytes : List UInt8) : String :=
  let chars := bytes.map fun b => Char.ofNat b.toNat
  let quote := quoteFor chars
  let shown := fun code => 0x20 ≤ code && code < 0x7F
  String.ofList ('b' :: quote :: chars.flatMap (quotedChar shown quote) ++ [quote])

end Redaction.Text
