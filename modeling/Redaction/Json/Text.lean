import Redaction.Text.Quoted

/-!
# Texts in JSON

How a text is written in JSON by ASCII characters alone: quotes and backslashes get a backslash, five
controls have letters, and everything else outside the printable ASCII range is written by its UTF-16
units.

* `Json.quoted`: a text in double quotes.
-/

namespace Redaction.Json

/-- A UTF-16 unit by its four hexadecimal digits. -/
def unitEscape (unit : Nat) : List Char :=
  '\\' :: 'u' :: Text.hex 4 unit

/-- The escape of a code point by its one or two units. -/
def codeEscape (code : Nat) : List Char :=
  if code < 0x10000 then unitEscape code
  else
    let offset := code - 0x10000
    unitEscape (0xD800 + offset / 0x400) ++ unitEscape (0xDC00 + offset % 0x400)

/-- One character of a text. -/
def quotedChar (c : Char) : List Char :=
  if c = '"' then ['\\', '"']
  else if c = '\\' then ['\\', '\\']
  else if c = '\n' then ['\\', 'n']
  else if c = '\r' then ['\\', 'r']
  else if c = '\t' then ['\\', 't']
  else if c = '\x08' then ['\\', 'b']
  else if c = '\x0c' then ['\\', 'f']
  else if 0x20 ≤ c.toNat && c.toNat ≤ 0x7E then [c]
  else codeEscape c.toNat

/-- A text in double quotes. -/
def quoted (text : String) : String :=
  String.ofList ('"' :: text.toList.flatMap quotedChar ++ ['"'])

end Redaction.Json
