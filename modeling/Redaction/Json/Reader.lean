import Redaction.Json.Basic
import Redaction.Text.Integer
import Redaction.Text.Utf8

/-!
# Reading JSON

A strict reader of JSON texts, given as bytes. Beyond the standard it accepts `NaN`, `Infinity` and
`-Infinity`. The first fault met refuses the text; it is reported with the line and the column, in bytes,
at which it was noticed.

* `Json.Fault`: what is wrong, and where.
* `Json.Limits`: how long numbers may be and how deeply values may be nested.
* `Json.readWithin`: the value of a text within limits.
* `Json.read`: the value of a text within the usual limits.
-/

namespace Redaction.Json

/-- What can be wrong with a JSON text. -/
inductive Cause
  | eofInValue
  | eofInArray
  | eofInObject
  | eofInString
  | expectedValue
  | expectedIdent
  | expectedCommaOrBracket
  | expectedCommaOrBrace
  | expectedColon
  | keyNotString
  | trailingComma
  | trailingCharacters
  | invalidNumber
  | numberTooLong
  | invalidEscape
  | shortSurrogate
  | loneSurrogate
  | invalidCodePoint
  | controlCharacter
  | tooDeep
deriving Repr, DecidableEq

/-- The wording of a cause. -/
def Cause.message : Cause → String
  | eofInValue => "EOF while parsing a value"
  | eofInArray => "EOF while parsing a list"
  | eofInObject => "EOF while parsing an object"
  | eofInString => "EOF while parsing a string"
  | expectedValue => "expected value"
  | expectedIdent => "expected ident"
  | expectedCommaOrBracket => "expected `,` or `]`"
  | expectedCommaOrBrace => "expected `,` or `\x7d`"
  | expectedColon => "expected `:`"
  | keyNotString => "key must be a string"
  | trailingComma => "trailing comma"
  | trailingCharacters => "trailing characters"
  | invalidNumber => "invalid number"
  | numberTooLong => "number out of range"
  | invalidEscape => "invalid escape"
  | shortSurrogate => "unexpected end of hex escape"
  | loneSurrogate => "lone leading surrogate in hex escape"
  | invalidCodePoint => "invalid unicode code point"
  | controlCharacter => "control character (\\u0000-\\u001F) found while parsing a string"
  | tooDeep => "recursion limit exceeded"

/-- A cause and the line and column where it was noticed. -/
structure Fault where
  cause : Cause
  line : Nat
  column : Nat
deriving Repr, DecidableEq

/-- The wording of a fault. -/
def Fault.message (fault : Fault) : String :=
  fault.cause.message ++ " at line " ++ Text.decimal fault.line ++ " column " ++
    Text.decimal fault.column

/-- Limits on what is read. -/
structure Limits where
  /-- The greatest number of characters before the point or the exponent of a number. -/
  digits : Nat
  /-- How deeply values that are not empty may be nested. -/
  depth : Nat

/-- The usual limits. -/
def Limits.usual : Limits := ⟨Text.maxDigits, 200⟩

/-- The bytes still to be read and the index of the first of them. -/
structure Cursor where
  rest : List UInt8
  index : Nat

/-- Computations that take bytes; a fault is a cause with the index of a byte. -/
abbrev Read := StateT Cursor (Except (Cause × Nat))

/-- A fault at an index. -/
def failAt {α : Type} (cause : Cause) (index : Nat) : Read α :=
  throw (cause, index)

/-- A fault at the next byte. -/
def fail {α : Type} (cause : Cause) : Read α := do
  failAt cause (← get).index

/-- The next byte, left in place. -/
def peek : Read (Option UInt8) := do
  return (← get).rest.head?

/-- Takes the next byte. -/
def skip : Read Unit :=
  modify fun cursor => ⟨cursor.rest.tail, cursor.index + 1⟩

/-- White space between the parts of a text. -/
def isSpace (b : UInt8) : Bool :=
  b = 0x20 || b = 0x09 || b = 0x0A || b = 0x0D

/-- Takes white space and answers with the byte after it, left in place. -/
def peekToken : Read (Option UInt8) := do
  modify fun cursor =>
    let spaces := (cursor.rest.takeWhile isSpace).length
    ⟨cursor.rest.drop spaces, cursor.index + spaces⟩
  peek

/-- The byte of an ASCII character. -/
def byte (c : Char) : UInt8 :=
  c.toNat.toUInt8

/-- An ASCII digit. -/
def isDigit (b : UInt8) : Bool :=
  0x30 ≤ b && b ≤ 0x39

/-! ## Words and numbers -/

/-- Takes a word whose first letter is the next byte. -/
def word (letters : List Char) : Read Unit := do
  skip
  for c in letters.tail do
    match ← peek with
    | some b => if b = byte c then skip else fail .expectedIdent
    | none => fail .eofInValue

/-- Takes the digits that come next. -/
def digits : Read (List UInt8) := do
  let cursor ← get
  let taken := cursor.rest.takeWhile isDigit
  set (⟨cursor.rest.drop taken.length, cursor.index + taken.length⟩ : Cursor)
  return taken

/-- Takes digits, at least one. -/
def someDigits : Read (List UInt8) := do
  match ← peek with
  | some b => if isDigit b then digits else fail .invalidNumber
  | none => fail .eofInValue

/-- The number that digits write. -/
def ofDigits (digits : List UInt8) : Nat :=
  Text.ofDigits (digits.map fun b => b.toNat - 0x30)

/-- Takes an exponent whose letter has been taken. -/
def exponent : Read Int := do
  match ← peek with
  | some b =>
    if b = byte '-' then
      skip
      return -(ofDigits (← someDigits) : Int)
    else
      if b = byte '+' then skip
      return (ofDigits (← someDigits) : Int)
  | none => fail .eofInValue

/-- An exponent mark. -/
def isExponentMark (b : Option UInt8) : Bool :=
  b = some (byte 'e') || b = some (byte 'E')

/-- Takes the digits before a point or an exponent. A leading zero stands alone, and there are at most
`limit` characters here; `start` is where the number started. -/
def wholeDigits (limit start : Nat) : Read (List UInt8) := do
  match ← peek with
  | none => fail .eofInValue
  | some b =>
    if b = byte '0' then
      skip
      match ← peek with
      | some next => if isDigit next then fail .invalidNumber else return [b]
      | none => return [b]
    else if isDigit b then
      let taken ← digits
      if limit < (← get).index - start then failAt .numberTooLong (start + (limit + 1))
      return taken
    else fail .invalidNumber

/-- Takes what follows the sign of a number. -/
def afterSign (negative : Bool) (limit start : Nat) : Read Json := do
  let whole ← wholeDigits limit start
  let fraction ← if (← peek) = some (byte '.') then
      skip
      some <$> someDigits
    else pure none
  let power ← if isExponentMark (← peek) then
      skip
      some <$> exponent
    else pure none
  match fraction, power with
  | none, none => return .int (Binary64.signed negative (ofDigits whole))
  | _, _ =>
    let places := fraction.getD []
    return .float (.ofDecimal negative (ofDigits (whole ++ places)) (power.getD 0 - places.length))

/-- Takes a number of at most `limit` characters before the point or the exponent. -/
def number (limit : Nat) : Read Json := do
  let start := (← get).index
  let negative := (← peek) = some (byte '-')
  if negative then skip
  if negative && (← peek) = some (byte 'I') then
    word "Infinity".toList
    return .float (.infinity true)
  afterSign negative limit start

/-! ## Strings -/

/-- The value of a hexadecimal digit. -/
def hexValue? (b : UInt8) : Option Nat :=
  if isDigit b then some (b.toNat - 0x30)
  else if byte 'a' ≤ b && b ≤ byte 'f' then some (b.toNat - 0x57)
  else if byte 'A' ≤ b && b ≤ byte 'F' then some (b.toNat - 0x37)
  else none

/-- Takes four hexadecimal digits. -/
def fourHex : Read Nat := do
  let cursor ← get
  let available := (cursor.rest.take 4).length
  if available < 4 then failAt .eofInString (cursor.index + available)
  let mut value := 0
  for _ in List.range 4 do
    match (← peek).bind hexValue? with
    | some digit =>
      value := 0x10 * value + digit
      skip
    | none => fail .invalidEscape
  return value

/-- Takes the character of an escape by number, whose letter has been taken. A surrogate needs its
partner. -/
def unicodeEscape : Read Char := do
  let high ← fourHex
  let last := (← get).index - 1
  if 0xDC00 ≤ high && high ≤ 0xDFFF then failAt .loneSurrogate last
  if 0xD800 ≤ high && high ≤ 0xDBFF then
    match (← get).rest with
    | a :: b :: _ =>
      if a = byte '\\' && b = byte 'u' then
        skip
        skip
        let low ← fourHex
        if low < 0xDC00 || 0xDFFF < low then failAt .loneSurrogate ((← get).index - 1)
        return Char.ofNat ((high - 0xD800) * 0x400 + (low - 0xDC00) + 0x10000)
      else if a = byte '\\' then failAt .shortSurrogate (last + 2)
      else failAt .shortSurrogate (last + 1)
    | [a] => failAt .shortSurrogate (if a = byte '\\' then last + 2 else last + 1)
    | [] => failAt .shortSurrogate (last + 1)
  return Char.ofNat high

/-- Takes an escape whose backslash has been taken; its value as bytes. -/
def escape : Read (List UInt8) := do
  match ← peek with
  | none => fail .eofInString
  | some b =>
    let plain : Option Nat :=
      match Char.ofNat b.toNat with
      | '"' => some 0x22
      | '\\' => some 0x5C
      | '/' => some 0x2F
      | 'b' => some 0x08
      | 'f' => some 0x0C
      | 'n' => some 0x0A
      | 'r' => some 0x0D
      | 't' => some 0x09
      | _ => none
    match plain with
    | some code =>
      skip
      return [code.toUInt8]
    | none =>
      if b = byte 'u' then
        skip
        return Text.Utf8.encode (← unicodeEscape).toString
      else fail .invalidEscape

/-- Takes the rest of a string up to its closing quote; `taken` are the bytes before, the last first.
Each round takes a byte at least. -/
def stringBytes : (rounds : Nat) → (taken : List UInt8) → Read (List UInt8)
  | 0, _ => fail .eofInString
  | rounds + 1, taken => do
    match ← peek with
    | none => fail .eofInString
    | some b =>
      if b = byte '"' then
        skip
        return taken.reverse
      else if b = byte '\\' then
        skip
        stringBytes rounds ((← escape).reverse ++ taken)
      else if b < 0x20 then fail .controlCharacter
      else
        skip
        stringBytes rounds (b :: taken)

/-- Takes a string whose opening quote is the next byte. -/
def quotedText : Read String := do
  skip
  let start ← get
  let bytes ← stringBytes (start.rest.length + 1) []
  match Text.Utf8.decode bytes with
  | .ok chars => return String.ofList chars
  | .error valid => failAt .invalidCodePoint (start.index + valid)

/-! ## Values -/

/-- Takes the items of an array after the first, up to the closing bracket. -/
def moreItems (item : Read Json) : (rounds : Nat) → (taken : List Json) → Read (List Json)
  | 0, taken => return taken.reverse
  | rounds + 1, taken => do
    match ← peekToken with
    | none => fail .eofInArray
    | some b =>
      if b = byte ']' then
        skip
        return taken.reverse
      else if b = byte ',' then
        skip
        match ← peekToken with
        | none => fail .eofInValue
        | some b =>
          if b = byte ']' then fail .trailingComma
          let value ← item
          moreItems item rounds (value :: taken)
      else fail .expectedCommaOrBracket

/-- Takes the name of a member and the colon after it. -/
def memberName : Read String := do
  let name ← quotedText
  match ← peekToken with
  | none => fail .eofInObject
  | some b =>
    if b = byte ':' then
      skip
      return name
    else fail .expectedColon

/-- Takes the members of an object after the first, up to the closing brace. -/
def moreMembers (item : Read Json) :
    (rounds : Nat) → (taken : List (String × Json)) → Read (List (String × Json))
  | 0, taken => return taken.reverse
  | rounds + 1, taken => do
    match ← peekToken with
    | none => fail .eofInObject
    | some b =>
      if b = byte '}' then
        skip
        return taken.reverse
      else if b = byte ',' then
        skip
        match ← peekToken with
        | none => fail .eofInValue
        | some b =>
          if b = byte '"' then
            let name ← memberName
            let value ← item
            moreMembers item rounds ((name, value) :: taken)
          else if b = byte '}' then fail .trailingComma
          else fail .keyNotString
      else fail .expectedCommaOrBrace

/-- Takes a value that is no array and no object, and starts with the given byte. -/
def scalar (digits : Nat) (b : UInt8) : Read Json := do
  if b = byte '"' then return .string (← quotedText)
  else if b = byte 't' then
    word "true".toList
    return .bool true
  else if b = byte 'f' then
    word "false".toList
    return .bool false
  else if b = byte 'n' then
    word "null".toList
    return .null
  else if b = byte 'N' then
    word "NaN".toList
    return .float .nan
  else if b = byte 'I' then
    word "Infinity".toList
    return .float (.infinity false)
  else if b = byte '-' || isDigit b then number digits
  else fail .expectedValue

/-- Takes a value; `digits` limits its numbers, and `depth` is how many more levels of nesting are
allowed. -/
def value (digits depth : Nat) : Read Json := do
  match ← peekToken with
  | none => fail .eofInValue
  | some b =>
    if b = byte '[' then
      skip
      match ← peekToken with
      | none => fail .eofInArray
      | some first =>
        if first = byte ']' then
          skip
          return .array []
        else
          match depth with
          | 0 => fail .tooDeep
          | depth + 1 =>
            let item := value digits depth
            let head ← item
            return .array (← moreItems item ((← get).rest.length + 1) [head])
    else if b = byte '{' then
      skip
      match ← peekToken with
      | none => fail .eofInObject
      | some first =>
        if first = byte '}' then
          skip
          return .object []
        else if first = byte '"' then
          let name ← memberName
          match ← peekToken with
          | none => fail .eofInValue
          | some _ =>
            match depth with
            | 0 => fail .tooDeep
            | depth + 1 =>
              let item := value digits depth
              let head ← item
              return .object (← moreMembers item ((← get).rest.length + 1) [(name, head)])
        else fail .keyNotString
    else scalar digits b

/-- Takes a value and makes sure that nothing follows it. -/
def document (limits : Limits) : Read Json := do
  let result ← value limits.digits limits.depth
  match ← peekToken with
  | none => return result
  | some _ => fail .trailingCharacters

/-- The line and the column of a byte, counted from one; a line feed is at column zero of the line it
starts. An index past the end means the last column. -/
def lineAndColumn (bytes : List UInt8) (index : Nat) : Nat × Nat :=
  let upTo := bytes.take (index + 1)
  (upTo.count 0x0A + 1, (upTo.reverse.takeWhile (· ≠ 0x0A)).length)

/-- The value of a JSON text within limits. -/
def readWithin (limits : Limits) (bytes : List UInt8) : Except Fault Json :=
  match (document limits).run ⟨bytes, 0⟩ with
  | .ok (result, _) => .ok result
  | .error (cause, index) =>
    let (line, column) := lineAndColumn bytes index
    .error ⟨cause, line, column⟩

/-- The value of a JSON text within the usual limits. -/
def read (bytes : List UInt8) : Except Fault Json :=
  readWithin .usual bytes

end Redaction.Json
