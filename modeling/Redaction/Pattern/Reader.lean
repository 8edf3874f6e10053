import Redaction.Pattern.Fault

/-!
# Reading a pattern mark by mark

A pattern or template is read as a row of marks: a character, or a backslash together with the character
after it. A backslash with nothing after it is a fault, noticed as soon as the mark before it is taken.

* `Pattern.Token`: one mark.
* `Pattern.Reader`: the marks still to be read and the index of the first of them.
* `Pattern.Read`: computations that take marks and may refuse the pattern.
* `Reader.until`, `Reader.whileDigits`: names up to a terminator, and runs of digits.
-/

namespace Redaction.Pattern

/-- One mark of a pattern. -/
inductive Token
  | plain (c : Char)
  | escaped (c : Char)
  /-- A backslash that ends the text. -/
  | lone
deriving Repr, DecidableEq

namespace Token

/-- The characters a mark is written with. -/
def text : Token → List Char
  | plain c => [c]
  | escaped c => ['\\', c]
  | lone => ['\\']

/-- The number of these characters. -/
def size (token : Token) : Nat :=
  token.text.length

/-- The marks of a text. -/
def all : List Char → List Token
  | [] => []
  | ['\\'] => [lone]
  | '\\' :: c :: rest => escaped c :: all rest
  | c :: rest => plain c :: all rest

/-- No character of a text is lost in its marks. -/
theorem flatMap_text_all (chars : List Char) : (all chars).flatMap text = chars := by
  fun_induction all chars <;> simp_all [text]

end Token

/-- The marks still to be read and the index of the first of them. -/
structure Reader where
  rest : List Token
  position : Nat

/-- Computations that take marks from a reader. -/
abbrev Read := StateT Reader (Except Refusal)

namespace Reader

/-- A reader is ready if the next mark is not a lone backslash. -/
def ready (reader : Reader) : Except Refusal Reader :=
  if reader.rest.head? = some .lone then refuseAt .badEscapeAtEnd reader.position else .ok reader

/-- A reader at the start of a text. -/
def ofText (text : String) : Except Refusal Reader :=
  ready ⟨Token.all text.toList, 0⟩

/-- The next mark, left in place. -/
def peek : Read (Option Token) := do
  return (← get).rest.head?

/-- The index of the next mark. -/
def place : Read Nat := do
  return (← get).position

/-- Takes the next mark. -/
def next : Read (Option Token) := do
  let reader ← get
  match reader.rest with
  | [] => return none
  | token :: rest =>
    set (← ready ⟨rest, reader.position + token.size⟩)
    return some token

/-- Takes the next mark if it is the given character. -/
def accept (c : Char) : Read Bool := do
  if (← peek) = some (.plain c) then
    let _ ← next
    return true
  else return false

/-- Takes at most `limit` marks that are digits of a kind. -/
def whileDigits (isDigit : Char → Bool) : (limit : Nat) → Read (List Char)
  | 0 => return []
  | limit + 1 => do
    match ← peek with
    | some (.plain c) =>
      if isDigit c then
        let _ ← next
        return c :: (← whileDigits isDigit limit)
      else return []
    | _ => return []

/-- The characters up to a terminator, among the given marks; `taken` are those before them. -/
def untilAmong (terminator : Char) (what : String) (taken : List Char) (position : Nat) :
    List Token → Except Refusal (List Char × Reader)
  | [] =>
    if taken.isEmpty then refuseAt (.missingName what) position
    else refuseAt (.unterminatedName terminator) (position - taken.length)
  | token :: rest => do
    let reader ← ready ⟨rest, position + token.size⟩
    if token = .plain terminator then
      if taken.isEmpty then refuseAt (.missingName what) position
      else return (taken, reader)
    else untilAmong terminator what (taken ++ token.text) reader.position rest

/-- Takes a non-empty name and the terminator after it. -/
def «until» (terminator : Char) (what : String) : Read (List Char) := do
  let reader ← get
  let (name, reader) ← untilAmong terminator what [] reader.position reader.rest
  set reader
  return name

/-- The reader after the first line feed among the given marks, or at their end. -/
def afterLineAmong (position : Nat) : List Token → Except Refusal Reader
  | [] => return ⟨[], position⟩
  | token :: rest => do
    let reader ← ready ⟨rest, position + token.size⟩
    if token = .plain '\n' then return reader else afterLineAmong reader.position rest

/-- Takes all marks up to the end of the line. -/
def skipLine : Read Unit := do
  let reader ← get
  set (← afterLineAmong reader.position reader.rest)

/-- The reader after the first closing parenthesis among the given marks; `start` is where the comment
was opened. -/
def afterCommentAmong (start position : Nat) : List Token → Except Refusal Reader
  | [] => refuseAt .unterminatedComment start
  | token :: rest => do
    let reader ← ready ⟨rest, position + token.size⟩
    if token = .plain ')' then return reader else afterCommentAmong start reader.position rest

/-- Takes all marks up to a closing parenthesis. -/
def skipComment (start : Nat) : Read Unit := do
  let reader ← get
  set (← afterCommentAmong start reader.position reader.rest)

end Reader

/-- An ASCII decimal digit. -/
def isDecimalDigit (c : Char) : Bool :=
  '0' ≤ c && c ≤ '9'

/-- An octal digit. -/
def isOctalDigit (c : Char) : Bool :=
  '0' ≤ c && c ≤ '7'

/-- A hexadecimal digit of either case. -/
def isHexDigit (c : Char) : Bool :=
  isDecimalDigit c || ('a' ≤ c && c ≤ 'f') || ('A' ≤ c && c ≤ 'F')

/-- An ASCII letter. -/
def isAsciiLetter (c : Char) : Bool :=
  ('a' ≤ c && c ≤ 'z') || ('A' ≤ c && c ≤ 'Z')

/-- The value of a digit up to base sixteen. -/
def digitValue (c : Char) : Nat :=
  if isDecimalDigit c then c.toNat - 0x30
  else if 'a' ≤ c then c.toNat - 0x57
  else c.toNat - 0x37

/-- The number that digits write in a base. -/
def ofDigits (base : Nat) (digits : List Char) : Nat :=
  digits.foldl (fun n c => base * n + digitValue c) 0

/-- The characters that a backslash and a letter stand for, in patterns and in templates. -/
def controlEscape? : Char → Option Nat
  | 'a' => some 0x07
  | 'b' => some 0x08
  | 'f' => some 0x0C
  | 'n' => some 0x0A
  | 'r' => some 0x0D
  | 't' => some 0x09
  | 'v' => some 0x0B
  | '\\' => some 0x5C
  | _ => none

/-- Group numbers end before this one. -/
def maxGroups : Nat := 1073741823

/-- A group number as a name gives it: a whole number that is not negative. -/
def groupNumber? (name : List Char) : Option Nat :=
  match Text.readInt? name with
  | some n => if n < 0 then none else some n.toNat
  | none => none

end Redaction.Pattern
