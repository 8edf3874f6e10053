import Redaction.Text.Integer

/-!
# Directives

A message template is a text with directives such as `%-5d` or `%(user)s`. Reading a template never
fails: what is wrong with a directive is kept in it and shows only when the directive's turn comes, for the
arguments before it are consumed first.

* `Directive`: a directive by its parts.
* `Piece`: a run of plain text, a percent sign written twice, or a directive.
* `pieces`: the pieces of a template.
-/

namespace Redaction.Percent

/-- The flags of a directive. -/
structure Flags where
  left : Bool := false
  sign : Bool := false
  blank : Bool := false
  alternate : Bool := false
  zero : Bool := false
deriving Repr, DecidableEq

/-- A width or a precision. -/
inductive Amount
  | absent
  | given (n : Nat)
  /-- The next argument says it. -/
  | fromArgument
  | tooBig
deriving Repr, DecidableEq

/-- The name by which a directive picks its argument. -/
inductive Key
  | absent
  | named (name : String)
  /-- The round bracket is never closed. -/
  | unclosed
deriving Repr, DecidableEq

/-- The part of a directive between the percent sign and the conversion; the conversion comes with its
place in the template, and a template may end before it. -/
structure Directive where
  key : Key := .absent
  flags : Flags := {}
  width : Amount := .absent
  precision : Amount := .absent
  conversion : Option (Char × Nat) := none
deriving Repr, DecidableEq

/-- A part of a template. -/
inductive Piece
  | plain (text : List Char)
  /-- A percent sign written twice stands for itself. -/
  | percent
  | directive (directive : Directive)
deriving Repr, DecidableEq

/-! ## Reading -/

/-- The greatest width. -/
def maxWidth : Nat := 0x7FFFFFFFFFFFFFFF

/-- The greatest precision. -/
def maxPrecision : Nat := 0x7FFFFFFF

/-- Reads up to the bracket that closes `depth` open ones: what is inside and what comes after. -/
def readKey (depth : Nat) : List Char → Option (List Char × List Char)
  | [] => none
  | c :: rest =>
    if c = ')' then
      match depth with
      | 0 => some ([], rest)
      | depth + 1 => (readKey depth rest).map fun (inside, after) => (c :: inside, after)
    else
      let depth := if c = '(' then depth + 1 else depth
      (readKey depth rest).map fun (inside, after) => (c :: inside, after)

/-- Adds a flag, if the character is one. -/
def Flags.add? (flags : Flags) : Char → Option Flags
  | '-' => some { flags with left := true }
  | '+' => some { flags with sign := true }
  | ' ' => some { flags with blank := true }
  | '#' => some { flags with alternate := true }
  | '0' => some { flags with zero := true }
  | _ => none

/-- Reads flags as long as there are any. -/
def readFlags (flags : Flags) : List Char → Flags × List Char
  | [] => (flags, [])
  | c :: rest =>
    match flags.add? c with
    | some flags => readFlags flags rest
    | none => (flags, c :: rest)

/-- The value of an ASCII digit. -/
def digit? (c : Char) : Option Nat :=
  if '0' ≤ c && c ≤ '9' then some (c.toNat - '0'.toNat) else none

/-- Reads the digits of an amount that is `n` so far. -/
def readDigits (limit n : Nat) : List Char → Amount × List Char
  | [] => (.given n, [])
  | c :: rest =>
    match digit? c with
    | none => (.given n, c :: rest)
    | some d => if (limit - d) / 10 < n then (.tooBig, rest) else readDigits limit (10 * n + d) rest

/-- Reads a width or a precision, which may be missing. -/
def readAmount (limit : Nat) : List Char → Amount × List Char
  | [] => (.absent, [])
  | c :: rest =>
    if c = '*' then (.fromArgument, rest)
    else match digit? c with
      | some d => readDigits limit d rest
      | none => (.absent, c :: rest)

/-- Reads a precision. A point without digits stands for zero. -/
def readPrecision : List Char → Amount × List Char
  | '.' :: rest =>
    match readAmount maxPrecision rest with
    | (.absent, rest) => (.given 0, rest)
    | found => found
  | rest => (.absent, rest)

/-- Drops a mark of size before the conversion, which means nothing. -/
def dropSize : List Char → List Char
  | [] => []
  | c :: rest => if c = 'h' || c = 'l' || c = 'L' then rest else c :: rest

/-- Reads the directive after a percent sign; `total` is the length of the whole template. -/
def Directive.read (total : Nat) (text : List Char) : Directive × List Char :=
  let parts := fun (key : Key) (text : List Char) =>
    let (flags, text) := readFlags {} text
    let (width, text) := readAmount maxWidth text
    let (precision, text) := readPrecision text
    match dropSize text with
    | [] => ({ key, flags, width, precision }, [])
    | c :: rest =>
      ({ key, flags, width, precision, conversion := some (c, total - rest.length - 1) }, rest)
  match text with
  | '(' :: inside =>
    match readKey 0 inside with
    | some (name, rest) => parts (.named (String.ofList name)) rest
    | none => ({ key := .unclosed }, [])
  | text => parts .absent text

/-- The pieces of a template. A template of `n` characters has at most `n` pieces, which bounds the
reading. -/
def readPieces (total : Nat) : Nat → List Char → List Piece
  | 0, _ => []
  | _, [] => []
  | fuel + 1, '%' :: '%' :: rest => .percent :: readPieces total fuel rest
  | fuel + 1, '%' :: rest =>
    let (directive, rest) := Directive.read total rest
    .directive directive :: readPieces total fuel rest
  | fuel + 1, text =>
    .plain (text.takeWhile (· ≠ '%')) :: readPieces total fuel (text.dropWhile (· ≠ '%'))

/-- The pieces of a template. -/
def pieces (template : String) : List Piece :=
  let text := template.toList
  readPieces text.length text.length text

end Redaction.Percent
