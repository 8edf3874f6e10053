import Redaction.Pattern.Basic
import Redaction.Text.Identifier

/-!
# Replacement templates

A template is literal text with references to the groups of a pattern, by number or by name.

* `Template.parse`: a template from its text, for the groups of a pattern.
* `Template.expand`: the text that replaces a match; a group that took no part gives nothing.
-/

namespace Redaction

/-- A part of a template. -/
inductive Template.Piece
  | literal (text : List Char)
  | group (group : Nat)
deriving Repr, DecidableEq

/-- A replacement template. -/
structure Template where
  pieces : List Template.Piece
deriving Repr, DecidableEq

namespace Template

open Pattern (Read Reader Refusal Token refuseAt refuse)

variable (pattern : Pattern)

/-- A reference to a group of the pattern; `place` is where its number stands. -/
def reference (group place : Nat) : Read Piece :=
  if pattern.groupCount < group then refuseAt (.invalidGroup group) place
  else return .group group

/-- A reference between angle brackets, by number or by name. -/
def bracketReference : Read Piece := do
  if !(← Reader.accept '<') then refuseAt (.missingOpening '<') (← Reader.place)
  let name ← Reader.until '>' "group name"
  let place := (← Reader.place) - (name.length + 1)
  if Text.isIdentifier name then
    match pattern.names.lookup (String.ofList name) with
    | some group => reference pattern group place
    | none => refuse (.unknownGroupName (String.ofList name))
  else
    match Pattern.groupNumber? name with
    | none => refuseAt (.badNameCharacter (String.ofList name)) place
    | some group => reference pattern group place

/-- A reference by number, or an octal escape of three digits; `c` is its first digit. -/
def numberReference (c : Char) (start : Nat) : Read Piece := do
  let second ← Reader.whileDigits Pattern.isDecimalDigit 1
  let third ←
    if Pattern.isOctalDigit c && !second.isEmpty && second.all Pattern.isOctalDigit then
      Reader.whileDigits Pattern.isOctalDigit 1
    else pure []
  let digits := c :: second ++ third
  if third.isEmpty then reference pattern (Pattern.ofDigits 10 digits) (start + 1)
  else return .literal [Char.ofNat (← Pattern.octalEscape digits start)]

/-- The part that an escape means. A backslash before a character that is no letter stands for
itself. -/
def escape (c : Char) (start : Nat) : Read Piece := do
  if c = 'g' then bracketReference pattern
  else if c = '0' then
    let more ← Reader.whileDigits Pattern.isOctalDigit 2
    return .literal [Char.ofNat (Pattern.ofDigits 8 more % 0x100)]
  else if Pattern.isDecimalDigit c then numberReference pattern c start
  else
    match Pattern.controlEscape? c with
    | some code => return .literal [Char.ofNat code]
    | none =>
      if Pattern.isAsciiLetter c then refuseAt (.badEscape (String.ofList ['\\', c])) start
      else return .literal ['\\', c]

/-- Reads parts until the marks end; each round takes at least one. -/
def parts : (rounds : Nat) → Read (List Piece)
  | 0 => return []
  | rounds + 1 => do
    let start ← Reader.place
    match ← Reader.next with
    | none => return []
    | some (.escaped c) =>
      let piece ← escape pattern c start
      return piece :: (← parts rounds)
    | some (.plain c) => return .literal [c] :: (← parts rounds)
    | some .lone => return []

/-- Reads a template for the groups of a pattern. -/
def parse (text : String) : Except Refusal Template := do
  let reader ← Reader.ofText text
  let (pieces, _) ← (parts pattern reader.rest.length).run reader
  return ⟨pieces⟩

/-- The text of a part for a match. -/
def Piece.expand (text : Array Char) (found : Pattern.Match) : Piece → List Char
  | literal chars => chars
  | group index => (found.group? text index).getD []

/-- The text that replaces a match. -/
def expand (template : Template) (text : Array Char) (found : Pattern.Match) : List Char :=
  template.pieces.flatMap (·.expand text found)

/-- A template without references. -/
def isPlain (template : Template) : Bool :=
  template.pieces.all fun
    | .literal _ => true
    | .group _ => false

end Template
end Redaction
