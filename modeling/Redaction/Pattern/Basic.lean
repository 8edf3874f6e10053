import Redaction.Pattern.Matcher
import Redaction.Pattern.Parser

/-!
# Search patterns

* `Pattern.compile`: a search pattern from its text, or why the text is refused.
* `Pattern.search`: the first match in a text.
* `Pattern.matches`: all matches from left to right, none overlapping another. An empty match is taken
  only where no match just ended empty, so each search moves on.
* `Pattern.replaceAll`: the text with each match replaced.

A pattern's text is cut by its matches into pieces: `Pattern.pieces` are what lies before, between and
after them.
-/

namespace Redaction

/-- A compiled search pattern. -/
structure Pattern where
  text : String
  flags : Pattern.Flags
  groupCount : Nat
  names : List (String × Nat)
  node : Pattern.Node

namespace Pattern

/-- Compiles the text of a pattern. -/
def compile (text : String) : Except Refusal Pattern := do
  let source ← Source.parse text
  let node ← Node.ofTerms source.groups source.flags source.terms
  return {
    text, node
    flags := source.flags
    groupCount := source.groups.size - 1
    names := source.names }

/-- A match: where it starts and stops, and the marks of the groups. -/
structure Match where
  start : Nat
  stop : Nat
  marks : Array Mark
deriving Repr

variable (pattern : Pattern)

/-- The match that starts at a place; with `nonempty` an empty one does not count. -/
def matchAt (text : Array Char) (start : Nat) (nonempty : Bool) : Option Match :=
  let accept : Rest := fun cursor =>
    if nonempty && cursor.position = start then none else some cursor
  let marks := Array.replicate (pattern.groupCount + 1) ({} : Mark)
  (pattern.node.run text ⟨start, marks⟩ accept).map fun cursor =>
    ⟨start, cursor.position, cursor.marks⟩

/-- The first match that starts at `start` or at one of the `more` places after it. -/
def firstMatch (text : Array Char) (start : Nat) : (more : Nat) → Option Match
  | 0 => pattern.matchAt text start false
  | more + 1 =>
    match pattern.matchAt text start false with
    | some found => some found
    | none => firstMatch text (start + 1) more

/-- The first match from a place on; with `nonempty` an empty one does not count at that very place. -/
def matchFrom (text : Array Char) (start : Nat) (nonempty : Bool) : Option Match :=
  if nonempty then
    match pattern.matchAt text start true with
    | some found => some found
    | none =>
      if start < text.size then pattern.firstMatch text (start + 1) (text.size - (start + 1))
      else none
  else pattern.firstMatch text start (text.size - start)

/-- The first match in a text. -/
def search (text : Array Char) : Option Match :=
  pattern.matchFrom text 0 false

/-- The matches from a place on. Each round moves on or is the last empty one at its place. -/
def matchesFrom (text : Array Char) (start : Nat) (nonempty : Bool) : (rounds : Nat) → List Match
  | 0 => []
  | rounds + 1 =>
    match pattern.matchFrom text start nonempty with
    | none => []
    | some found =>
      found :: matchesFrom text found.stop (found.start = found.stop) rounds

/-- All matches in a text, from left to right. -/
def «matches» (text : Array Char) : List Match :=
  pattern.matchesFrom text 0 false (2 * text.size + 2)

/-- The characters from one place up to another. -/
def slice (text : Array Char) (start stop : Nat) : List Char :=
  (text.extract start stop).toList

/-- What lies before, between and after matches, from a place on. -/
def piecesFrom (text : Array Char) (start : Nat) : List Match → List (List Char)
  | [] => [slice text start text.size]
  | found :: rest => slice text start found.start :: piecesFrom text found.stop rest

/-- The pieces of a text outside the matches of the pattern. -/
def pieces (text : Array Char) : List (List Char) :=
  piecesFrom text 0 (pattern.matches text)

/-- The text that a group matched, if it did. -/
def Match.group? (found : Match) (text : Array Char) (group : Nat) : Option (List Char) :=
  if group = 0 then some (slice text found.start found.stop)
  else ((found.marks[group]?).bind Mark.extent?).map fun (first, last) => slice text first last

/-- Puts the replacements of matches between the pieces of a text, from a place on. -/
def spliceFrom (text : Array Char) (replacement : Match → List Char) (start : Nat) :
    List Match → List Char
  | [] => slice text start text.size
  | found :: rest =>
    slice text start found.start ++ replacement found ++
      spliceFrom text replacement found.stop rest

/-- The text with every match replaced. -/
def replaceAll (replacement : Array Char → Match → List Char) (text : String) : String :=
  let chars := text.toList.toArray
  String.ofList (spliceFrom chars (replacement chars) 0 (pattern.matches chars))

end Pattern
end Redaction
