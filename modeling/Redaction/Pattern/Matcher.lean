import Redaction.Pattern.Node

/-!
# Matching

Backtracking in continuation-passing style: a part of a pattern is given a cursor and what has to match
after it, tries its possibilities in order of preference, and answers with the first cursor that makes
the rest succeed. Groups set on the way belong to the cursor, so giving up a possibility also gives up
what it captured.

* `Pattern.Cursor`: a place in the text with the groups captured on the way to it.
* `Node.run`: the possibilities of a resolved pattern.
* `Step.times`, `Step.greedy`, `Step.lazily`, `Step.possessive`: repetition. A copy that matches nothing
  is the last one beyond the required number.
-/

namespace Redaction.Pattern

/-- Where a group was last opened and last closed. -/
structure Mark where
  opened : Option Nat := none
  closed : Option Nat := none
deriving Repr, DecidableEq, Inhabited

/-- The extent of a group that has matched. -/
def Mark.extent? (mark : Mark) : Option (Nat × Nat) :=
  match mark.opened, mark.closed with
  | some first, some last => if first ≤ last then some (first, last) else none
  | _, _ => none

/-- A place in the text with the marks of the groups. -/
structure Cursor where
  position : Nat
  marks : Array Mark
deriving Repr

namespace Cursor

/-- The extent of a group, if it has matched. -/
def extent? (cursor : Cursor) (group : Nat) : Option (Nat × Nat) :=
  cursor.marks[group]?.bind Mark.extent?

/-- Opens a group here. -/
def openGroup (cursor : Cursor) (group : Nat) : Cursor :=
  { cursor with
    marks := cursor.marks.modify group fun mark => { mark with opened := some cursor.position } }

/-- Closes a group here. -/
def closeGroup (cursor : Cursor) (group : Nat) : Cursor :=
  { cursor with
    marks := cursor.marks.modify group fun mark => { mark with closed := some cursor.position } }

/-- The cursor moved forward. -/
def forward (cursor : Cursor) (distance : Nat) : Cursor :=
  { cursor with position := cursor.position + distance }

end Cursor

/-- What has to match after a part. -/
abbrev Rest := Cursor → Option Cursor

/-- A part of a pattern: from a cursor and what has to match after it to the first success. -/
abbrev Step := Cursor → Rest → Option Cursor

namespace Step

/-- A required number of copies. -/
def times (step : Step) : Nat → Step
  | 0, cursor, rest => rest cursor
  | n + 1, cursor, rest => step cursor fun cursor => times step n cursor rest

/-- Whether another copy may be tried: the bound allows it, and the last one was not empty. -/
def mayRepeat (bound : Option Nat) (last : Option Nat) (cursor : Cursor) : Bool :=
  bound != some 0 && last != some cursor.position

/-- As many further copies as possible, fewer if the rest asks for it. `last` is where the last of them
started. -/
def greedy (step : Step) : (rounds : Nat) → (bound last : Option Nat) → Step
  | 0, _, _, cursor, rest => rest cursor
  | rounds + 1, bound, last, cursor, rest =>
    if mayRepeat bound last cursor then
      let more := step cursor fun next =>
        greedy step rounds (bound.map (· - 1)) (some cursor.position) next rest
      match more with
      | some found => some found
      | none => rest cursor
    else rest cursor

/-- As few further copies as possible, more if the rest asks for it. -/
def lazily (step : Step) : (rounds : Nat) → (bound last : Option Nat) → Step
  | 0, _, _, cursor, rest => rest cursor
  | rounds + 1, bound, last, cursor, rest =>
    match rest cursor with
    | some found => some found
    | none =>
      if mayRepeat bound last cursor then
        step cursor fun next =>
          lazily step rounds (bound.map (· - 1)) (some cursor.position) next rest
      else none

/-- A required number of copies, each of them taken as it first matches. -/
def firmTimes (step : Step) : Nat → Rest
  | 0, cursor => some cursor
  | n + 1, cursor =>
    match step cursor some with
    | some next => firmTimes step n next
    | none => none

/-- As many further copies as possible, each of them taken as it first matches. -/
def firmly (step : Step) : (rounds : Nat) → (bound last : Option Nat) → Cursor → Cursor
  | 0, _, _, cursor => cursor
  | rounds + 1, bound, last, cursor =>
    if mayRepeat bound last cursor then
      match step cursor some with
      | some next => firmly step rounds (bound.map (· - 1)) (some cursor.position) next
      | none => cursor
    else cursor

/-- Copies of a part between two bounds. Beyond the required ones each copy but the last moves on, so
there are at most two rounds more than characters left. -/
def repeated (step : Step) (greed : Greed) (min : Nat) (max : Option Nat) (size : Nat) : Step :=
  fun cursor rest =>
    let bound := max.map (· - min)
    match greed with
    | .greedy =>
      times step min cursor fun cursor =>
        greedy step (size - cursor.position + 2) bound none cursor rest
    | .lazy =>
      times step min cursor fun cursor =>
        lazily step (size - cursor.position + 2) bound none cursor rest
    | .possessive =>
      match firmTimes step min cursor with
      | some cursor => rest (firmly step (size - cursor.position + 2) bound none cursor)
      | none => none

end Step

/-! ## Runs of one character -/

/-- How many characters from a place on pass a test, up to a limit. -/
def runLength (text : Array Char) (test : CharTest) (position : Nat) : (limit : Nat) → Nat
  | 0 => 0
  | limit + 1 =>
    match text[position]? with
    | some c => if test.accepts c.toNat then runLength text test (position + 1) limit + 1 else 0
    | none => 0

/-- Tries the rest after `least + extra` characters, then after one fewer, down to `least`. -/
def giveBack (cursor : Cursor) (rest : Rest) (least : Nat) : (extra : Nat) → Option Cursor
  | 0 => rest (cursor.forward least)
  | extra + 1 =>
    match rest (cursor.forward (least + (extra + 1))) with
    | some found => some found
    | none => giveBack cursor rest least extra

/-- Tries the rest here, then after each further character of a run. -/
def takeMore (cursor : Cursor) (rest : Rest) : (extra : Nat) → Option Cursor
  | 0 => rest cursor
  | extra + 1 =>
    match rest cursor with
    | some found => some found
    | none => takeMore (cursor.forward 1) rest extra

/-- Copies of a single-character item: a run of characters, cut where the rest asks for it. -/
def unitRun (text : Array Char) (test : CharTest) (greed : Greed) (min : Nat) (max : Option Nat) :
    Step :=
  fun cursor rest =>
    let left := text.size - cursor.position
    let limit := match max with
      | some max => Nat.min max left
      | none => left
    let length := runLength text test cursor.position limit
    if length < min then none
    else
      match greed with
      | .greedy => giveBack cursor rest min (length - min)
      | .lazy => takeMore (cursor.forward min) rest (length - min)
      | .possessive => rest (cursor.forward length)

/-! ## Places and references -/

/-- Whether the character before a place, and the one at it, are word characters. -/
def wordSides (text : Array Char) (ascii : Bool) (position : Nat) : Bool × Bool :=
  let isWord := fun c : Char => Category.word.has ascii c.toNat
  let before := if position = 0 then false else (text[position - 1]?.map isWord).getD false
  (before, (text[position]?.map isWord).getD false)

/-- Whether a place in the text is of a kind. An empty text has no place that is or is not the edge of
a word. -/
def Place.holds (text : Array Char) (position : Nat) : Place → Bool
  | textStart => position = 0
  | textEnd => position = text.size
  | lineStart => position = 0 || text[position - 1]? = some '\n'
  | lineEnd => position = text.size || text[position]? = some '\n'
  | finalLineEnd =>
    position = text.size || (position + 1 = text.size && text[position]? = some '\n')
  | wordEdge ascii =>
    let (before, after) := wordSides text ascii position
    text.size != 0 && before != after
  | notWordEdge ascii =>
    let (before, after) := wordSides text ascii position
    text.size != 0 && before = after

/-- Whether the text repeats `length` characters from `source` at `target`. -/
def repeats (text : Array Char) (fold : Fold) (source target : Nat) : (length : Nat) → Bool
  | 0 => true
  | length + 1 =>
    match text[source]?, text[target]? with
    | some a, some b =>
      fold.lower a.toNat = fold.lower b.toNat && repeats text fold (source + 1) (target + 1) length
    | _, _ => false

/-! ## Patterns -/

/-- The test of a pattern that is a single-character item. -/
def Node.test? : Node → Option CharTest
  | .char test => some test
  | _ => none

/-- The possibilities of a resolved pattern on a text. -/
def Node.run (text : Array Char) : Node → Step
  | .empty, cursor, rest => rest cursor
  | .char test, cursor, rest =>
    match text[cursor.position]? with
    | some c => if test.accepts c.toNat then rest (cursor.forward 1) else none
    | none => none
  | .place kind, cursor, rest => if kind.holds text cursor.position then rest cursor else none
  | .seq first second, cursor, rest =>
    first.run text cursor fun cursor => second.run text cursor rest
  | .alt first second, cursor, rest =>
    match first.run text cursor rest with
    | some found => some found
    | none => second.run text cursor rest
  | .groupRef group fold, cursor, rest =>
    match cursor.extent? group with
    | some (first, last) =>
      if repeats text fold first cursor.position (last - first) then
        rest (cursor.forward (last - first))
      else none
    | none => none
  | .groupTest group yes no, cursor, rest =>
    if (cursor.extent? group).isSome then yes.run text cursor rest else no.run text cursor rest
  | .repeated greed min max body, cursor, rest =>
    match body.test? with
    | some test => unitRun text test greed min max cursor rest
    | none => Step.repeated (body.run text) greed min max text.size cursor rest
  | .ahead negated body, cursor, rest =>
    match body.run text cursor some, negated with
    | some found, false => rest { found with position := cursor.position }
    | none, true => rest cursor
    | _, _ => none
  | .behind negated distance body, cursor, rest =>
    let found? :=
      if distance ≤ cursor.position then
        body.run text { cursor with position := cursor.position - distance } some
      else none
    match found?, negated with
    | some found, false => rest { found with position := cursor.position }
    | none, true => rest cursor
    | _, _ => none
  | .atomic body, cursor, rest =>
    match body.run text cursor some with
    | some found => rest found
    | none => none
  | .capture group body, cursor, rest =>
    body.run text (cursor.openGroup group) fun cursor => rest (cursor.closeGroup group)

end Redaction.Pattern
