/-!
# Search patterns as written

The tree of a search pattern as its text spells it, before flags are applied.

* `Pattern.Flags`: the switches a pattern sets for itself or for a part.
* `Pattern.Term`: one item of a pattern, such as a character, a set or a repeated part.
* `Pattern.Source`: a whole pattern with its flags, its groups and their names.
-/

namespace Redaction.Pattern

/-- The switches of a pattern. `template` is an old switch that forbids repetition. -/
structure Flags where
  template : Bool := false
  ignoreCase : Bool := false
  multiline : Bool := false
  dotAll : Bool := false
  unicode : Bool := false
  verbose : Bool := false
  ascii : Bool := false
deriving Repr, DecidableEq

namespace Flags

/-- The switches on in either. -/
def union (a b : Flags) : Flags where
  template := a.template || b.template
  ignoreCase := a.ignoreCase || b.ignoreCase
  multiline := a.multiline || b.multiline
  dotAll := a.dotAll || b.dotAll
  unicode := a.unicode || b.unicode
  verbose := a.verbose || b.verbose
  ascii := a.ascii || b.ascii

/-- The switches on in the first and off in the second. -/
def minus (a b : Flags) : Flags where
  template := a.template && !b.template
  ignoreCase := a.ignoreCase && !b.ignoreCase
  multiline := a.multiline && !b.multiline
  dotAll := a.dotAll && !b.dotAll
  unicode := a.unicode && !b.unicode
  verbose := a.verbose && !b.verbose
  ascii := a.ascii && !b.ascii

/-- The switches on in both. -/
def inter (a b : Flags) : Flags where
  template := a.template && b.template
  ignoreCase := a.ignoreCase && b.ignoreCase
  multiline := a.multiline && b.multiline
  dotAll := a.dotAll && b.dotAll
  unicode := a.unicode && b.unicode
  verbose := a.verbose && b.verbose
  ascii := a.ascii && b.ascii

/-- No switch is on. -/
def isEmpty (a : Flags) : Bool :=
  a = {}

/-- The switch that a flag letter stands for. -/
def ofLetter? : Char → Option Flags
  | 'a' => some { ascii := true }
  | 'i' => some { ignoreCase := true }
  | 'm' => some { multiline := true }
  | 's' => some { dotAll := true }
  | 't' => some { template := true }
  | 'u' => some { unicode := true }
  | 'x' => some { verbose := true }
  | _ => none

/-- The flags inside a part that turns some on and some off: choosing between ASCII and Unicode
replaces the earlier choice. -/
def within (outer on off : Flags) : Flags :=
  let outer := if on.ascii || on.unicode then { outer with ascii := false, unicode := false } else outer
  (outer.union on).minus off

/-- The flags as a number, one bit a switch. -/
def toNat (a : Flags) : Nat :=
  let bit := fun (on : Bool) (value : Nat) => if on then value else 0
  bit a.template 1 + bit a.ignoreCase 2 + bit a.multiline 8 + bit a.dotAll 16 + bit a.unicode 32 +
    bit a.verbose 64 + bit a.ascii 256

end Flags

/-- The named classes of characters. -/
inductive Category
  | digit
  | blank
  | word
deriving Repr, DecidableEq

/-- A member of a character set. -/
inductive Member
  | code (code : Nat)
  | range (first last : Nat)
  | category (kind : Category) (negated : Bool)
deriving Repr, DecidableEq

/-- A condition on a place in the text. -/
inductive Anchor
  /-- `^` -/
  | lineStart
  /-- `$` -/
  | lineEnd
  /-- `\A` -/
  | textStart
  /-- `\Z` -/
  | textEnd
  /-- `\b` -/
  | wordEdge
  /-- `\B` -/
  | notWordEdge
deriving Repr, DecidableEq

/-- How many copies a repetition prefers, and whether it gives any back. -/
inductive Greed
  | greedy
  | lazy
  | possessive
deriving Repr, DecidableEq

/-- One item of a pattern. A list of items stands for their sequence. -/
inductive Term
  | literal (code : Nat)
  | notLiteral (code : Nat)
  | anyChar
  | set (negated : Bool) (members : List Member)
  | anchor (anchor : Anchor)
  | groupRef (group : Nat)
  | groupTest (group : Nat) (yes : List Term) (no : Option (List Term))
  | repeated (greed : Greed) (min : Nat) (max : Option Nat) (body : List Term)
  | branch (branches : List (List Term))
  | look (behind negated : Bool) (body : List Term)
  | atomic (body : List Term)
  | group (index : Option Nat) (on off : Flags) (body : List Term)
deriving Repr, Inhabited

namespace Term

/-- Items without parts, which can be compared by value. -/
inductive Leaf
  | literal (code : Nat)
  | notLiteral (code : Nat)
  | anyChar
  | set (negated : Bool) (members : List Member)
  | anchor (anchor : Anchor)
  | groupRef (group : Nat)
deriving DecidableEq

/-- The item as a leaf, if it has no parts. -/
def leaf? : Term → Option Leaf
  | literal code => some (.literal code)
  | notLiteral code => some (.notLiteral code)
  | anyChar => some .anyChar
  | set negated members => some (.set negated members)
  | anchor a => some (.anchor a)
  | groupRef index => some (.groupRef index)
  | _ => none

end Term

/-- The least and the greatest number of characters a part can match. -/
structure Width where
  least : Nat
  greatest : Nat
deriving Repr, DecidableEq

namespace Width

/-- Widths count no further than this. -/
def ceiling : Nat := 0x10000000000000000

/-- Both ends cut at the ceiling. -/
def capped (w : Width) : Width :=
  ⟨min w.least ceiling, min w.greatest ceiling⟩

/-- One part after the other. -/
def add (a b : Width) : Width :=
  ⟨a.least + b.least, a.greatest + b.greatest⟩

/-- Either of two parts. -/
def either (a b : Width) : Width :=
  ⟨min a.least b.least, max a.greatest b.greatest⟩

/-- Copies of a part. -/
def times (w : Width) (min : Nat) (max : Option Nat) : Width :=
  match max with
  | some max => ⟨w.least * min, w.greatest * max⟩
  | none => ⟨w.least * min, if w.greatest = 0 then 0 else ceiling⟩

end Width

mutual

/-- The width of one item, given those of the groups. -/
def Term.width (groups : Array (Option Width)) : Term → Width
  | .literal _ | .notLiteral _ | .anyChar | .set _ _ => ⟨1, 1⟩
  | .anchor _ => ⟨0, 0⟩
  | .groupRef index => (groups[index]?.join).getD ⟨0, 0⟩
  | .groupTest _ yes none => (Width.mk 0 0).either (seqWidth groups yes).capped
  | .groupTest _ yes (some no) => (seqWidth groups yes).capped.either (seqWidth groups no).capped
  | .repeated _ min max body => (seqWidth groups body).capped.times min max
  | .branch branches => branchWidth groups branches
  | .look _ _ _ => ⟨0, 0⟩
  | .atomic body => (seqWidth groups body).capped
  | .group _ _ _ body => (seqWidth groups body).capped

/-- The width of a sequence. -/
def seqWidth (groups : Array (Option Width)) : List Term → Width
  | [] => ⟨0, 0⟩
  | term :: rest => (term.width groups).add (seqWidth groups rest)

/-- The width of alternatives. -/
def branchWidth (groups : Array (Option Width)) : List (List Term) → Width
  | [] => ⟨Width.ceiling, 0⟩
  | terms :: rest => (seqWidth groups terms).capped.either (branchWidth groups rest)

end

/-- A whole pattern as written: its items, its flags, the widths of its groups (the whole match has
index zero) and the names of groups in order of their numbers. -/
structure Source where
  terms : List Term
  flags : Flags
  groups : Array (Option Width)
  names : List (String × Nat)

end Redaction.Pattern
