import Redaction.Pattern.CharTest
import Redaction.Pattern.Fault

/-!
# Patterns ready for matching

A written pattern is resolved once: every flag is applied where it holds, and looks behind learn how far
back they start.

* `Pattern.Node`: a resolved pattern; sequences and alternatives are binary.
* `Node.ofTerms`: resolves a sequence of written items.
-/

namespace Redaction.Pattern

/-- A condition on a place with its flags applied. -/
inductive Place
  | textStart
  | textEnd
  | lineStart
  | lineEnd
  /-- The end of the text, or just before a line feed that ends it. -/
  | finalLineEnd
  | wordEdge (ascii : Bool)
  | notWordEdge (ascii : Bool)
deriving Repr, DecidableEq

/-- A resolved pattern. -/
inductive Node
  | empty
  | char (test : CharTest)
  | place (place : Place)
  | seq (first second : Node)
  | alt (first second : Node)
  | groupRef (group : Nat) (fold : Fold)
  | groupTest (group : Nat) (yes no : Node)
  | repeated (greed : Greed) (min : Nat) (max : Option Nat) (body : Node)
  | ahead (negated : Bool) (body : Node)
  | behind (negated : Bool) (distance : Nat) (body : Node)
  | atomic (body : Node)
  | capture (group : Nat) (body : Node)
deriving Repr, Inhabited

/-- The place that an anchor means under some flags. -/
def Anchor.place (flags : Flags) : Anchor → Place
  | .lineStart => if flags.multiline then .lineStart else .textStart
  | .lineEnd => if flags.multiline then .lineEnd else .finalLineEnd
  | .textStart => .textStart
  | .textEnd => .textEnd
  | .wordEdge => .wordEdge (!flags.unicode)
  | .notWordEdge => .notWordEdge (!flags.unicode)

/-- The name of a repetition, for the fault of a pattern that forbids it. -/
def Greed.operator : Greed → String
  | .greedy => "MAX_REPEAT"
  | .lazy => "MIN_REPEAT"
  | .possessive => "POSSESSIVE_REPEAT"

/-- The longest distance a look behind can start at. -/
def maxDistance : Nat := 4294967295

/-- How far back a look behind with this body starts; its width has to be fixed. -/
def lookDistance (groups : Array (Option Width)) (body : List Term) : Except Refusal Nat :=
  let width := (seqWidth groups body).capped
  if maxDistance < width.least then refuse .distantLookbehind
  else if width.least ≠ width.greatest then refuse .variableLookbehind
  else .ok width.least

mutual

/-- Resolves one item. -/
def Node.ofTerm (groups : Array (Option Width)) (flags : Flags) : Term → Except Refusal Node
  | .literal code => return .char (.ofLiteral (.ofFlags flags) false code)
  | .notLiteral code => return .char (.ofLiteral (.ofFlags flags) true code)
  | .anyChar => return .char (if flags.dotAll then .anything else .inLine)
  | .set negated members => return .char (.ofSet (.ofFlags flags) (!flags.unicode) negated members)
  | .anchor anchor => return .place (anchor.place flags)
  | .groupRef group => return .groupRef group (.ofFlags flags)
  | .groupTest group yes none => do
    return .groupTest group (← Node.ofTerms groups flags yes) .empty
  | .groupTest group yes (some no) => do
    return .groupTest group (← Node.ofTerms groups flags yes) (← Node.ofTerms groups flags no)
  | .repeated greed min max body => do
    if flags.template then refuse (.templateRepeat greed.operator)
    return .repeated greed min max (← Node.ofTerms groups flags body)
  | .branch branches => Node.ofBranches groups flags branches
  | .look false negated body => do
    return .ahead negated (← Node.ofTerms groups flags body)
  | .look true negated body => do
    let distance ← lookDistance groups body
    return .behind negated distance (← Node.ofTerms groups flags body)
  | .atomic body => do
    return .atomic (← Node.ofTerms groups flags body)
  | .group index on off body => do
    let node ← Node.ofTerms groups (flags.within on off) body
    return match index with
      | some index => .capture index node
      | none => node

/-- Resolves a sequence of items. -/
def Node.ofTerms (groups : Array (Option Width)) (flags : Flags) : List Term → Except Refusal Node
  | [] => return .empty
  | [term] => Node.ofTerm groups flags term
  | term :: rest => do
    return .seq (← Node.ofTerm groups flags term) (← Node.ofTerms groups flags rest)

/-- Resolves alternatives. -/
def Node.ofBranches (groups : Array (Option Width)) (flags : Flags) :
    List (List Term) → Except Refusal Node
  | [] => return .empty
  | [terms] => Node.ofTerms groups flags terms
  | terms :: rest => do
    return .alt (← Node.ofTerms groups flags terms) (← Node.ofBranches groups flags rest)

end

end Redaction.Pattern
