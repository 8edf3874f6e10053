import Redaction.Proofs.Pattern.Matches
import Redaction.Proofs.Template.References

/-!
# Substitution that can fail

A rule keeps the template that was read when it was loaded, and expanding a template gives a text whatever
the match is.  A regular expression library offers less than that: a substitution is given a pattern and
the *text* of a replacement, reads it on each call, and asks each match for groups it may not have.  Both
can fail in the middle of a message.

This file writes substitution down with these failures (`Pattern.substitute`) and shows that a trial on
the empty text, where usually nothing matches and nothing is expanded, rules all of them out.

* `Template.tryExpand_eq` — a template for a pattern expands for every match of the pattern, to what
  `Template.expand` gives.
* **`Pattern.substitute_eq`** — if the replacement can be read, substitution succeeds on every text.
* **`Pattern.substitute_of_trial`** — the trial succeeds only if the replacement can be read.
-/

namespace Redaction

open Pattern (Match Refusal refuse)

/-! ## Expansion -/

/-- What a match gives for a group: nothing for a group that took no part, and a failure for a group
without a mark. -/
def Pattern.Match.tryGroup (found : Match) (text : Array Char) (group : Nat) :
    Except Refusal (List Char) :=
  if found.marks.size ≤ group then refuse (.invalidGroup group)
  else .ok ((found.group? text group).getD [])

namespace Template

/-- The text of a piece for a match, if the match has its group. -/
def Piece.tryExpand (text : Array Char) (found : Match) : Piece → Except Refusal (List Char)
  | .literal chars => .ok chars
  | .group index => found.tryGroup text index

/-- The text of some pieces for a match. -/
def tryExpandPieces (text : Array Char) (found : Match) : List Piece → Except Refusal (List Char)
  | [] => return []
  | piece :: rest => return (← piece.tryExpand text found) ++ (← tryExpandPieces text found rest)

/-- The text that replaces a match, if the match has all groups of the template. -/
def tryExpand (template : Template) (text : Array Char) (found : Match) :
    Except Refusal (List Char) :=
  tryExpandPieces text found template.pieces

variable {pattern : Pattern} {text : Array Char} {found : Match}

lemma Piece.tryExpand_eq {piece : Piece} (hwithin : piece.Within pattern)
    (hmarks : found.marks.size = pattern.groupCount + 1) :
    piece.tryExpand text found = .ok (piece.expand text found) := by
  cases piece with
  | literal chars => rfl
  | group index =>
      have hindex : index ≤ pattern.groupCount := hwithin
      have hmark : ¬ found.marks.size ≤ index := by omega
      simp only [tryExpand, Match.tryGroup, if_neg hmark]
      rfl

/-- A group that took no part gives nothing. -/
lemma Piece.expand_group_eq_nil {index : Nat} (hindex : index ≠ 0)
    (h : (found.marks[index]?.bind Pattern.Mark.extent?) = none) :
    (Piece.group index).expand text found = [] := by
  simp [Piece.expand, Match.group?, hindex, h]

lemma tryExpandPieces_eq {pieces : List Piece} (hwithin : ∀ piece ∈ pieces, piece.Within pattern)
    (hmarks : found.marks.size = pattern.groupCount + 1) :
    tryExpandPieces text found pieces = .ok (pieces.flatMap (·.expand text found)) := by
  induction pieces with
  | nil => rfl
  | cons piece rest ih =>
      obtain ⟨hpiece, hrest⟩ := List.forall_mem_cons.mp hwithin
      rw [tryExpandPieces, Piece.tryExpand_eq hpiece hmarks, ih hrest]
      rfl

/-- A template that was read for a pattern expands for every match of the pattern. -/
theorem tryExpand_eq {template : Template} {replacement : String}
    (hparse : parse pattern replacement = .ok template) (hfound : found ∈ pattern.matches text) :
    template.tryExpand text found = .ok (template.expand text found) :=
  tryExpandPieces_eq (within_of_parse hparse) (Pattern.marks_size_of_mem_matches hfound)

end Template

/-! ## Substitution -/

namespace Pattern

/-- Puts expansions for matches between the pieces of a text, from a place on. -/
def trySpliceFrom (text : Array Char) (template : Template) (start : Nat) :
    List Match → Except Refusal (List Char)
  | [] => return slice text start text.size
  | found :: rest => do
    let expansion ← template.tryExpand text found
    let others ← trySpliceFrom text template found.stop rest
    return slice text start found.start ++ expansion ++ others

/-- The template that a substitution works with.  A replacement without a backslash is not read. -/
def templateOf (pattern : Pattern) (replacement : String) : Except Refusal Template :=
  if '\\' ∈ replacement.toList then Template.parse pattern replacement
  else .ok (Template.verbatim replacement)

/-- Replaces all matches in a text, from the text of the replacement. -/
def substitute (pattern : Pattern) (replacement text : String) : Except Refusal String := do
  let template ← pattern.templateOf replacement
  let chars := text.toList.toArray
  return String.ofList (← trySpliceFrom chars template 0 (pattern.matches chars))

variable {pattern : Pattern} {replacement : String} {template : Template}

lemma templateOf_eq : pattern.templateOf replacement = Template.parse pattern replacement := by
  rw [templateOf]
  by_cases h : '\\' ∈ replacement.toList
  · rw [if_pos h]
  · rw [if_neg h, Template.parse_verbatim h]

lemma trySpliceFrom_eq (hparse : Template.parse pattern replacement = .ok template)
    {text : Array Char} {start : Nat} {found : List Match}
    (hfound : ∀ m ∈ found, m ∈ pattern.matches text) :
    trySpliceFrom text template start found
      = .ok (spliceFrom text (template.expand text) start found) := by
  induction found generalizing start with
  | nil => rfl
  | cons first rest ih =>
      obtain ⟨hfirst, hrest⟩ := List.forall_mem_cons.mp hfound
      rw [trySpliceFrom, Template.tryExpand_eq hparse hfirst, ih hrest]
      rfl

/-- **Substitution succeeds** if the replacement can be read, and gives what the template gives that was
read once and for all. -/
theorem substitute_eq (hparse : Template.parse pattern replacement = .ok template) (text : String) :
    pattern.substitute replacement text = .ok (pattern.replaceAll template.expand text) := by
  rw [substitute, templateOf_eq, hparse]
  simp only [bind, Except.bind, trySpliceFrom_eq hparse fun _ hmem => hmem]
  rfl

/-- **A trial on the empty text tells everything**: it succeeds only if the replacement can be read. -/
theorem substitute_of_trial {result : String}
    (htrial : pattern.substitute replacement "" = .ok result) :
    ∃ template, Template.parse pattern replacement = .ok template := by
  rw [substitute, templateOf_eq] at htrial
  rcases hparse : Template.parse pattern replacement with refusal | template
  · rw [hparse] at htrial
    cases htrial
  · exact ⟨template, rfl⟩

end Pattern
end Redaction
