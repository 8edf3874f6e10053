import Redaction.Policy.Rule

/-!
# Handles

A handle scans texts for one rule and counts how often the rule was applied.

* `Handle.reset`: points the handle at a text.
* `Handle.find`: looks for the first match.
* `Handle.replaceAll`: replaces all matches and counts one application.
-/

namespace Redaction

/-- The scan state of one rule. -/
structure Handle where
  rule : Rule
  input : String := ""
  found : Option Pattern.Match := none
  matchCount : Nat := 0

namespace Handle

/-- A handle that has not scanned anything. -/
def ofRule (rule : Rule) : Handle := { rule }

/-- Points the handle at a text and forgets the last match. -/
def reset (handle : Handle) (text : String) : Handle :=
  { handle with input := text, found := none }

/-- Looks for the first match in the current text. -/
def find (handle : Handle) : Bool × Handle :=
  let found := handle.rule.pattern.search handle.input.toList.toArray
  (found.isSome, { handle with found })

/-- Replaces every match in the current text. The handle then points at the new text. -/
def replaceAll (handle : Handle) : String × Handle :=
  let text := handle.rule.apply handle.input
  (text, { handle with matchCount := handle.matchCount + 1 }.reset text)

/-- How a handle is shown. -/
def describe (handle : Handle) : String :=
  "<MatcherHandle pattern=" ++ Text.quoted handle.rule.pattern.text ++ " matches=" ++
    Text.decimal handle.matchCount ++ ">"

/-- Applies the rule to a text if it matches there. -/
def redact (handle : Handle) (text : String) : String × Handle :=
  let (found, handle) := (handle.reset text).find
  if found then handle.replaceAll else (text, handle)

end Handle
end Redaction
