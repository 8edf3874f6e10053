import Redaction.Engine.Cache

/-!
# Traces

Which rules a redaction applies, and to what.

* `RuleStore.trace`: the rules that apply to a text, each with the text as the rules before it left it.
* `RuleStore.handsBack`: whether redacting a text gives back that very text rather than an equal one.

A rewriting joins the pieces between the matches and the replacements. It gives back the very text only if
the text as a whole is the one piece there is: one match covers all of it and the template is a single
reference to what was matched. Texts of at most one character below U+0100 exist once only, so that of
these any single piece is the text itself.
-/

namespace Redaction

/-- The rules of a list that apply to a text, each with what it is applied to, and the text after them. -/
def traceRules (text : String) : List Rule → List (Rule × String) × String
  | [] => ([], text)
  | rule :: rest =>
    if rule.matchesIn text then
      let (steps, out) := traceRules (rule.apply text) rest
      ((rule, text) :: steps, out)
    else traceRules text rest

/-- The rules of groups that apply to a text, each with what it is applied to. -/
def traceGroups (text : String) : List TriggerGroup → List (Rule × String)
  | [] => []
  | group :: rest =>
    if Text.occursIn group.trigger text then
      let (steps, out) := traceRules text group.rules
      steps ++ traceGroups out rest
    else traceGroups text rest

/-- The rules that apply to a text, each with what it is applied to. -/
def RuleStore.trace (store : RuleStore) (text : String) : List (Rule × String) :=
  traceGroups text store.groups

namespace Rule

/-- Whether a single match of the rule covers a text. -/
def covers (rule : Rule) (text : String) : Bool :=
  let chars := text.toList.toArray
  match rule.pattern.matches chars with
  | [found] => found.start = 0 && found.stop = chars.size
  | _ => false

/-- Whether the template is a single reference. -/
def isReference (rule : Rule) : Bool :=
  match rule.template.pieces with
  | [.group _] => true
  | _ => false

/-- Whether the rule makes a text of a single piece. -/
def givesOnePiece (rule : Rule) (text : String) : Bool :=
  rule.covers text && (rule.template.isPlain || rule.isReference)

end Rule

/-- Whether a text exists only once. -/
def isUnique (text : String) : Bool :=
  match text.toList with
  | [] => true
  | [c] => c.toNat < 0x100
  | _ => false

/-- Whether what a rule makes of a text is the very `message`; `same` says so of the text before. -/
def handedOn (message : String) (same : Bool) : Rule × String → Bool
  | (rule, text) =>
    let out := rule.apply text
    if rule.covers text && rule.isReference && out = text then same
    else out = message && (message.isEmpty || (isUnique message && rule.givesOnePiece text))

/-- Whether redacting a message gives back that very message. -/
def RuleStore.handsBack (store : RuleStore) (message : String) : Bool :=
  (store.trace message).foldl (handedOn message) true

/-- Redacts a text with a cache. There is no new text if the very same one came back. -/
def Engine.rewrite (engine : Engine) (cache : Cache) (text : String) : Option String × Cache :=
  let (out, cache) := engine.redact cache text
  (if out = text && engine.store.handsBack text then none else some out, cache)

end Redaction
