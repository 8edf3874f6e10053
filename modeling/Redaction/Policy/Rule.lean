import Redaction.Template

/-!
# Rules

* `Rule`: a rule that has been checked, with its pattern compiled and its template read.
* `TriggerGroup`: rules that share a trigger.
* `RuleStore`: all rules of a policy, grouped by trigger. Groups stand in the order in which their
  triggers first appear, and rules keep their order inside a group.
* `RuleStore.ofRules`: groups a list of rules.
-/

namespace Redaction

/-- A checked rule: wherever `trigger` occurs, what `pattern` matches is replaced as `template` says. -/
structure Rule where
  description : String
  trigger : String
  pattern : Pattern
  replacement : String
  template : Template

/-- The text with every match of the rule's pattern replaced. -/
def Rule.apply (rule : Rule) (text : String) : String :=
  rule.pattern.replaceAll rule.template.expand text

/-- Whether the rule's pattern matches somewhere. -/
def Rule.matchesIn (rule : Rule) (text : String) : Bool :=
  (rule.pattern.search text.toList.toArray).isSome

/-- Rules that share a trigger, in the order of the policy. -/
structure TriggerGroup where
  trigger : String
  rules : List Rule

/-- The rules of a policy, grouped by trigger. -/
structure RuleStore where
  groups : List TriggerGroup

namespace RuleStore

/-- The store without rules. -/
def empty : RuleStore := ⟨[]⟩

/-- Adds a rule to the group of its trigger, or as a new group after all others. -/
def insert (rule : Rule) : List TriggerGroup → List TriggerGroup
  | [] => [⟨rule.trigger, [rule]⟩]
  | group :: rest =>
    if group.trigger = rule.trigger then { group with rules := group.rules ++ [rule] } :: rest
    else group :: insert rule rest

/-- Groups rules by trigger. -/
def ofRules (rules : List Rule) : RuleStore :=
  ⟨rules.foldl (fun groups rule => insert rule groups) []⟩

/-- All rules, in the order in which they are applied. -/
def rules (store : RuleStore) : List Rule :=
  store.groups.flatMap (·.rules)

/-- The number of rules. -/
def ruleCount (store : RuleStore) : Nat :=
  (store.groups.map (·.rules.length)).foldl (· + ·) 0

/-- The triggers, one a group. -/
def triggers (store : RuleStore) : List String :=
  store.groups.map (·.trigger)

/-- The number of groups. -/
def size (store : RuleStore) : Nat :=
  store.groups.length

/-- Whether there are no rules. -/
def isEmpty (store : RuleStore) : Bool :=
  store.groups.isEmpty

end RuleStore
end Redaction
