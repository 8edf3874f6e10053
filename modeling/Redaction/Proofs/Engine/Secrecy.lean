import Redaction.Proofs.Policy.Outcome
import Redaction.Proofs.Engine.Reference
import Redaction.Proofs.Pattern.Matches

/-!
# What was matched is not leaked

A template without references puts the same text in the place of every match.  Whatever it was that matched,
the redacted text does not show it: not its characters, not its length, nor whether it was empty.  What can be
read off the redacted text is what stands outside the matches.

* `Template.fixedText` — the text that a template without references makes, however it is written.
* `Rule.apply_of_isPlain` — a rule with such a template puts this text between the pieces of a text.
* `groups_of_single` — what the store of a policy with a single rule looks like.
* **`redact_eq_of_pieces`** — two messages with the same pieces are redacted to the same text.
-/

namespace Redaction

/-! ## One rule -/

/-- The literal text of a template. -/
def Template.fixedText (template : Template) : List Char :=
  template.pieces.flatMap fun
    | .literal chars => chars
    | .group _ => []

/-- A template without references does not look at the match. -/
lemma Template.expand_of_isPlain {template : Template} (h : template.isPlain) (text : Array Char)
    (found : Pattern.Match) : template.expand text found = template.fixedText := by
  refine List.flatMap_congr fun piece hpiece => ?_
  have hliteral := List.all_eq_true.mp h piece hpiece
  cases piece with
  | literal chars => rfl
  | group index => cases hliteral

/-- The pieces of a text that are outside the matches of a rule. -/
def Rule.unmatched (rule : Rule) (text : String) : List (List Char) :=
  rule.pattern.pieces text.toList.toArray

lemma Rule.apply_of_isPlain {rule : Rule} (h : rule.template.isPlain) (text : String) :
    rule.apply text = String.ofList (rule.template.fixedText.intercalate (rule.unmatched text)) := by
  have hexpand : rule.template.expand text.toList.toArray = fun _ => rule.template.fixedText :=
    funext fun found => Template.expand_of_isPlain h _ found
  simp only [Rule.apply, Pattern.replaceAll, hexpand, Pattern.spliceFrom_const]
  rfl

/-! ## Policies with one rule -/

/-- The store of a policy with a single rule has that rule under its trigger, and nothing else. -/
lemma groups_of_single {reader : Policy.Reader} {data : Policy.Data} {source : Option String} {store : RuleStore}
    {rule : Rule} (hload : Policy.outcome reader data source = .ok store) (hsingle : store.rules = [rule]) :
    store.groups = [⟨rule.trigger, [rule]⟩] := by
  rcases Policy.outcome_ok_cases hload with rfl | ⟨definitions, rules, -, -, rfl⟩
  · cases hsingle
  · have hperm := RuleStore.ofRules_rules_perm rules
    rw [hsingle] at hperm
    rw [← List.singleton_perm.mp hperm]
    rfl

/-- What comes of a message in which the trigger of the only rule occurs. -/
lemma redact_single {store : RuleStore} {rule : Rule} (hgroups : store.groups = [⟨rule.trigger, [rule]⟩])
    (hplain : rule.template.isPlain) (identity : Nat) {cache : Cache} (hshape : cache.Mirrors store)
    {message : String} (htrigger : rule.trigger.toList <:+: message.toList) :
    ((Engine.mk identity store).redact cache message).1
      = String.ofList (rule.template.fixedText.intercalate (rule.unmatched message)) := by
  rw [Engine.redact_text _ hshape, hgroups, List.foldl_cons, TriggerGroup.rewrite, if_pos htrigger,
    ← Rule.apply_of_isPlain hplain]
  rfl

/-- **What was matched is not leaked.**  Take any policy that was accepted and has a single rule, whose
template has no references.  A message in which the trigger occurs becomes the fixed text of the template
between the pieces that are outside the matches, so that two messages with the same pieces become the same
text, however many matches there are, next to each other or empty.  The caches may be in any state. -/
theorem redact_eq_of_pieces {reader : Policy.Reader} {data : Policy.Data} {source : Option String}
    {store : RuleStore} {rule : Rule} (hload : Policy.outcome reader data source = .ok store) (hsingle : store.rules = [rule])
    (hplain : rule.template.isPlain) (identity : Nat) {cache₁ cache₂ : Cache}
    (hshape₁ : cache₁.Mirrors store) (hshape₂ : cache₂.Mirrors store) {first second : String}
    (hfirst : rule.trigger.toList <:+: first.toList) (hsecond : rule.trigger.toList <:+: second.toList)
    (hpieces : rule.unmatched first = rule.unmatched second) :
    ((Engine.mk identity store).redact cache₁ first).1 = ((Engine.mk identity store).redact cache₂ second).1
      ∧ ((Engine.mk identity store).redact cache₁ first).1
        = String.ofList (rule.template.fixedText.intercalate (rule.unmatched first)) := by
  have hgroups := groups_of_single hload hsingle
  have hout₁ := redact_single hgroups hplain identity hshape₁ hfirst
  have hout₂ := redact_single hgroups hplain identity hshape₂ hsecond
  rw [← hpieces] at hout₂
  exact ⟨hout₁.trans hout₂.symm, hout₁⟩

/-- A policy that puts a letter and a point, written with an escape, in the place of digits, also where there
are none. -/
def digitsText : String :=
  "\x7b\"version\": 1, \"rules\": [\x7b\"trigger\": \"k\", \"search\": \"[0-9]*\", "
    ++ "\"replace\": \"\\\\101.\"\x7d]\x7d"

/-- The store of this policy. -/
def digitsStore : RuleStore :=
  (Policy.outcome .standard (.text digitsText) none).toOption.getD .empty

/-- Numbers of other lengths leave the same text, with empty matches at both ends and between them. -/
theorem redact_eq_of_pieces_digits :
    Policy.outcome .standard (.text digitsText) none = .ok digitsStore
      ∧ (∃ rule, digitsStore.rules = [rule] ∧ rule.template.isPlain
        ∧ rule.trigger.toList <:+: "k12 3".toList ∧ rule.trigger.toList <:+: "k7 45678".toList
        ∧ rule.unmatched "k12 3" = rule.unmatched "k7 45678"
        ∧ rule.unmatched "k12 3" = [[], ['k'], [], [' '], [], []])
      ∧ ((Engine.mk 0 digitsStore).redact (.ofStore digitsStore "main") "k12 3").1 = "A.kA.A. A.A."
      ∧ ((Engine.mk 0 digitsStore).redact (.ofStore digitsStore "main") "k12 3").1
        = ((Engine.mk 0 digitsStore).redact (.ofStore digitsStore "worker") "k7 45678").1 := by
  obtain ⟨hok, hlength, hfacts, hout⟩ : (Policy.outcome .standard (.text digitsText) none).isOk
      ∧ digitsStore.rules.length = 1
      ∧ (∀ r ∈ digitsStore.rules, r.template.isPlain ∧ r.trigger.toList <:+: "k12 3".toList
        ∧ r.trigger.toList <:+: "k7 45678".toList ∧ r.unmatched "k12 3" = r.unmatched "k7 45678"
        ∧ r.unmatched "k12 3" = [[], ['k'], [], [' '], [], []])
      ∧ ((Engine.mk 0 digitsStore).redact (.ofStore digitsStore "main") "k12 3").1 = "A.kA.A. A.A." := by
    decide +kernel
  have hload : Policy.outcome .standard (.text digitsText) none = .ok digitsStore :=
    eq_ok_of_isOk hok RuleStore.empty
  obtain ⟨rule, hsingle⟩ := List.length_eq_one_iff.mp hlength
  obtain ⟨hplain, hfirst, hsecond, hpieces, hshown⟩ :=
    hfacts rule (hsingle ▸ List.mem_singleton_self rule)
  have hsame := redact_eq_of_pieces hload hsingle hplain 0 (Cache.ofStore_mirrors digitsStore "main")
    (Cache.ofStore_mirrors digitsStore "worker") hfirst hsecond hpieces
  exact ⟨hload, ⟨rule, hsingle, hplain, hfirst, hsecond, hpieces, hshown⟩, hout, hsame.1⟩

end Redaction
