import Redaction.Proofs.Engine.Grouping
import Redaction.Proofs.Engine.Mirror
import Mathlib.Data.List.Infix

/-!
# What redaction computes

The engine works with state — handles that are reset, searched and counted — and with a fast path: a rule
rewrites the text only after a search has found something.  Neither is meant to show in the result.
This file states the result without them, over the plain list of rules:

* `rewriteBy` — for each trigger, where it first appears in the list, look once whether it occurs in the
  text; if so, apply all rules that have it, each to what the one before has left, match or no match.
* **`redact_eq_rewriteBy`** — redaction with a cache in *any* state returns just that.

The two ingredients are independent of each other.  `Pattern.replaceAll_of_search_eq_none` removes the
fast path: where a search finds nothing there is nothing to replace.  `RuleStore.ofRules_groups` turns
the groups of the store into the order in which triggers appear.
-/

namespace Redaction

/-! ## Search and replacement agree -/

/-- The first of all matches is the one that a search finds, so without it there are none. -/
lemma Pattern.matches_of_search_eq_none {pattern : Pattern} {text : Array Char}
    (h : pattern.search text = none) : pattern.matches text = [] := by
  have hfrom : pattern.matchFrom text 0 false = none := h
  simp [Pattern.matches, Pattern.matchesFrom, hfrom]

/-- **The guard changes nothing**: where a search finds no match, replacing all matches gives the
text. -/
lemma Pattern.replaceAll_of_search_eq_none {pattern : Pattern} {text : String}
    (replacement : Array Char → Match → List Char)
    (h : pattern.search text.toList.toArray = none) : pattern.replaceAll replacement text = text := by
  simp [Pattern.replaceAll, Pattern.matches_of_search_eq_none h, Pattern.spliceFrom, Pattern.slice]

lemma Rule.apply_of_not_matchesIn {rule : Rule} {text : String} (h : rule.matchesIn text = false) :
    rule.apply text = text :=
  Pattern.replaceAll_of_search_eq_none _ (by simpa [Rule.matchesIn] using h)

/-- A handle in any state leaves what its rule makes of the text. -/
lemma Handle.redact_text (handle : Handle) (text : String) :
    (handle.redact text).1 = handle.rule.apply text := by
  rw [Handle.redact_eq]
  cases h : handle.rule.matchesIn text with
  | true => rfl
  | false => exact (Rule.apply_of_not_matchesIn h).symm

/-! ## The reference -/

/-- A trigger occurs in a text if the text contains its characters in a row. -/
lemma Text.occursIn_iff {part text : String} :
    Text.occursIn part text = true ↔ part.toList <:+: text.toList :=
  Text.occursAmong_iff

/-- Applies every rule in order, each to what the one before has left, whether it matches or not. -/
def Rule.applyAll (rules : List Rule) (text : String) : String :=
  rules.foldl (fun text rule => rule.apply text) text

/-- Applies the rules of a group if its trigger occurs in the text as it stands. -/
def TriggerGroup.rewrite (text : String) (group : TriggerGroup) : String :=
  if group.trigger.toList <:+: text.toList then Rule.applyAll group.rules text else text

/-- What a list of rules makes of a text.  Triggers are taken in the order of their first appearance;
each is looked up once, in the text that the triggers before it have left, and if it occurs there all
rules that have it are applied in the order of the list. -/
def rewriteBy (rules : List Rule) (text : String) : String :=
  (RuleStore.triggersOf rules).foldl (fun text trigger =>
    if trigger.toList <:+: text.toList then Rule.applyAll (RuleStore.rulesUnder trigger rules) text
    else text) text

/-! ## From handles to rules -/

lemma redactHandles_text (text : String) (handles : List Handle) :
    (redactHandles text handles).1 = Rule.applyAll (handles.map (·.rule)) text := by
  induction handles generalizing text with
  | nil => rfl
  | cons handle rest ih =>
      rw [redactHandles_cons]
      simp only [ih, Handle.redact_text]
      rfl

lemma HandleGroup.redact_text (group : HandleGroup) (text : String) :
    (group.redact text).1 = group.source.rewrite text := by
  rw [HandleGroup.redact_eq, TriggerGroup.rewrite]
  have hiff : Text.occursIn group.trigger text = true ↔ group.source.trigger.toList <:+: text.toList :=
    Text.occursIn_iff
  by_cases h : Text.occursIn group.trigger text = true
  · rw [if_pos h, if_pos (hiff.mp h)]
    exact redactHandles_text text group.handles
  · rw [if_neg h, if_neg (mt hiff.mpr h)]

lemma redactGroups_text (text : String) (groups : List HandleGroup) :
    (redactGroups text groups).1
      = (groups.map HandleGroup.source).foldl TriggerGroup.rewrite text := by
  induction groups generalizing text with
  | nil => rfl
  | cons group rest ih =>
      rw [redactGroups_cons]
      simp only [ih, HandleGroup.redact_text]
      rfl

/-- Redaction with a cache depends on the shape of the cache alone. -/
lemma Cache.Mirrors.redact_text {cache : Cache} {store : RuleStore} (h : cache.Mirrors store)
    (text : String) : (cache.redact text).1 = store.groups.foldl TriggerGroup.rewrite text := by
  rw [← show cache.groups.map HandleGroup.source = store.groups from h]
  exact redactGroups_text text cache.groups

/-- Redaction through an engine depends on its store alone. -/
lemma Engine.redact_text (engine : Engine) {cache : Cache} (h : cache.Mirrors engine.store)
    (text : String) :
    (engine.redact cache text).1 = engine.store.groups.foldl TriggerGroup.rewrite text := by
  rw [engine.redact_eq h]
  exact h.redact_text text

/-! ## The result -/

/-- **Redaction returns what the list of rules makes of the message.**  The cache may be in any state:
of its handles only their rules are asked for, through `Cache.Mirrors`. -/
theorem redact_eq_rewriteBy (rules : List Rule) (identity : Nat) (cache : Cache)
    (hshape : cache.Mirrors (RuleStore.ofRules rules)) (message : String) :
    (Engine.redact ⟨identity, RuleStore.ofRules rules⟩ cache message).1 = rewriteBy rules message := by
  rw [Engine.redact_text _ hshape, RuleStore.ofRules_groups, List.foldl_map]
  rfl

/-- A rule that puts a text in the place of a character. -/
def Rule.ofChar (trigger : String) (c : Char) (replacement : String) : Rule where
  description := ""
  trigger := trigger
  pattern := ⟨c.toString, { unicode := true }, 0, [], .char (.ofLiteral .exact false c.toNat)⟩
  replacement := replacement
  template := ⟨[.literal replacement.toList]⟩

/-- Two rules of one trigger with a rule of another one between them. -/
def interleavedRules : List Rule :=
  [.ofChar "a" 'a' "b", .ofChar "b" 'b' "c", .ofChar "a" 'b' "Q"]

/-- A cache for these rules whose handles have been in use: they point at other texts, hold matches of
them and have counted. -/
def usedCache : Cache where
  owner := "main"
  groups := [
    ⟨"a", [⟨.ofChar "a" 'a' "b", "banana", some ⟨1, 2, #[]⟩, 7⟩,
      ⟨.ofChar "a" 'b' "Q", "", none, 0⟩]⟩,
    ⟨"b", [⟨.ofChar "b" 'b' "c", "bb", some ⟨0, 1, #[]⟩, 2⟩]⟩]

/-- The second rule never gets to see a `b`: the third one belongs to the group before it. -/
theorem redact_interleaved_used :
    usedCache.Mirrors (RuleStore.ofRules interleavedRules)
      ∧ (Engine.redact ⟨0, RuleStore.ofRules interleavedRules⟩ usedCache "xaybz").1
        = rewriteBy interleavedRules "xaybz"
      ∧ rewriteBy interleavedRules "xaybz" = "xQyQz" :=
  ⟨rfl, redact_eq_rewriteBy interleavedRules 0 usedCache rfl "xaybz", by decide⟩

end Redaction
