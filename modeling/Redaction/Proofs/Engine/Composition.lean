import Redaction.Proofs.Engine.Applications

/-!
# Policies one after the other

Two lists of rules that have no trigger in common make one policy when they are put together.  Redacting
with that policy is the same as redacting with the first list and then, what has come out, with the second.
Grouping is what could spoil this: a rule of the second list joins the group of its trigger, wherever that
trigger appeared first.  With triggers apart it never crosses the seam, and the triggers of the second list
are looked up in just what the first one has left.

* **`RuleStore.ofRules_append`** — the groups of the whole are those of the two parts in a row.
* `RuleStore.tally` — one for each rule that applies to a text as its turn comes, zero for each other rule.
* **`Engine.redact_counts`** — the counts of a cache go up by the tally, handle by handle.
* **`redact_append`** — the whole gives the text that the parts give one after the other, and counts what
  they count side by side.
-/

namespace Redaction

/-! ## The groups of the whole -/

namespace RuleStore

variable {first second : List Rule}

/-- Triggers that have not appeared before come after those that have. -/
lemma triggersOf_append
    (hapart : ∀ rule ∈ first, ∀ rule' ∈ second, rule.trigger ≠ rule'.trigger) :
    triggersOf (first ++ second) = triggersOf first ++ triggersOf second := by
  have hnew : (second.map (·.trigger)).removeAll (first.map (·.trigger)) = second.map (·.trigger) := by
    refine List.filter_eq_self.mpr fun trigger htrigger => ?_
    obtain ⟨rule', hrule', rfl⟩ := List.mem_map.mp htrigger
    have hnot : rule'.trigger ∉ first.map (·.trigger) := by
      rintro hmem
      obtain ⟨rule, hrule, heq⟩ := List.mem_map.mp hmem
      exact hapart rule hrule rule' hrule' heq
    simpa using hnot
  rw [triggersOf, List.map_append, List.eraseDups_append, hnew]
  rfl

/-- **Grouping keeps parts apart** whose triggers are apart. -/
theorem ofRules_append
    (hapart : ∀ rule ∈ first, ∀ rule' ∈ second, rule.trigger ≠ rule'.trigger) :
    (ofRules (first ++ second)).groups = (ofRules first).groups ++ (ofRules second).groups := by
  have hsplit : ∀ t, rulesUnder t (first ++ second) = rulesUnder t first ++ rulesUnder t second :=
    fun t => List.filter_append ..
  rw [ofRules_groups, ofRules_groups, ofRules_groups, triggersOf_append hapart, List.map_append]
  congr 1
  · -- a trigger of the first list has no rules in the second
    refine List.map_congr_left fun t ht => ?_
    obtain ⟨rule, hrule, rfl⟩ := mem_triggersOf.mp ht
    have hnone : rule.trigger ∉ triggersOf second := fun hmem => by
      obtain ⟨rule', hrule', heq⟩ := mem_triggersOf.mp hmem
      exact hapart rule hrule rule' hrule' heq.symm
    rw [hsplit, rulesUnder_eq_nil hnone, List.append_nil]
  · refine List.map_congr_left fun t ht => ?_
    obtain ⟨rule', hrule', rfl⟩ := mem_triggersOf.mp ht
    have hnone : rule'.trigger ∉ triggersOf first := fun hmem => by
      obtain ⟨rule, hrule, heq⟩ := mem_triggersOf.mp hmem
      exact hapart rule hrule rule' hrule' heq
    rw [hsplit, rulesUnder_eq_nil hnone, List.nil_append]

end RuleStore

/-! ## Which handles count -/

/-- One for each rule of a list that matches in what the rules before it have left of a text, and zero for
each other rule. -/
def tallyRules (text : String) : List Rule → List Nat
  | [] => []
  | rule :: rest => (if rule.matchesIn text then 1 else 0) :: tallyRules (rule.apply text) rest

/-- The tally of groups, each of which gets what the groups before it have left.  Rules of a group whose
trigger is absent are not tried. -/
def tallyGroups (text : String) : List TriggerGroup → List Nat
  | [] => []
  | group :: rest =>
    (if Text.occursIn group.trigger text then tallyRules text group.rules
      else group.rules.map fun _ => 0) ++ tallyGroups (group.rewrite text) rest

/-- One for each rule of a store that applies to a text as its turn comes, and zero for each other. -/
def RuleStore.tally (store : RuleStore) (text : String) : List Nat :=
  tallyGroups text store.groups

@[simp] lemma length_tallyRules (text : String) (rules : List Rule) :
    (tallyRules text rules).length = rules.length := by
  induction rules generalizing text with
  | nil => rfl
  | cons rule rest ih => simp [tallyRules, ih]

lemma length_tallyGroups (text : String) (groups : List TriggerGroup) :
    (tallyGroups text groups).length = (groups.flatMap (·.rules)).length := by
  induction groups generalizing text with
  | nil => rfl
  | cons group rest ih =>
      have hhere : (if Text.occursIn group.trigger text then tallyRules text group.rules
          else group.rules.map fun _ => 0).length = group.rules.length := by
        split <;> simp
      rw [tallyGroups, List.length_append, hhere, ih, List.flatMap_cons, List.length_append]

/-- The groups after a seam get what the groups before it have left. -/
lemma tallyGroups_append (text : String) (groups groups' : List TriggerGroup) :
    tallyGroups text (groups ++ groups')
      = tallyGroups text groups ++ tallyGroups (groups.foldl TriggerGroup.rewrite text) groups' := by
  induction groups generalizing text with
  | nil => rfl
  | cons group rest ih =>
      rw [List.cons_append, tallyGroups, tallyGroups, ih, List.foldl_cons, List.append_assoc]

/-- The counts of a cache, one for each handle in the order of application. -/
def Cache.counts (cache : Cache) : List Nat :=
  cache.handles.map (·.matchCount)

lemma redactHandles_counts (text : String) (handles : List Handle) :
    (redactHandles text handles).2.map (·.matchCount)
      = List.zipWith (· + ·) (handles.map (·.matchCount)) (tallyRules text (handles.map (·.rule))) := by
  induction handles generalizing text with
  | nil => rfl
  | cons handle rest ih =>
      rw [redactHandles_cons, List.map_cons, ih, List.map_cons, List.map_cons, tallyRules,
        List.zipWith_cons_cons, Handle.redact_text, Handle.redact_eq]
      by_cases hmatch : handle.rule.matchesIn text <;> simp [hmatch]

/-- Counting nothing changes no count. -/
lemma zipWith_add_zeros {α : Type} {counts : List Nat} {items : List α}
    (h : counts.length = items.length) :
    List.zipWith (· + ·) counts (items.map fun _ => 0) = counts := by
  refine List.ext_getElem (by simp [h]) fun i _ _ => ?_
  simp

lemma HandleGroup.redact_counts (group : HandleGroup) (text : String) :
    (group.redact text).2.handles.map (·.matchCount)
      = List.zipWith (· + ·) (group.handles.map (·.matchCount))
          (if Text.occursIn group.source.trigger text then tallyRules text group.source.rules
            else group.source.rules.map fun _ => 0) := by
  have htrigger : group.source.trigger = group.trigger := rfl
  have hrules : group.source.rules = group.handles.map (·.rule) := rfl
  rw [HandleGroup.redact_eq, htrigger, hrules]
  by_cases hoccurs : Text.occursIn group.trigger text
  · rw [if_pos hoccurs, if_pos hoccurs]
    exact redactHandles_counts text group.handles
  · rw [if_neg hoccurs, if_neg hoccurs, zipWith_add_zeros (by simp)]

lemma redactGroups_counts (text : String) (groups : List HandleGroup) :
    ((redactGroups text groups).2.flatMap (·.handles)).map (·.matchCount)
      = List.zipWith (· + ·) ((groups.flatMap (·.handles)).map (·.matchCount))
          (tallyGroups text (groups.map HandleGroup.source)) := by
  induction groups generalizing text with
  | nil => rfl
  | cons group rest ih =>
      rw [redactGroups_cons, List.flatMap_cons, List.map_append, HandleGroup.redact_counts, ih,
        HandleGroup.redact_text, List.flatMap_cons, List.map_append, List.map_cons, tallyGroups,
        List.zipWith_append (by split <;> simp [HandleGroup.source])]

lemma Cache.Mirrors.length_counts {cache : Cache} {store : RuleStore} (h : cache.Mirrors store) :
    cache.counts.length = store.rules.length := by
  rw [RuleStore.rules, ← show cache.groups.map HandleGroup.source = store.groups from h,
    Cache.counts, Cache.handles]
  simp [List.length_flatMap, HandleGroup.source, Function.comp_def]

/-- **The counts of a cache go up by the tally** of the text, handle by handle, whatever they have counted
before. -/
theorem Engine.redact_counts (engine : Engine) {cache : Cache} (h : cache.Mirrors engine.store)
    (text : String) :
    (engine.redact cache text).2.counts
      = List.zipWith (· + ·) cache.counts (engine.store.tally text) := by
  rw [engine.redact_eq h, RuleStore.tally,
    ← show cache.groups.map HandleGroup.source = engine.store.groups from h]
  exact redactGroups_counts text cache.groups

/-! ## The whole and its parts -/

/-- A fresh cache for the whole has counted what fresh caches for the parts have: nothing. -/
lemma Cache.counts_ofStore_append {first second : List Rule}
    (hapart : ∀ rule ∈ first, ∀ rule' ∈ second, rule.trigger ≠ rule'.trigger) (owner : Thread) :
    (ofStore (.ofRules (first ++ second)) owner).counts
      = (ofStore (.ofRules first) owner).counts ++ (ofStore (.ofRules second) owner).counts := by
  simp [counts, handles, ofStore, RuleStore.ofRules_append hapart]

/-- **Policies compose.**  Two lists of rules without a common trigger, put together, make of a message what
the second list makes of the text that the first one has left.  The caches may be in any state.  If the
handles for the whole have counted what those for the parts have, side by side, they do so afterwards; fresh
caches are of that kind. -/
theorem redact_append {first second : List Rule}
    (hapart : ∀ rule ∈ first, ∀ rule' ∈ second, rule.trigger ≠ rule'.trigger)
    (identity identity₁ identity₂ : Nat) {cache cache₁ cache₂ : Cache}
    (hshape : cache.Mirrors (.ofRules (first ++ second))) (hshape₁ : cache₁.Mirrors (.ofRules first))
    (hshape₂ : cache₂.Mirrors (.ofRules second)) (message : String) :
    let whole := Engine.redact ⟨identity, .ofRules (first ++ second)⟩ cache message
    let one := Engine.redact ⟨identity₁, .ofRules first⟩ cache₁ message
    let two := Engine.redact ⟨identity₂, .ofRules second⟩ cache₂ one.1
    whole.1 = two.1
      ∧ (cache.counts = cache₁.counts ++ cache₂.counts →
          whole.2.counts = one.2.counts ++ two.2.counts)
      ∧ ∀ owner, (Cache.ofStore (.ofRules (first ++ second)) owner).counts
          = (Cache.ofStore (.ofRules first) owner).counts
            ++ (Cache.ofStore (.ofRules second) owner).counts := by
  intro whole one two
  have hone : one.1 = (RuleStore.ofRules first).groups.foldl TriggerGroup.rewrite message :=
    Engine.redact_text _ hshape₁ message
  refine ⟨?_, fun hcounts => ?_, Cache.counts_ofStore_append hapart⟩
  · rw [Engine.redact_text _ hshape, Engine.redact_text _ hshape₂, hone,
      RuleStore.ofRules_append hapart, List.foldl_append]
  · have htally : (RuleStore.ofRules (first ++ second)).tally message
        = (RuleStore.ofRules first).tally message ++ (RuleStore.ofRules second).tally one.1 := by
      rw [RuleStore.tally, RuleStore.ofRules_append hapart, tallyGroups_append, ← hone]
      rfl
    have hlength : cache₁.counts.length = ((RuleStore.ofRules first).tally message).length := by
      rw [hshape₁.length_counts, RuleStore.tally, length_tallyGroups]
      rfl
    rw [Engine.redact_counts _ hshape, Engine.redact_counts _ hshape₁, Engine.redact_counts _ hshape₂,
      hcounts, htally, List.zipWith_append hlength]

/-- A rule that makes a trigger of the next list. -/
def handingRules : List Rule :=
  [.ofChar "a" 'a' "b"]

/-- A rule that makes the trigger of the list before it, and one that has nothing to do. -/
def handedRules : List Rule :=
  [.ofChar "b" 'b' "aa", .ofChar "z" 'z' ""]

/-- A cache for both lists whose handles have counted. -/
def countedCache : Cache where
  owner := "main"
  groups := [
    ⟨"a", [⟨.ofChar "a" 'a' "b", "", none, 3⟩]⟩,
    ⟨"b", [⟨.ofChar "b" 'b' "aa", "bb", some ⟨0, 1, #[]⟩, 5⟩]⟩,
    ⟨"z", [⟨.ofChar "z" 'z' "", "", none, 2⟩]⟩]

/-- The second list finds its trigger only in what the first one has left, and the first one never gets to
see the trigger that the second one makes. -/
theorem redact_append_handedOver :
    (∀ rule ∈ handingRules, ∀ rule' ∈ handedRules, rule.trigger ≠ rule'.trigger)
      ∧ countedCache.Mirrors (.ofRules (handingRules ++ handedRules))
      ∧ (Engine.redact ⟨0, .ofRules (handingRules ++ handedRules)⟩ countedCache "xaz").1 = "xaa"
      ∧ (Engine.redact ⟨0, .ofRules (handingRules ++ handedRules)⟩ countedCache "xaz").2.counts
        = [4, 6, 3] := by
  have hapart : ∀ rule ∈ handingRules, ∀ rule' ∈ handedRules, rule.trigger ≠ rule'.trigger := by decide
  have hshape : countedCache.Mirrors (.ofRules (handingRules ++ handedRules)) := rfl
  have hshape₁ : Cache.Mirrors ⟨countedCache.groups.take 1, "main"⟩ (.ofRules handingRules) := rfl
  have hshape₂ : Cache.Mirrors ⟨countedCache.groups.drop 1, "main"⟩ (.ofRules handedRules) := rfl
  obtain ⟨htext, hcounts, -⟩ := redact_append hapart 0 1 2 hshape hshape₁ hshape₂ "xaz"
  exact ⟨hapart, hshape, htext.trans (by decide), (hcounts (by decide)).trans (by decide)⟩

end Redaction
