import Redaction.Proofs.Engine.Composition
import Redaction.Proofs.Engine.Reference

/-!
# Stable grouping

What the store of a list of rules *is*, without a word on how it is made: its groups have triggers of their
own, none of them is empty, they stand in the order in which their triggers appear first, each holds the
rules of the list with its trigger in the order of the list, and no rule is left out.  There is one such
store only, so that two lists give the same store just if they look alike from there.

* `RuleStore.IsGroupingOf` — a store with these properties.
* **`ofRules_isGroupingOf`**, **`IsGroupingOf.eq_ofRules`** — the store of a list has them, and no other one
  does.
* `ofRules_eq_iff` — which lists give the same store.
* `ofRules_flatMap` — groups that are laid out in a row are found again.
* **`stable_grouping`** — all of this, with what it means for the numbers of rules.
-/

namespace Redaction

namespace RuleStore

variable {rules : List Rule}

/-- A store groups a list of rules. -/
structure IsGroupingOf (store : RuleStore) (rules : List Rule) : Prop where
  distinct : store.triggers.Nodup
  filled : ∀ group ∈ store.groups, group.rules ≠ []
  /-- Groups stand in the order in which their triggers appear first. -/
  ordered : store.triggers.Pairwise fun t t' =>
    (rules.map (·.trigger)).idxOf t < (rules.map (·.trigger)).idxOf t'
  members : ∀ group ∈ store.groups, group.rules = rules.filter (·.trigger = group.trigger)
  complete : ∀ rule ∈ rules, rule.trigger ∈ store.triggers

/-! ## Order of first appearance -/

/-- What is left when repeated items are dropped stands in the order of first appearance. -/
lemma pairwise_idxOf_eraseDups (items : List String) :
    items.eraseDups.Pairwise fun a b => items.idxOf a < items.idxOf b := by
  induction items using List.reverseRecOn with
  | nil => simp
  | append_singleton items item ih =>
      -- the items before are found where they were, and the new one behind all of them
      have hold : items.eraseDups.Pairwise
          fun a b => (items ++ [item]).idxOf a < (items ++ [item]).idxOf b := by
        refine ih.imp_of_mem fun ha hb hlt => ?_
        rwa [List.idxOf_append_of_mem (List.mem_eraseDups.mp ha),
          List.idxOf_append_of_mem (List.mem_eraseDups.mp hb)]
      rw [eraseDups_concat]
      split_ifs with h
      · exact hold
      · refine List.pairwise_append.mpr ⟨hold, List.pairwise_singleton _ _, fun a ha b hb => ?_⟩
        rw [List.mem_eraseDups] at ha
        rw [List.mem_singleton.mp hb, List.idxOf_append_of_mem ha, List.idxOf_append_of_notMem h]
        have hlt := List.idxOf_lt_length_iff.mpr ha
        omega

/-- A list in the order of first appearance is known by its members. -/
lemma eq_of_pairwise_idxOf {items first second : List String}
    (hfirst : first.Pairwise fun a b => items.idxOf a < items.idxOf b)
    (hsecond : second.Pairwise fun a b => items.idxOf a < items.idxOf b)
    (hmem : ∀ a, a ∈ first ↔ a ∈ second) : first = second := by
  have hnodup : ∀ {l : List String}, (l.Pairwise fun a b => items.idxOf a < items.idxOf b) → l.Nodup := by
    intro l hl
    refine hl.imp fun hlt heq => ?_
    rw [heq] at hlt
    exact Nat.lt_irrefl _ hlt
  refine List.Perm.eq_of_pairwise (fun a b _ _ hlt hgt => absurd hlt (Nat.lt_asymm hgt)) hfirst hsecond ?_
  exact (List.perm_ext_iff_of_nodup (hnodup hfirst) (hnodup hsecond)).mpr hmem

/-! ## The one store that groups a list -/

lemma triggers_ofRules (rules : List Rule) : (ofRules rules).triggers = triggersOf rules := by
  rw [triggers, ofRules_groups, List.map_map]
  exact List.map_id _

/-- **The store of a list groups it.** -/
theorem ofRules_isGroupingOf (rules : List Rule) : (ofRules rules).IsGroupingOf rules := by
  have hgroup : ∀ group ∈ (ofRules rules).groups,
      group.trigger ∈ triggersOf rules ∧ group.rules = rulesUnder group.trigger rules := by
    intro group hmem
    rw [ofRules_groups] at hmem
    obtain ⟨t, ht, rfl⟩ := List.mem_map.mp hmem
    exact ⟨ht, rfl⟩
  constructor
  · rw [triggers_ofRules]
    exact nodup_triggersOf rules
  · intro group hmem hnil
    obtain ⟨htrigger, hrules⟩ := hgroup group hmem
    obtain ⟨rule, hrule, heq⟩ := mem_triggersOf.mp htrigger
    have hin : rule ∈ rulesUnder group.trigger rules := by simp [rulesUnder, hrule, heq]
    rw [← hrules, hnil] at hin
    exact List.not_mem_nil hin
  · rw [triggers_ofRules]
    exact pairwise_idxOf_eraseDups _
  · intro group hmem
    exact (hgroup group hmem).2
  · intro rule hrule
    rw [triggers_ofRules]
    exact mem_triggersOf.mpr ⟨rule, hrule, rfl⟩

/-- The triggers of a store that groups a list are those of the list. -/
lemma IsGroupingOf.triggers_eq {store : RuleStore} (h : store.IsGroupingOf rules) :
    store.triggers = triggersOf rules := by
  refine eq_of_pairwise_idxOf h.ordered (pairwise_idxOf_eraseDups _) fun t => ?_
  show t ∈ store.triggers ↔ t ∈ triggersOf rules
  rw [mem_triggersOf]
  constructor
  · intro ht
    obtain ⟨group, hmem, rfl⟩ := List.mem_map.mp ht
    obtain ⟨rule, hrule⟩ := List.exists_mem_of_ne_nil _ (h.filled group hmem)
    rw [h.members group hmem, List.mem_filter, decide_eq_true_eq] at hrule
    exact ⟨rule, hrule⟩
  · rintro ⟨rule, hrule, rfl⟩
    exact h.complete rule hrule

/-- **No other store groups the list.** -/
theorem IsGroupingOf.eq_ofRules {store : RuleStore} (h : store.IsGroupingOf rules) :
    store = ofRules rules := by
  have hgroups : store.groups = store.triggers.map fun t => ⟨t, rulesUnder t rules⟩ := by
    rw [triggers, List.map_map]
    refine (List.map_id _).symm.trans (List.map_congr_left fun group hmem => ?_)
    have hrules : group.rules = rulesUnder group.trigger rules := h.members group hmem
    simp [← hrules]
  obtain ⟨groups⟩ := store
  rw [h.triggers_eq, ← ofRules_groups] at hgroups
  exact congrArg RuleStore.mk hgroups

/-! ## Lists that give the same store -/

/-- Two lists give the same store if their triggers appear first in the same order and every trigger has
the same rules in both, and only then. -/
lemma ofRules_eq_iff {rules' : List Rule} : ofRules rules = ofRules rules' ↔
    triggersOf rules = triggersOf rules' ∧ ∀ t, rulesUnder t rules = rulesUnder t rules' := by
  constructor
  · intro heq
    have htriggers : triggersOf rules = triggersOf rules' := by
      rw [← triggers_ofRules, ← triggers_ofRules, heq]
    refine ⟨htriggers, fun t => ?_⟩
    by_cases ht : t ∈ triggersOf rules
    · have hgroups := congrArg groups heq
      rw [ofRules_groups, ofRules_groups, ← htriggers, List.map_inj_left] at hgroups
      exact congrArg TriggerGroup.rules (hgroups t ht)
    · rw [rulesUnder_eq_nil ht, rulesUnder_eq_nil (htriggers ▸ ht)]
  · rintro ⟨htriggers, hunder⟩
    have hgroups : (ofRules rules).groups = (ofRules rules').groups := by
      rw [ofRules_groups, ofRules_groups, htriggers]
      simp only [hunder]
    exact congrArg RuleStore.mk hgroups

/-! ## Groups in a row -/

/-- Rules of one trigger make one group. -/
lemma ofRules_of_single {trigger : String} (hne : rules ≠ [])
    (hsame : ∀ rule ∈ rules, rule.trigger = trigger) : (ofRules rules).groups = [⟨trigger, rules⟩] := by
  have hstore : IsGroupingOf ⟨[⟨trigger, rules⟩]⟩ rules := by
    refine ⟨?_, ?_, ?_, ?_, ?_⟩
    · simp [triggers]
    · simpa using hne
    · simp [triggers]
    · simpa using (List.filter_eq_self.mpr (by simpa using hsame)).symm
    · simpa [triggers] using hsame
  rw [← hstore.eq_ofRules]

/-- Groups that are filled, with rules of their own triggers, are found again when they are laid out in a
row. -/
lemma ofRules_flatMap (groups : List TriggerGroup) (hdistinct : (groups.map (·.trigger)).Nodup)
    (hfilled : ∀ group ∈ groups, group.rules ≠ [])
    (hown : ∀ group ∈ groups, ∀ rule ∈ group.rules, rule.trigger = group.trigger) :
    (ofRules (groups.flatMap (·.rules))).groups = groups := by
  induction groups with
  | nil => rfl
  | cons group rest ih =>
      obtain ⟨hhead, hrest⟩ := List.nodup_cons.mp hdistinct
      obtain ⟨hfirst, hfilled⟩ := List.forall_mem_cons.mp hfilled
      obtain ⟨hmine, hown⟩ := List.forall_mem_cons.mp hown
      have hapart : ∀ rule ∈ group.rules, ∀ rule' ∈ rest.flatMap (·.rules),
          rule.trigger ≠ rule'.trigger := by
        intro rule hrule rule' hrule' heq
        obtain ⟨other, hother, hin⟩ := List.mem_flatMap.mp hrule'
        rw [hmine rule hrule, hown other hother rule' hin] at heq
        exact hhead (List.mem_map.mpr ⟨other, hother, heq.symm⟩)
      rw [List.flatMap_cons, ofRules_append hapart, ofRules_of_single hfirst hmine,
        ih hrest hfilled hown]
      rfl

lemma ruleCount_eq (store : RuleStore) : store.ruleCount = store.rules.length := by
  rw [ruleCount, ← List.sum_eq_foldl, rules, List.length_flatMap]

/-! ## The result -/

/-- **Grouping is stable.**  The store of a list of rules is the one store that groups it.  Nothing is lost
and nothing is doubled, and the store is empty for the empty list only.  Two lists give the same store if
and only if their triggers appear first in the same order and every trigger has the same rules in both; and
the rules of a store in the order of its groups give that store again. -/
theorem stable_grouping (rules : List Rule) :
    (ofRules rules).IsGroupingOf rules
      ∧ (∀ store : RuleStore, store.IsGroupingOf rules → store = ofRules rules)
      ∧ (ofRules rules).rules.Perm rules
      ∧ (ofRules rules).ruleCount = rules.length
      ∧ ((ofRules rules).isEmpty ↔ rules = [])
      ∧ (∀ rules', ofRules rules = ofRules rules' ↔
          triggersOf rules = triggersOf rules' ∧ ∀ t, rulesUnder t rules = rulesUnder t rules')
      ∧ ofRules (ofRules rules).rules = ofRules rules := by
  have hgrouping := ofRules_isGroupingOf rules
  have hperm := ofRules_rules_perm rules
  refine ⟨hgrouping, fun store h => h.eq_ofRules, hperm, ?_, ?_, fun rules' => ofRules_eq_iff, ?_⟩
  · rw [ruleCount_eq, hperm.length_eq]
  · rw [isEmpty, List.isEmpty_iff]
    constructor
    · intro hnone
      rw [RuleStore.rules, hnone] at hperm
      exact hperm.nil_eq.symm
    · rintro rfl
      rfl
  · have hown : ∀ group ∈ (ofRules rules).groups, ∀ rule ∈ group.rules, rule.trigger = group.trigger := by
      intro group hgroup rule hrule
      rw [hgrouping.members group hgroup] at hrule
      simpa using (List.mem_filter.mp hrule).2
    exact congrArg RuleStore.mk (ofRules_flatMap _ hgrouping.distinct hgrouping.filled hown)

/-- The third rule may stand before the second one, for it joins the group of the first. -/
example : ofRules interleavedRules
    = ofRules [.ofChar "a" 'a' "b", .ofChar "a" 'b' "Q", .ofChar "b" 'b' "c"] := rfl

end RuleStore
end Redaction
