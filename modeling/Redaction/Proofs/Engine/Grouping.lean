import Redaction.Policy.Rule
import Mathlib.Data.List.Induction
import Mathlib.Data.List.Nodup
import Mathlib.Tactic.Lemma

/-!
# Grouping rules by trigger, in closed form

`RuleStore.ofRules` grows its groups one rule at a time, which is the wrong shape for saying what a store
*is*: whether a group already exists depends on everything read before.  This file trades the loop for a
description that speaks of the list of rules alone.

* `triggersOf` — the triggers of a list of rules, each where it first appears.
* `rulesUnder` — the rules of a list with a given trigger, in their order.
* **`ofRules_groups`** — the groups of a store are exactly the triggers of `triggersOf`, each with the
  rules of `rulesUnder`.
* `ofRules_rules_perm` — all groups together hold the rules of the list, each as often as the list does.

The induction is on the *end* of the list: `triggersOf_concat` and `rulesUnder_concat` say what one more
rule does to the two descriptions, and `insert_map` says that `insert` does the same to groups.
-/

namespace Redaction

namespace RuleStore

/-- The triggers of rules, in the order in which each appears first. -/
def triggersOf (rules : List Rule) : List String :=
  (rules.map (·.trigger)).eraseDups

/-- The rules with a trigger, in their order. -/
def rulesUnder (trigger : String) (rules : List Rule) : List Rule :=
  rules.filter (·.trigger = trigger)

/-! ## One more rule -/

lemma mem_triggersOf {rules : List Rule} {trigger : String} :
    trigger ∈ triggersOf rules ↔ ∃ rule ∈ rules, rule.trigger = trigger := by
  simp [triggersOf, List.mem_eraseDups]

/-- One more item of a list is kept only if it is none of the items before. -/
lemma eraseDups_concat (items : List String) (item : String) :
    (items ++ [item]).eraseDups
      = if item ∈ items then items.eraseDups else items.eraseDups ++ [item] := by
  rw [List.eraseDups_append]
  by_cases h : item ∈ items <;> simp [List.removeAll, h, List.eraseDups_cons]

/-- One more rule adds its trigger at the end, unless that has appeared already. -/
lemma triggersOf_concat (rules : List Rule) (rule : Rule) :
    triggersOf (rules ++ [rule])
      = if rule.trigger ∈ triggersOf rules then triggersOf rules
        else triggersOf rules ++ [rule.trigger] := by
  simp only [triggersOf, List.map_append, List.map_cons, List.map_nil, eraseDups_concat,
    List.mem_eraseDups]

lemma rulesUnder_concat (trigger : String) (rules : List Rule) (rule : Rule) :
    rulesUnder trigger (rules ++ [rule])
      = rulesUnder trigger rules ++ if rule.trigger = trigger then [rule] else [] := by
  by_cases h : rule.trigger = trigger <;> simp [rulesUnder, h]

/-- A trigger that has not appeared has no rules. -/
lemma rulesUnder_eq_nil {trigger : String} {rules : List Rule} (h : trigger ∉ triggersOf rules) :
    rulesUnder trigger rules = [] := by
  simp only [rulesUnder, List.filter_eq_nil_iff, decide_eq_true_eq]
  intro rule hrule heq
  exact h (mem_triggersOf.mpr ⟨rule, hrule, heq⟩)

/-- No trigger is listed twice. -/
lemma nodup_triggersOf (rules : List Rule) : (triggersOf rules).Nodup := by
  induction rules using List.reverseRecOn with
  | nil => simp [triggersOf]
  | append_singleton rules rule ih =>
      rw [triggersOf_concat]
      split_ifs with h
      · exact ih
      · exact List.nodup_append.mpr ⟨ih, List.nodup_singleton _, by
          intro a ha b hb hab
          rw [List.mem_singleton] at hb
          exact h (hb ▸ hab ▸ ha)⟩

/-! ## What `insert` does to described groups -/

/-- Groups that a function of distinct triggers describes: a rule goes to the end of the group of its
trigger, and to a group of its own at the end if there is none. -/
lemma insert_map (rule : Rule) (members : String → List Rule) (triggers : List String)
    (hnodup : triggers.Nodup) :
    insert rule (triggers.map fun t => ⟨t, members t⟩)
      = (triggers.map fun t => ⟨t, members t ++ if rule.trigger = t then [rule] else []⟩)
        ++ if rule.trigger ∈ triggers then [] else [⟨rule.trigger, [rule]⟩] := by
  induction triggers with
  | nil => simp [insert]
  | cons t rest ih =>
      obtain ⟨hhead, hrest⟩ := List.nodup_cons.mp hnodup
      simp only [List.map_cons, insert]
      by_cases h : t = rule.trigger
      · -- the group is found; the triggers after it are others, so their groups stay as they are
        subst h
        have hsame : ∀ u ∈ rest, rule.trigger ≠ u := fun u hu heq => hhead (heq ▸ hu)
        have hmap : (rest.map fun u => (⟨u, members u⟩ : TriggerGroup))
            = rest.map fun u => ⟨u, members u ++ if rule.trigger = u then [rule] else []⟩ := by
          refine List.map_congr_left fun u hu => ?_
          rw [if_neg (hsame u hu), List.append_nil]
        simp [hmap]
      · have hne : rule.trigger ≠ t := fun heq => h heq.symm
        rw [if_neg h, ih hrest]
        simp [hne]

/-! ## The groups of a store -/

lemma ofRules_concat (rules : List Rule) (rule : Rule) :
    (ofRules (rules ++ [rule])).groups = insert rule (ofRules rules).groups := by
  simp [ofRules, List.foldl_append]

/-- **The groups of a store are its triggers in order of first appearance, each with its rules in the
order of the list.** -/
theorem ofRules_groups (rules : List Rule) :
    (ofRules rules).groups = (triggersOf rules).map fun t => ⟨t, rulesUnder t rules⟩ := by
  induction rules using List.reverseRecOn with
  | nil => rfl
  | append_singleton rules rule ih =>
      rw [ofRules_concat, ih, insert_map rule _ _ (nodup_triggersOf rules), triggersOf_concat]
      by_cases h : rule.trigger ∈ triggersOf rules
      · simp [h, rulesUnder_concat]
      · simp [h, rulesUnder_concat, rulesUnder_eq_nil h]

/-! ## Nothing is lost -/

lemma insert_rules_perm (rule : Rule) (groups : List TriggerGroup) :
    ((insert rule groups).flatMap (·.rules)).Perm (groups.flatMap (·.rules) ++ [rule]) := by
  induction groups with
  | nil => exact .refl _
  | cons group rest ih =>
      rw [insert]
      split
      · -- the rule joins this group, ahead of all that the later groups hold
        simp only [List.flatMap_cons, List.append_assoc]
        exact List.perm_append_comm.append_left group.rules
      · simp only [List.flatMap_cons, List.append_assoc]
        exact ih.append_left group.rules

/-- Grouping rearranges the rules of a list and does no more. -/
lemma ofRules_rules_perm (rules : List Rule) : (ofRules rules).rules.Perm rules := by
  induction rules using List.reverseRecOn with
  | nil => exact .refl _
  | append_singleton rules rule ih =>
      rw [RuleStore.rules, ofRules_concat]
      exact (insert_rules_perm rule _).trans (ih.append_right [rule])

end RuleStore
end Redaction
