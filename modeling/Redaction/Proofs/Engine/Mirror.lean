import Redaction.Engine.Cache
import Mathlib.Tactic.Lemma

/-!
# Caches that mirror a store

A cache is made from a store and is then worked on for as long as it lives: its handles are reset,
searched and made to rewrite.  What all this leaves alone is the *shape* of the cache — which triggers it
has, and which rule each of its handles is for.  `Cache.Mirrors` names that shape, and everything else a
cache may hold (texts, matches, counts) stays out of it, so a statement about "a cache that mirrors the
store" is a statement about a cache in any state at all.

* `Handle.redact_eq` — what applying a handle does, for a handle in any state.
* `Cache.Mirrors` — the cache has the store's triggers and one handle for each of its rules, in order.
* `Cache.ofStore_mirrors`, `Cache.Mirrors.redact`, `Cache.Mirrors.setHandle` — the shape is there from
  the start, and neither redaction nor work on a single handle changes it.
-/

namespace Redaction

/-! ## One handle -/

namespace Handle

/-- **What applying a handle does.**  Nothing that the handle held before comes into it but the rule and
the count: `reset` has put the rest aside before `find` looks. -/
theorem redact_eq (handle : Handle) (text : String) :
    handle.redact text
      = if handle.rule.matchesIn text then
          (handle.rule.apply text,
            ⟨handle.rule, handle.rule.apply text, none, handle.matchCount + 1⟩)
        else (text, ⟨handle.rule, text, none, handle.matchCount⟩) := by
  cases hfound : handle.rule.pattern.search text.toList.toArray with
  | none => simp [redact, reset, find, Rule.matchesIn, hfound]
  | some found => simp [redact, reset, find, replaceAll, Rule.matchesIn, hfound]

@[simp] lemma redact_rule (handle : Handle) (text : String) :
    (handle.redact text).2.rule = handle.rule := by
  rw [redact_eq]
  split <;> rfl

@[simp] lemma reset_rule (handle : Handle) (text : String) : (handle.reset text).rule = handle.rule :=
  rfl

@[simp] lemma find_rule (handle : Handle) : handle.find.2.rule = handle.rule := rfl

@[simp] lemma ofRule_rule (rule : Rule) : (ofRule rule).rule = rule := rfl

end Handle

/-! ## The equations of redaction -/

lemma redactHandles_cons (text : String) (handle : Handle) (rest : List Handle) :
    redactHandles text (handle :: rest)
      = ((redactHandles (handle.redact text).1 rest).1,
          (handle.redact text).2 :: (redactHandles (handle.redact text).1 rest).2) := rfl

lemma redactGroups_cons (text : String) (group : HandleGroup) (rest : List HandleGroup) :
    redactGroups text (group :: rest)
      = ((redactGroups (group.redact text).1 rest).1,
          (group.redact text).2 :: (redactGroups (group.redact text).1 rest).2) := rfl

lemma HandleGroup.redact_eq (group : HandleGroup) (text : String) :
    group.redact text
      = if Text.occursIn group.trigger text then
          ((redactHandles text group.handles).1,
            { group with handles := (redactHandles text group.handles).2 })
        else (text, group) := rfl

/-! ## Shape -/

/-- The group of rules that a group of handles is for. -/
def HandleGroup.source (group : HandleGroup) : TriggerGroup :=
  ⟨group.trigger, group.handles.map (·.rule)⟩

/-- A cache mirrors a store: it has the store's triggers in their order, and under each of them one
handle for each rule, in the order of the rules.  What the handles have scanned and counted so far is
not part of this. -/
def Cache.Mirrors (cache : Cache) (store : RuleStore) : Prop :=
  cache.groups.map HandleGroup.source = store.groups

lemma redactHandles_rules (text : String) (handles : List Handle) :
    (redactHandles text handles).2.map (·.rule) = handles.map (·.rule) := by
  induction handles generalizing text with
  | nil => rfl
  | cons handle rest ih => simp [redactHandles_cons, ih]

@[simp] lemma HandleGroup.redact_source (group : HandleGroup) (text : String) :
    (group.redact text).2.source = group.source := by
  rw [HandleGroup.redact_eq]
  split
  · simp [HandleGroup.source, redactHandles_rules]
  · rfl

lemma redactGroups_sources (text : String) (groups : List HandleGroup) :
    (redactGroups text groups).2.map HandleGroup.source = groups.map HandleGroup.source := by
  induction groups generalizing text with
  | nil => rfl
  | cons group rest ih => simp [redactGroups_cons, ih]

/-! ## Work on a single handle -/

namespace Cache

/-- The groups with one handle replaced, counted from `start`; the recursion behind `setHandle`. -/
def setFrom (start index : Nat) (handle : Handle) : List HandleGroup → List HandleGroup
  | [] => []
  | group :: rest =>
    { group with
      handles := if start ≤ index then group.handles.set (index - start) handle else group.handles }
      :: setFrom (start + group.handles.length) index handle rest

lemma setHandle_groups (cache : Cache) (index : Nat) (handle : Handle) :
    (cache.setHandle index handle).groups = setFrom 0 index handle cache.groups := by
  -- the fold carries the groups it has passed; `taken` stands for them
  have hfold : ∀ (groups : List HandleGroup) (start : Nat) (taken : List HandleGroup),
      (groups.foldl (fun (state : Nat × List HandleGroup) (group : HandleGroup) =>
        (state.1 + group.handles.length,
          state.2 ++ [{ group with
            handles := if state.1 ≤ index then group.handles.set (index - state.1) handle
              else group.handles }])) (start, taken)).2
        = taken ++ setFrom start index handle groups := by
    intro groups
    induction groups with
    | nil => intro start taken; simp [setFrom]
    | cons group rest ih =>
        intro start taken
        rw [List.foldl_cons, ih]
        simp [setFrom]
  simpa [setHandle] using hfold cache.groups 0 []

/-- Writing a handle over one of the same rule leaves the rules of a list as they are. -/
lemma map_rule_set {handles : List Handle} {index : Nat} {handle : Handle}
    (hsame : ∀ old, handles[index]? = some old → old.rule = handle.rule) :
    (handles.set index handle).map (·.rule) = handles.map (·.rule) := by
  rw [List.map_set]
  by_cases hlt : index < handles.length
  · have hold := hsame handles[index] (List.getElem?_eq_getElem hlt)
    refine List.ext_getElem? fun i => ?_
    by_cases hi : index = i
    · subst hi
      simp [hlt, hold]
    · simp [hi]
  · exact List.set_eq_of_length_le (by simpa using hlt)

lemma setFrom_sources (index : Nat) (handle : Handle) (groups : List HandleGroup) (start : Nat)
    (hsame : start ≤ index → ∀ old,
      (groups.flatMap (·.handles))[index - start]? = some old → old.rule = handle.rule) :
    (setFrom start index handle groups).map HandleGroup.source = groups.map HandleGroup.source := by
  induction groups generalizing start with
  | nil => rfl
  | cons group rest ih =>
      have hrest : (setFrom (start + group.handles.length) index handle rest).map HandleGroup.source
          = rest.map HandleGroup.source := by
        refine ih _ fun hle old hold => hsame (by omega) old ?_
        rw [List.flatMap_cons, List.getElem?_append_right (by omega)]
        rwa [show index - start - group.handles.length = index - (start + group.handles.length) by
          omega]
      have hgroup : ∀ old, start ≤ index → group.handles[index - start]? = some old →
          old.rule = handle.rule := by
        intro old hle hold
        refine hsame hle old ?_
        rwa [List.flatMap_cons,
          List.getElem?_append_left (List.getElem?_eq_some_iff.mp hold).1]
      simp only [setFrom, List.map_cons, hrest, List.cons.injEq, and_true, HandleGroup.source,
        TriggerGroup.mk.injEq, true_and]
      by_cases hle : start ≤ index
      · rw [if_pos hle]
        exact map_rule_set fun old hold => hgroup old hle hold
      · rw [if_neg hle]

/-! ## The shape lasts -/

/-- A fresh cache mirrors the store it is made from. -/
lemma ofStore_mirrors (store : RuleStore) (owner : Thread) : (ofStore store owner).Mirrors store := by
  have hgroup : ∀ group : TriggerGroup,
      HandleGroup.source ⟨group.trigger, group.rules.map Handle.ofRule⟩ = group := by
    intro group
    simp [HandleGroup.source, Function.comp_def]
  simp [Mirrors, ofStore, Function.comp_def, hgroup]

lemma Mirrors.redact {cache : Cache} {store : RuleStore} (h : cache.Mirrors store) (text : String) :
    (cache.redact text).2.Mirrors store :=
  (redactGroups_sources text cache.groups).trans h

/-- A handle may be put in the place of another one for the same rule. -/
lemma Mirrors.setHandle {cache : Cache} {store : RuleStore} (h : cache.Mirrors store) {index : Nat}
    {old handle : Handle} (hold : cache.handles[index]? = some old) (hrule : handle.rule = old.rule) :
    (cache.setHandle index handle).Mirrors store := by
  rw [Mirrors, setHandle_groups, setFrom_sources]
  · exact h
  · intro _ other hother
    rw [Nat.sub_zero] at hother
    have heq : old = other := Option.some.inj (hold.symm.trans hother)
    rw [hrule, heq]

end Cache

/-- The shortcut for an engine without rules makes no difference: a cache for it has no groups to go
through. -/
lemma Engine.redact_eq (engine : Engine) {cache : Cache} (h : cache.Mirrors engine.store)
    (text : String) : engine.redact cache text = cache.redact text := by
  rw [Engine.redact]
  by_cases hempty : engine.store.isEmpty
  · have hnone : engine.store.groups = [] := List.isEmpty_iff.mp hempty
    obtain ⟨groups, owner⟩ := cache
    obtain rfl : groups = [] := List.map_eq_nil_iff.mp (h.trans hnone)
    rw [if_pos hempty]
    rfl
  · rw [if_neg hempty]

/-- Redaction through an engine keeps the shape of the cache, whatever the engine's store is. -/
lemma Engine.redact_mirrors (engine : Engine) {cache : Cache} {store : RuleStore}
    (h : cache.Mirrors store) (text : String) : (engine.redact cache text).2.Mirrors store := by
  unfold Engine.redact
  split
  · exact h
  · exact h.redact text

/-- Nor does a cache ever change hands. -/
@[simp] lemma Engine.redact_owner (engine : Engine) (cache : Cache) (text : String) :
    (engine.redact cache text).2.owner = cache.owner := by
  unfold Engine.redact
  split <;> rfl

end Redaction
