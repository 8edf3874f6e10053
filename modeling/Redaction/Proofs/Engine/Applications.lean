import Redaction.Engine.Trace
import Redaction.Proofs.Engine.Reference
import Mathlib.Algebra.BigOperators.Group.List.Basic
import Mathlib.Algebra.GroupWithZero.Nat
import Mathlib.Data.List.Forall2

/-!
# Which rules a redaction applies

Handles count how often their rules were applied, and a redaction knows nothing else about what it has
done.  The trace of a text says it without handles: which rules find a match as their turn comes, and what
each of them is applied to.  This file ties the two together.

* `Cache.trace` — the rules that redacting a text with a cache applies.  It depends on the shape of the
  cache alone.
* **`Cache.redact_appliedCount`** — redaction raises the counts of a cache by just these applications.
* `Cache.Grown` — no count of any handle has gone down.
* **`Cache.setHandle_handles`** — work on a single handle leaves all others as they are.
* **`RuleStore.handsBack_of_trace_eq_nil`** — where no rule applies, the very same text comes back.
-/

namespace Redaction

/-! ## The trace of a cache -/

lemma traceRules_cons (text : String) (rule : Rule) (rest : List Rule) :
    traceRules text (rule :: rest)
      = if rule.matchesIn text then
          ((rule, text) :: (traceRules (rule.apply text) rest).1, (traceRules (rule.apply text) rest).2)
        else traceRules text rest := rfl

lemma traceGroups_cons (text : String) (group : TriggerGroup) (rest : List TriggerGroup) :
    traceGroups text (group :: rest)
      = if Text.occursIn group.trigger text then
          (traceRules text group.rules).1 ++ traceGroups (traceRules text group.rules).2 rest
        else traceGroups text rest := rfl

/-- The rules that redacting a text with a cache applies, each with what it is applied to. -/
def Cache.trace (cache : Cache) (text : String) : List (Rule × String) :=
  traceGroups text (cache.groups.map HandleGroup.source)

/-- What a cache has scanned and counted so far does not show in its traces. -/
lemma Cache.Mirrors.trace {cache : Cache} {store : RuleStore} (h : cache.Mirrors store)
    (text : String) : cache.trace text = store.trace text :=
  congrArg (traceGroups text) h

/-! ## Counts -/

/-- How often the rules of some handles were applied. -/
def countOf (handles : List Handle) : Nat :=
  (handles.map (·.matchCount)).sum

@[simp] lemma countOf_cons (handle : Handle) (rest : List Handle) :
    countOf (handle :: rest) = handle.matchCount + countOf rest := rfl

@[simp] lemma countOf_append (first second : List Handle) :
    countOf (first ++ second) = countOf first + countOf second := by
  simp [countOf]

lemma Cache.appliedCount_eq (cache : Cache) : cache.appliedCount = countOf cache.handles := by
  rw [appliedCount, countOf, List.sum_eq_foldl]

/-- A fresh cache has counted nothing. -/
lemma Cache.appliedCount_ofStore (store : RuleStore) (owner : Thread) :
    (ofStore store owner).appliedCount = 0 := by
  have hfresh : ∀ handle ∈ (ofStore store owner).handles, handle.matchCount = 0 := by
    simp only [handles, ofStore, List.mem_flatMap, List.mem_map]
    rintro handle ⟨_, ⟨group, -, rfl⟩, hhandle⟩
    obtain ⟨rule, -, rfl⟩ := List.mem_map.mp hhandle
    rfl
  rw [appliedCount_eq, countOf]
  exact List.sum_eq_zero fun count hcount => by
    obtain ⟨handle, hhandle, rfl⟩ := List.mem_map.mp hcount
    exact hfresh handle hhandle

/-- A handle counts if its rule matches in the text that it gets, and that is when the trace lists the
rule. -/
lemma redactHandles_count (text : String) (handles : List Handle) :
    countOf (redactHandles text handles).2
      = countOf handles + (traceRules text (handles.map (·.rule))).1.length
    ∧ (redactHandles text handles).1 = (traceRules text (handles.map (·.rule))).2 := by
  induction handles generalizing text with
  | nil => exact ⟨rfl, rfl⟩
  | cons handle rest ih =>
      rw [redactHandles_cons, List.map_cons, traceRules_cons, Handle.redact_eq]
      by_cases hmatch : handle.rule.matchesIn text
      · obtain ⟨hcount, htext⟩ := ih (handle.rule.apply text)
        simp only [hmatch, if_true, countOf_cons, List.length_cons, hcount, htext, and_true]
        omega
      · obtain ⟨hcount, htext⟩ := ih text
        simp only [hmatch, Bool.false_eq_true, if_false, countOf_cons, hcount, htext, and_true]
        omega

lemma redactGroups_count (text : String) (groups : List HandleGroup) :
    countOf ((redactGroups text groups).2.flatMap (·.handles))
      = countOf (groups.flatMap (·.handles))
        + (traceGroups text (groups.map HandleGroup.source)).length := by
  induction groups generalizing text with
  | nil => rfl
  | cons group rest ih =>
      have htrigger : group.source.trigger = group.trigger := rfl
      have hrules : group.source.rules = group.handles.map (·.rule) := rfl
      rw [redactGroups_cons, List.map_cons, traceGroups_cons, HandleGroup.redact_eq, htrigger, hrules]
      by_cases hoccurs : Text.occursIn group.trigger text
      · obtain ⟨hcount, htext⟩ := redactHandles_count text group.handles
        simp only [hoccurs, if_true, List.flatMap_cons, countOf_append, ih, hcount, htext,
          List.length_append]
        omega
      · simp only [hoccurs, Bool.false_eq_true, if_false, List.flatMap_cons, countOf_append, ih]
        omega

/-- **Redaction counts what it applies**, no more and no less, whatever the cache has counted before. -/
theorem Cache.redact_appliedCount (cache : Cache) (text : String) :
    (cache.redact text).2.appliedCount = cache.appliedCount + (cache.trace text).length := by
  rw [appliedCount_eq, appliedCount_eq]
  exact redactGroups_count text cache.groups

/-! ## Counts never go down -/

/-- A handle whose count has not gone down. -/
def Handle.Grown (before after : Handle) : Prop :=
  before.matchCount ≤ after.matchCount

/-- A cache has the handles that it had, and none of their counts has gone down. -/
def Cache.Grown (before after : Cache) : Prop :=
  List.Forall₂ Handle.Grown before.handles after.handles

lemma Cache.Grown.refl (cache : Cache) : cache.Grown cache :=
  List.forall₂_same.mpr fun handle _ => Nat.le_refl handle.matchCount

lemma forall₂_grown_trans {first second third : List Handle}
    (h : List.Forall₂ Handle.Grown first second) (h' : List.Forall₂ Handle.Grown second third) :
    List.Forall₂ Handle.Grown first third := by
  induction h generalizing third with
  | nil => exact h'
  | cons hle _ ih =>
      cases h' with
      | cons hle' hrest' => exact .cons (Nat.le_trans hle hle') (ih hrest')

lemma Cache.Grown.trans {first second third : Cache} (h : first.Grown second)
    (h' : second.Grown third) : first.Grown third :=
  forall₂_grown_trans h h'

lemma Handle.redact_grown (handle : Handle) (text : String) :
    handle.Grown (handle.redact text).2 := by
  rw [Grown, redact_eq]
  split
  · exact Nat.le_succ _
  · exact Nat.le_refl _

lemma redactHandles_grown (text : String) (handles : List Handle) :
    List.Forall₂ Handle.Grown handles (redactHandles text handles).2 := by
  induction handles generalizing text with
  | nil => exact .nil
  | cons handle rest ih => exact .cons (handle.redact_grown text) (ih _)

lemma redactGroups_grown (text : String) (groups : List HandleGroup) :
    List.Forall₂ Handle.Grown (groups.flatMap (·.handles))
      ((redactGroups text groups).2.flatMap (·.handles)) := by
  induction groups generalizing text with
  | nil => exact .nil
  | cons group rest ih =>
      rw [redactGroups_cons, List.flatMap_cons, List.flatMap_cons]
      refine List.rel_append ?_ (ih _)
      rw [HandleGroup.redact_eq]
      split
      · exact redactHandles_grown text group.handles
      · exact List.forall₂_same.mpr fun handle _ => Nat.le_refl handle.matchCount

lemma Cache.redact_grown (cache : Cache) (text : String) : cache.Grown (cache.redact text).2 :=
  redactGroups_grown text cache.groups

/-! ## Work on a single handle -/

lemma Cache.setFrom_handles (index : Nat) (handle : Handle) (groups : List HandleGroup)
    (start : Nat) :
    (setFrom start index handle groups).flatMap (·.handles)
      = if start ≤ index then (groups.flatMap (·.handles)).set (index - start) handle
        else groups.flatMap (·.handles) := by
  induction groups generalizing start with
  | nil => simp [setFrom]
  | cons group rest ih =>
      rw [setFrom, List.flatMap_cons, List.flatMap_cons, ih]
      by_cases hstart : start ≤ index
      · by_cases hhere : index < start + group.handles.length
        · -- the handle is one of this group
          rw [if_pos hstart, if_pos hstart, if_neg (by omega),
            List.set_append_left _ _ (by omega)]
        · rw [if_pos hstart, if_pos hstart, if_pos (by omega),
            List.set_append_right _ _ (by omega), List.set_eq_of_length_le (by omega),
            Nat.sub_sub]
      · rw [if_neg hstart, if_neg hstart, if_neg (by omega)]

/-- **Work on a single handle** leaves all others as they are. -/
theorem Cache.setHandle_handles (cache : Cache) (index : Nat) (handle : Handle) :
    (cache.setHandle index handle).handles = cache.handles.set index handle := by
  rw [handles, setHandle_groups, setFrom_handles, if_pos (Nat.zero_le index), Nat.sub_zero]
  rfl

/-- One item that counts more makes the whole list count more by as much. -/
lemma sum_map_set {α : Type} (count : α → Nat) {items : List α} {index : Nat} {old item : α}
    (hold : items[index]? = some old) {more : Nat} (hcount : count item = count old + more) :
    ((items.set index item).map count).sum = (items.map count).sum + more := by
  induction items generalizing index with
  | nil => simp at hold
  | cons first rest ih =>
      cases index with
      | zero =>
          have hfirst : first = old := by simpa using hold
          simp only [List.set_cons_zero, List.map_cons, List.sum_cons, hcount, hfirst]
          omega
      | succ index =>
          have hlater : rest[index]? = some old := by simpa using hold
          simp only [List.set_cons_succ, List.map_cons, List.sum_cons, ih hlater]
          omega

/-- A cache counts what a single one of its handles counts. -/
lemma Cache.setHandle_appliedCount {cache : Cache} {index : Nat} {old handle : Handle}
    (hold : cache.handles[index]? = some old) {more : Nat}
    (hcount : handle.matchCount = old.matchCount + more) :
    (cache.setHandle index handle).appliedCount = cache.appliedCount + more := by
  rw [appliedCount_eq, appliedCount_eq, setHandle_handles]
  exact sum_map_set (·.matchCount) hold hcount

lemma forall₂_set_grown {handles : List Handle} {index : Nat} {old handle : Handle}
    (hold : handles[index]? = some old) (hgrown : old.Grown handle) :
    List.Forall₂ Handle.Grown handles (handles.set index handle) := by
  induction handles generalizing index with
  | nil => exact .nil
  | cons first rest ih =>
      have hrest : List.Forall₂ Handle.Grown rest rest :=
        List.forall₂_same.mpr fun handle _ => Nat.le_refl handle.matchCount
      cases index with
      | zero =>
          have hfirst : first = old := by simpa using hold
          exact .cons (hfirst ▸ hgrown) hrest
      | succ index => exact .cons (Nat.le_refl _) (ih (by simpa using hold))

lemma Cache.setHandle_grown {cache : Cache} {index : Nat} {old handle : Handle}
    (hold : cache.handles[index]? = some old) (hgrown : old.Grown handle) :
    cache.Grown (cache.setHandle index handle) := by
  rw [Grown, setHandle_handles]
  exact forall₂_set_grown hold hgrown

/-! ## Where no rule applies -/

lemma traceRules_text_of_nil {text : String} {rules : List Rule}
    (h : (traceRules text rules).1 = []) : (traceRules text rules).2 = text := by
  induction rules with
  | nil => rfl
  | cons rule rest ih =>
      rw [traceRules_cons] at h ⊢
      by_cases hmatch : rule.matchesIn text
      · simp [hmatch] at h
      · rw [if_neg hmatch] at h ⊢
        exact ih h

/-- The text after the rules of a trace is what all rules make of it. -/
lemma traceRules_text (text : String) (rules : List Rule) :
    (traceRules text rules).2 = Rule.applyAll rules text := by
  induction rules generalizing text with
  | nil => rfl
  | cons rule rest ih =>
      have hcons : Rule.applyAll (rule :: rest) text = Rule.applyAll rest (rule.apply text) := rfl
      rw [traceRules_cons, hcons]
      by_cases hmatch : rule.matchesIn text
      · rw [if_pos hmatch, ih]
      · rw [if_neg hmatch, ih, Rule.apply_of_not_matchesIn (by simpa using hmatch)]

lemma traceGroups_text_of_nil {text : String} {groups : List TriggerGroup}
    (h : traceGroups text groups = []) : groups.foldl TriggerGroup.rewrite text = text := by
  induction groups with
  | nil => rfl
  | cons group rest ih =>
      rw [traceGroups_cons] at h
      rw [List.foldl_cons, TriggerGroup.rewrite]
      by_cases hoccurs : Text.occursIn group.trigger text
      · rw [if_pos hoccurs] at h
        obtain ⟨hhere, hrest⟩ := List.append_eq_nil_iff.mp h
        rw [traceRules_text_of_nil hhere] at hrest
        rw [if_pos (Text.occursIn_iff.mp hoccurs), ← traceRules_text, traceRules_text_of_nil hhere]
        exact ih hrest
      · rw [if_neg hoccurs] at h
        rw [if_neg (mt Text.occursIn_iff.mpr hoccurs)]
        exact ih h

/-- **Where no rule applies** the very text that went in comes out. -/
theorem RuleStore.handsBack_of_trace_eq_nil {store : RuleStore} {text : String}
    (h : store.trace text = []) : store.handsBack text = true := by
  rw [handsBack, h]
  rfl

lemma Engine.redact_text_of_trace_eq_nil {engine : Engine} {cache : Cache}
    (hshape : cache.Mirrors engine.store) {text : String} (h : engine.store.trace text = []) :
    (engine.redact cache text).1 = text := by
  rw [Engine.redact_text engine hshape]
  exact traceGroups_text_of_nil h

end Redaction
