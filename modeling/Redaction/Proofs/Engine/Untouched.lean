import Redaction.Proofs.Engine.AuditTrail
import Redaction.Proofs.Engine.Composition

/-!
# Messages that nothing applies to

Redaction looks at a text that its rules change as they go: a trigger may turn up in what an earlier rule has
written, and a pattern may match there.  Whether it does anything at all can still be told from the message
alone.  As long as nothing applies, the text in which triggers are looked up *is* the message, so the first
rule that applies would have to apply to it.

* `RuleStore.FindsNothing` — of the groups whose trigger occurs in the message, no rule matches it.
* `traceGroups_eq_nil_iff` — then, and only then, no rule applies in the whole redaction.
* `Scanner`, `Engine.redactBy` — the engine with its two ways of asking a pattern taken as effects, of any
  kind; **`Engine.redactBy_direct`** says that it is the engine.
* `redactGroupsBy_eq_pure` — where no trigger occurs there is no effect: no pattern is asked.
* **`redact_untouched_iff`** — both, for a cache in any state.
-/

namespace Redaction

/-! ## No rule applies -/

/-- Of every group whose trigger occurs in a message, no rule matches the message. -/
def RuleStore.FindsNothing (store : RuleStore) (message : String) : Prop :=
  ∀ group ∈ store.groups, group.trigger.toList <:+: message.toList →
    ∀ rule ∈ group.rules, rule.matchesIn message = false

lemma traceRules_eq_nil_iff {text : String} {rules : List Rule} :
    (traceRules text rules).1 = [] ↔ ∀ rule ∈ rules, rule.matchesIn text = false := by
  induction rules with
  | nil => simp [traceRules]
  | cons rule rest ih =>
      rw [traceRules_cons, List.forall_mem_cons]
      by_cases hmatch : rule.matchesIn text
      · simp [hmatch]
      · simp [hmatch, ih]

/-- The first rule that applies would apply to the text itself. -/
lemma traceGroups_eq_nil_iff {text : String} {groups : List TriggerGroup} :
    traceGroups text groups = [] ↔ ∀ group ∈ groups, group.trigger.toList <:+: text.toList →
      ∀ rule ∈ group.rules, rule.matchesIn text = false := by
  induction groups with
  | nil => simp [traceGroups]
  | cons group rest ih =>
      rw [traceGroups_cons, List.forall_mem_cons]
      by_cases hoccurs : Text.occursIn group.trigger text
      · rw [if_pos hoccurs, List.append_eq_nil_iff, traceRules_eq_nil_iff]
        have htrigger := Text.occursIn_iff.mp hoccurs
        constructor
        · rintro ⟨hhere, hrest⟩
          rw [traceRules_text_of_nil (traceRules_eq_nil_iff.mpr hhere)] at hrest
          exact ⟨fun _ => hhere, ih.mp hrest⟩
        · rintro ⟨hhere, hrest⟩
          rw [traceRules_text_of_nil (traceRules_eq_nil_iff.mpr (hhere htrigger))]
          exact ⟨hhere htrigger, ih.mpr hrest⟩
      · rw [if_neg hoccurs, ih]
        simp [mt Text.occursIn_iff.mpr hoccurs]

/-! ## No count changes -/

lemma countOf_le_of_grown {before after : List Handle} (h : List.Forall₂ Handle.Grown before after) :
    countOf before ≤ countOf after := by
  induction h with
  | nil => exact Nat.le_refl _
  | cons hle _ ih =>
      simp only [countOf_cons]
      exact Nat.add_le_add hle ih

/-- Counts that have not gone down and come to the same altogether are the same one by one. -/
lemma matchCounts_eq_of_grown {before after : List Handle} (h : List.Forall₂ Handle.Grown before after)
    (hcount : countOf after = countOf before) :
    after.map (·.matchCount) = before.map (·.matchCount) := by
  induction h with
  | nil => rfl
  | @cons old new before after hle hrest ih =>
      have hmore := countOf_le_of_grown hrest
      simp only [countOf_cons] at hcount
      simp only [Handle.Grown] at hle
      rw [List.map_cons, List.map_cons, ih (by omega)]
      congr 1
      omega

/-- No count of a cache changes if no rule applies, and only then. -/
lemma Cache.counts_redact_eq_iff (cache : Cache) (text : String) :
    (cache.redact text).2.counts = cache.counts ↔ cache.trace text = [] := by
  have happlied := cache.redact_appliedCount text
  rw [appliedCount_eq, appliedCount_eq] at happlied
  constructor
  · intro hcounts
    have hsame : countOf (cache.redact text).2.handles = countOf cache.handles := congrArg List.sum hcounts
    exact List.length_eq_zero_iff.mp (by omega)
  · intro hnone
    rw [hnone, List.length_nil, Nat.add_zero] at happlied
    exact matchCounts_eq_of_grown (cache.redact_grown text) happlied

/-! ## Asking patterns as an effect -/

/-- How patterns are asked about texts. -/
structure Scanner (m : Type → Type) where
  /-- Looks for the first match. -/
  search : Pattern → String → m (Option Pattern.Match)
  /-- Replaces every match by what the rule says. -/
  replaceAll : Rule → String → m String

/-- Patterns that are asked with no further effect. -/
def Scanner.direct : Scanner Id where
  search pattern text := pattern.search text.toList.toArray
  replaceAll rule text := rule.apply text

section
variable {m : Type → Type} [Monad m] (scanner : Scanner m)

/-- Applies the rule of a handle to a text if it matches there. -/
def Handle.redactBy (handle : Handle) (text : String) : m (String × Handle) := do
  let handle := handle.reset text
  let found ← scanner.search handle.rule.pattern handle.input
  let handle := { handle with found }
  if found.isSome then
    let out ← scanner.replaceAll handle.rule handle.input
    return (out, { handle with matchCount := handle.matchCount + 1 }.reset out)
  else return (text, handle)

/-- Applies rules in order, each to what the one before has left. -/
def redactHandlesBy (text : String) : List Handle → m (String × List Handle)
  | [] => return (text, [])
  | handle :: rest => do
    let (text, handle) ← handle.redactBy scanner text
    let (text, rest) ← redactHandlesBy text rest
    return (text, handle :: rest)

/-- Applies the rules of a group if its trigger occurs in the text. -/
def HandleGroup.redactBy (group : HandleGroup) (text : String) : m (String × HandleGroup) :=
  if Text.occursIn group.trigger text then do
    let (text, handles) ← redactHandlesBy scanner text group.handles
    return (text, { group with handles })
  else return (text, group)

/-- Applies groups in order. -/
def redactGroupsBy (text : String) : List HandleGroup → m (String × List HandleGroup)
  | [] => return (text, [])
  | group :: rest => do
    let (text, group) ← group.redactBy scanner text
    let (text, rest) ← redactGroupsBy text rest
    return (text, group :: rest)

/-- Redacts a text with a cache. -/
def Engine.redactBy (engine : Engine) (cache : Cache) (text : String) : m (String × Cache) :=
  if engine.store.isEmpty then return (text, cache)
  else do
    let (text, groups) ← redactGroupsBy scanner text cache.groups
    return (text, { cache with groups })

end

/-! ### Without an effect it is the engine -/

lemma Handle.redactBy_direct (handle : Handle) (text : String) :
    Id.run (handle.redactBy .direct text) = handle.redact text := by
  rfl

lemma redactHandlesBy_direct (text : String) (handles : List Handle) :
    Id.run (redactHandlesBy .direct text handles) = redactHandles text handles := by
  induction handles generalizing text with
  | nil => rfl
  | cons handle rest ih =>
      simp only [redactHandlesBy, Id.run_bind, Handle.redactBy_direct, ih, redactHandles_cons]
      rfl

lemma HandleGroup.redactBy_direct (group : HandleGroup) (text : String) :
    Id.run (group.redactBy .direct text) = group.redact text := by
  rw [HandleGroup.redactBy, HandleGroup.redact_eq]
  split
  · simp only [Id.run_bind, redactHandlesBy_direct]
    rfl
  · rfl

lemma redactGroupsBy_direct (text : String) (groups : List HandleGroup) :
    Id.run (redactGroupsBy .direct text groups) = redactGroups text groups := by
  induction groups generalizing text with
  | nil => rfl
  | cons group rest ih =>
      simp only [redactGroupsBy, Id.run_bind, HandleGroup.redactBy_direct, ih, redactGroups_cons]
      rfl

/-- **Patterns that are asked directly** make it the engine. -/
theorem Engine.redactBy_direct (engine : Engine) (cache : Cache) (text : String) :
    Id.run (engine.redactBy .direct cache text) = engine.redact cache text := by
  rw [Engine.redactBy, Engine.redact]
  split
  · rfl
  · simp only [Id.run_bind, redactGroupsBy_direct]
    rfl

/-! ### Without a trigger there is no effect -/

/-- Where no trigger occurs no pattern is asked, and the handles stay as they are. -/
lemma redactGroupsBy_eq_pure {m : Type → Type} [Monad m] [LawfulMonad m] (scanner : Scanner m)
    {text : String} {groups : List HandleGroup}
    (h : ∀ group ∈ groups, ¬ group.trigger.toList <:+: text.toList) :
    redactGroupsBy scanner text groups = pure (text, groups) := by
  induction groups with
  | nil => rfl
  | cons group rest ih =>
      obtain ⟨hhere, hrest⟩ := List.forall_mem_cons.mp h
      have habsent : ¬ Text.occursIn group.trigger text = true := mt Text.occursIn_iff.mp hhere
      rw [redactGroupsBy, HandleGroup.redactBy, if_neg habsent]
      simp only [pure_bind, ih hrest]

/-! ## The result -/

/-- **Redaction applies no rule** if and only if it finds nothing in the message as it came in, whatever the
rules would have made of it.  Then the message itself is returned.  And if no trigger occurs in the message,
it comes back with the cache as it is, without any effect of asking a pattern, whichever effect that may be:
no pattern is asked.  The cache may be in any state. -/
theorem redact_untouched_iff (engine : Engine) {cache : Cache} (hshape : cache.Mirrors engine.store)
    (message : String) :
    ((engine.redact cache message).2.counts = cache.counts ↔ engine.store.FindsNothing message)
      ∧ (engine.store.trace message = [] ↔ engine.store.FindsNothing message)
      ∧ (engine.store.FindsNothing message →
          (engine.redact cache message).1 = message ∧ (engine.rewrite cache message).1 = none)
      ∧ ((∀ group ∈ engine.store.groups, ¬ group.trigger.toList <:+: message.toList) →
          ∀ (m : Type → Type) [Monad m] [LawfulMonad m] (scanner : Scanner m),
            engine.redactBy scanner cache message = pure (message, cache))
      ∧ Id.run (engine.redactBy .direct cache message) = engine.redact cache message := by
  have htrace : engine.store.trace message = [] ↔ engine.store.FindsNothing message :=
    traceGroups_eq_nil_iff
  refine ⟨?_, htrace, fun hnothing => ?_, fun habsent m _ _ scanner => ?_,
    engine.redactBy_direct cache message⟩
  · rw [engine.redact_eq hshape, cache.counts_redact_eq_iff, hshape.trace, htrace]
  · have hnone : engine.store.trace message = [] := htrace.mpr hnothing
    have hout : (engine.redact cache message).1 = message := Engine.redact_text_of_trace_eq_nil hshape hnone
    refine ⟨hout, ?_⟩
    rw [Engine.rewrite]
    simp [hout, RuleStore.handsBack_of_trace_eq_nil hnone]
  · have hgroups : ∀ group ∈ cache.groups, ¬ group.trigger.toList <:+: message.toList := by
      intro group hgroup
      have hsource : group.source ∈ engine.store.groups := by
        rw [← show cache.groups.map HandleGroup.source = engine.store.groups from hshape]
        exact List.mem_map_of_mem hgroup
      exact habsent group.source hsource
    rw [Engine.redactBy, redactGroupsBy_eq_pure scanner hgroups]
    split
    · rfl
    · simp only [pure_bind]

/-- A scanner that fails whenever it is asked. -/
def Scanner.failing : Scanner Option where
  search _ _ := none
  replaceAll _ _ := none

/-- In the first message one trigger occurs, whose rule does not match, and the rules of the other one would
match.  In the second message the rules of both would match, and they are not even tried. -/
theorem redact_untouched_absent :
    listedCache.Mirrors (.ofRules twiceListed)
      ∧ (Engine.redact ⟨0, .ofRules twiceListed⟩ listedCache "zb").2.counts = [7, 0, 4, 1]
      ∧ (Engine.redact ⟨0, .ofRules twiceListed⟩ listedCache "zb").1 = "zb"
      ∧ Engine.redactBy .failing ⟨0, .ofRules twiceListed⟩ listedCache "by" = some ("by", listedCache)
      ∧ Engine.redactBy .failing ⟨0, .ofRules twiceListed⟩ listedCache "zb" = none := by
  have hshape : listedCache.Mirrors (.ofRules twiceListed) := rfl
  have hnothing : (RuleStore.ofRules twiceListed).FindsNothing "zb" := by
    unfold RuleStore.FindsNothing
    decide
  have habsent : ∀ group ∈ (RuleStore.ofRules twiceListed).groups,
      ¬ group.trigger.toList <:+: "by".toList := by
    decide
  obtain ⟨hcounts, -, hsame, -, -⟩ := redact_untouched_iff ⟨0, .ofRules twiceListed⟩ hshape "zb"
  obtain ⟨-, -, -, hpure, -⟩ := redact_untouched_iff ⟨0, .ofRules twiceListed⟩ hshape "by"
  exact ⟨hshape, hcounts.mpr hnothing, (hsame hnothing).1, hpure habsent Option .failing, rfl⟩

end Redaction
