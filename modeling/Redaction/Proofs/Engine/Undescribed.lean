import Redaction.Proofs.Engine.Composition
import Redaction.Engine.Pool

/-!
# Rules without their descriptions

The description of a rule is there for people.  Whoever compares what two engines do has to know that nothing else
comes of it, also where both have been used for a while.  `plain` takes the descriptions away, from a rule and from
everything that holds rules, and each operation turns out to do the same to what is left: it gives the same answer,
and leaves behind what it would have left, again without descriptions.

* `Rule.plain`, `RuleStore.plain`, `Cache.plain`, `Pool.plain` — the same without descriptions.
* `RuleStore.ofRules_plain` — descriptions have no part in grouping.
* **`Engine.redact_plain`**, **`Pool.rewriteAt_plain`** — nor in redaction, with a cache at hand or at a place.
* **`Engine.redactEach_eq_of_plain`**, **`Pool.redactEachAt_eq_of_plain`** — two engines that differ in descriptions
  go through any messages side by side: the same texts, and the same counts on every handle.
-/

namespace Redaction

/-! ## Taking descriptions away -/

/-- The rule without its description. -/
def Rule.plain (rule : Rule) : Rule :=
  { rule with description := "" }

/-- The group without the descriptions of its rules. -/
def TriggerGroup.plain (group : TriggerGroup) : TriggerGroup :=
  { group with rules := group.rules.map Rule.plain }

/-- The store without the descriptions of its rules. -/
def RuleStore.plain (store : RuleStore) : RuleStore :=
  ⟨store.groups.map TriggerGroup.plain⟩

/-- The engine without the descriptions of its rules. -/
def Engine.plain (engine : Engine) : Engine :=
  { engine with store := engine.store.plain }

/-- The handle without the description of its rule.  What it has scanned and counted stays. -/
def Handle.plain (handle : Handle) : Handle :=
  { handle with rule := handle.rule.plain }

/-- The handles of a group without descriptions. -/
def HandleGroup.plain (group : HandleGroup) : HandleGroup :=
  { group with handles := group.handles.map Handle.plain }

/-- The cache without the descriptions of its rules. -/
def Cache.plain (cache : Cache) : Cache :=
  { cache with groups := cache.groups.map HandleGroup.plain }

/-- The pool without the descriptions of rules. -/
def Pool.plain (pool : Pool) : Pool :=
  { pool with caches := pool.caches.map Cache.plain }

@[simp] lemma Rule.plain_trigger (rule : Rule) : rule.plain.trigger = rule.trigger := rfl

@[simp] lemma Rule.plain_apply (rule : Rule) (text : String) : rule.plain.apply text = rule.apply text := rfl

@[simp] lemma Rule.plain_matchesIn (rule : Rule) (text : String) :
    rule.plain.matchesIn text = rule.matchesIn text := rfl

@[simp] lemma Handle.plain_rule (handle : Handle) : handle.plain.rule = handle.rule.plain := rfl

@[simp] lemma Handle.plain_matchCount (handle : Handle) : handle.plain.matchCount = handle.matchCount := rfl

@[simp] lemma HandleGroup.plain_trigger (group : HandleGroup) : group.plain.trigger = group.trigger := rfl

@[simp] lemma RuleStore.plain_isEmpty (store : RuleStore) : store.plain.isEmpty = store.isEmpty := by
  simp [RuleStore.isEmpty, RuleStore.plain]

/-- A cache counts as it does without descriptions. -/
@[simp] lemma Cache.plain_counts (cache : Cache) : cache.plain.counts = cache.counts := by
  simp [Cache.counts, Cache.handles, Cache.plain, HandleGroup.plain, List.flatMap_map, List.map_flatMap,
    Function.comp_def]

/-! ## Grouping -/

namespace RuleStore

lemma insert_plain (rule : Rule) (groups : List TriggerGroup) :
    insert rule.plain (groups.map TriggerGroup.plain) = (insert rule groups).map TriggerGroup.plain := by
  induction groups with
  | nil => rfl
  | cons group rest ih =>
      have htrigger : group.plain.trigger = group.trigger := rfl
      rw [List.map_cons, insert, insert, htrigger, Rule.plain_trigger]
      split_ifs with hsame
      · simp [TriggerGroup.plain]
      · rw [ih, List.map_cons]

/-- **Descriptions have no part in grouping.** -/
theorem ofRules_plain (rules : List Rule) : ofRules (rules.map Rule.plain) = (ofRules rules).plain := by
  rw [ofRules, ofRules, plain, List.foldl_map]
  congr 1
  -- the groups that are there when a rule is inserted are plain on the one side only
  suffices h : ∀ groups : List TriggerGroup,
      rules.foldl (fun groups rule => insert rule.plain groups) (groups.map TriggerGroup.plain)
        = (rules.foldl (fun groups rule => insert rule groups) groups).map TriggerGroup.plain from h []
  induction rules with
  | nil => intro groups; rfl
  | cons rule rest ih =>
      intro groups
      rw [List.foldl_cons, List.foldl_cons, insert_plain, ih]

end RuleStore

/-! ## Redaction with a cache -/

lemma Handle.redact_plain (handle : Handle) (text : String) :
    handle.plain.redact text = ((handle.redact text).1, (handle.redact text).2.plain) := by
  rw [Handle.redact_eq, Handle.redact_eq, Handle.plain_rule, Rule.plain_matchesIn, Rule.plain_apply]
  split_ifs <;> rfl

lemma redactHandles_plain (text : String) (handles : List Handle) :
    redactHandles text (handles.map Handle.plain)
      = ((redactHandles text handles).1, (redactHandles text handles).2.map Handle.plain) := by
  induction handles generalizing text with
  | nil => rfl
  | cons handle rest ih =>
      rw [List.map_cons, redactHandles_cons, redactHandles_cons, Handle.redact_plain, ih, List.map_cons]

lemma HandleGroup.redact_plain (group : HandleGroup) (text : String) :
    group.plain.redact text = ((group.redact text).1, (group.redact text).2.plain) := by
  have hhandles : group.plain.handles = group.handles.map Handle.plain := rfl
  rw [HandleGroup.redact_eq, HandleGroup.redact_eq, HandleGroup.plain_trigger, hhandles, redactHandles_plain]
  split_ifs <;> rfl

lemma redactGroups_plain (text : String) (groups : List HandleGroup) :
    redactGroups text (groups.map HandleGroup.plain)
      = ((redactGroups text groups).1, (redactGroups text groups).2.map HandleGroup.plain) := by
  induction groups generalizing text with
  | nil => rfl
  | cons group rest ih =>
      rw [List.map_cons, redactGroups_cons, redactGroups_cons, HandleGroup.redact_plain, ih, List.map_cons]

/-- **Descriptions have no part in redaction.** -/
theorem Engine.redact_plain (engine : Engine) (cache : Cache) (text : String) :
    engine.plain.redact cache.plain text
      = ((engine.redact cache text).1, (engine.redact cache text).2.plain) := by
  have hstore : engine.plain.store.isEmpty = engine.store.isEmpty := engine.store.plain_isEmpty
  rw [Engine.redact, Engine.redact, hstore]
  split_ifs
  · rfl
  · have hgroups : cache.plain.groups = cache.groups.map HandleGroup.plain := rfl
    rw [Cache.redact, Cache.redact, hgroups, redactGroups_plain]
    rfl

lemma Cache.ofStore_plain (store : RuleStore) (owner : Thread) :
    Cache.ofStore store.plain owner = (Cache.ofStore store owner).plain := by
  simp [Cache.ofStore, RuleStore.plain, TriggerGroup.plain, Cache.plain, HandleGroup.plain, Function.comp_def,
    Handle.plain, Handle.ofRule]

/-! ## Redaction at a place -/

lemma traceRules_plain (text : String) (rules : List Rule) :
    traceRules text (rules.map Rule.plain)
      = ((traceRules text rules).1.map (Prod.map Rule.plain id), (traceRules text rules).2) := by
  induction rules generalizing text with
  | nil => rfl
  | cons rule rest ih =>
      rw [List.map_cons, traceRules, traceRules, Rule.plain_matchesIn, Rule.plain_apply, ih, ih]
      split_ifs <;> rfl

lemma traceGroups_plain (text : String) (groups : List TriggerGroup) :
    traceGroups text (groups.map TriggerGroup.plain)
      = (traceGroups text groups).map (Prod.map Rule.plain id) := by
  induction groups generalizing text with
  | nil => rfl
  | cons group rest ih =>
      have htrigger : group.plain.trigger = group.trigger := rfl
      have hrules : group.plain.rules = group.rules.map Rule.plain := rfl
      rw [List.map_cons, traceGroups_cons, traceGroups_cons, htrigger, hrules, traceRules_plain]
      split_ifs
      · rw [List.map_append, ih]
      · exact ih text

/-- Whether the very message is handed back is seen from what the rules do alone. -/
lemma RuleStore.handsBack_plain (store : RuleStore) (message : String) :
    store.plain.handsBack message = store.handsBack message := by
  rw [handsBack, handsBack, trace, trace, plain, traceGroups_plain, List.foldl_map]
  rfl

lemma Engine.rewrite_plain (engine : Engine) (cache : Cache) (text : String) :
    engine.plain.rewrite cache.plain text
      = ((engine.rewrite cache text).1, (engine.rewrite cache text).2.plain) := by
  have hback : engine.plain.store.handsBack text = engine.store.handsBack text :=
    engine.store.handsBack_plain text
  rw [Engine.rewrite, Engine.redact_plain, hback]
  rfl

namespace Pool

lemma registryAt_plain (pool : Pool) (place : Place) :
    pool.plain.registryAt place = ((pool.registryAt place).1, (pool.registryAt place).2.plain) := by
  have hregistries : pool.plain.registries = pool.registries := rfl
  rw [registryAt, registryAt, hregistries]
  cases place.registry with
  | none => rfl
  | some number =>
      cases hregistry : pool.registries[number]? with
      | none => simp only [hregistry]; rfl
      | some registry =>
          simp only [hregistry]
          split_ifs <;> rfl

lemma lookup_plain (pool : Pool) (place : Place) (engine : Engine) :
    pool.plain.lookup place engine.plain
      = { pool.lookup place engine with pool := (pool.lookup place engine).pool.plain } := by
  have hcacheIn : ∀ pool : Pool, pool.plain.cacheIn? = pool.cacheIn? := fun _ => rfl
  have hidentity : engine.plain.identity = engine.identity := rfl
  have hstore : engine.plain.store = engine.store.plain := rfl
  rw [lookup, lookup, registryAt_plain, hidentity, hstore]
  simp only [hcacheIn]
  cases (pool.registryAt place).2.cacheIn? (pool.registryAt place).1 engine.identity with
  | some number => rfl
  | none => simp [Cache.ofStore_plain, addCache, note, plain]

lemma rewriteWith_plain (pool : Pool) (engine : Engine) (number : Nat) (text : String) :
    pool.plain.rewriteWith engine.plain number text
      = ((pool.rewriteWith engine number text).1, (pool.rewriteWith engine number text).2.plain) := by
  have hcaches : pool.plain.caches[number]? = (pool.caches[number]?).map Cache.plain := List.getElem?_map ..
  rw [rewriteWith, rewriteWith, hcaches]
  cases pool.caches[number]? with
  | none => rfl
  | some cache => simp [Engine.rewrite_plain, setCache, plain]

/-- **Descriptions have no part in redaction at a place**, nor in the caches that are made for it. -/
theorem rewriteAt_plain (pool : Pool) (place : Place) (engine : Engine) (text : String) :
    pool.plain.rewriteAt place engine.plain text
      = ((pool.rewriteAt place engine text).1, (pool.rewriteAt place engine text).2.1,
          (pool.rewriteAt place engine text).2.2.1, (pool.rewriteAt place engine text).2.2.2.plain) := by
  have hstore : engine.plain.store.isEmpty = engine.store.isEmpty := engine.store.plain_isEmpty
  rw [rewriteAt, rewriteAt, hstore]
  split_ifs
  · rfl
  · rw [lookup_plain]
    simp only [rewriteWith_plain]

end Pool

/-! ## Any number of messages -/

/-- Redacts messages one after the other with a cache: the texts, and the cache as it is then. -/
def Engine.redactEach (engine : Engine) (cache : Cache) : List String → List String × Cache
  | [] => ([], cache)
  | message :: rest =>
    let (text, cache) := engine.redact cache message
    let (texts, cache) := engine.redactEach cache rest
    (text :: texts, cache)

/-- Redacts messages one after the other at a place: the texts, and the pool as it is then. -/
def Pool.redactEachAt (pool : Pool) (place : Place) (engine : Engine) : List String → List String × Pool
  | [] => ([], pool)
  | message :: rest =>
    let (text, place, _, pool) := pool.rewriteAt place engine message
    let (texts, pool) := pool.redactEachAt place engine rest
    (text.getD message :: texts, pool)

lemma Engine.redactEach_plain (engine : Engine) (cache : Cache) (messages : List String) :
    engine.plain.redactEach cache.plain messages
      = ((engine.redactEach cache messages).1, (engine.redactEach cache messages).2.plain) := by
  induction messages generalizing cache with
  | nil => rfl
  | cons message rest ih =>
      rw [redactEach, redactEach, Engine.redact_plain]
      simp only [ih]

lemma Pool.redactEachAt_plain (pool : Pool) (place : Place) (engine : Engine) (messages : List String) :
    pool.plain.redactEachAt place engine.plain messages
      = ((pool.redactEachAt place engine messages).1, (pool.redactEachAt place engine messages).2.plain) := by
  induction messages generalizing pool place with
  | nil => rfl
  | cons message rest ih =>
      rw [redactEachAt, redactEachAt, Pool.rewriteAt_plain]
      simp only [ih]

variable {engine engine' : Engine}

/-- **Two engines side by side**, each with a cache of its own: as long as engines and caches differ in descriptions
only, so do the caches after any messages, and the texts are the same. -/
theorem Engine.redactEach_eq_of_plain (hengine : engine.plain = engine'.plain) {cache cache' : Cache}
    (hcache : cache.plain = cache'.plain) (messages : List String) :
    (engine.redactEach cache messages).1 = (engine'.redactEach cache' messages).1
      ∧ (engine.redactEach cache messages).2.plain = (engine'.redactEach cache' messages).2.plain := by
  rw [← Prod.mk.injEq, ← Engine.redactEach_plain, ← Engine.redactEach_plain, hengine, hcache]

/-- The same goes for the caches of a context. -/
theorem Pool.redactEachAt_eq_of_plain (hengine : engine.plain = engine'.plain) {pool pool' : Pool}
    (hpool : pool.plain = pool'.plain) (place : Place) (messages : List String) :
    (pool.redactEachAt place engine messages).1 = (pool'.redactEachAt place engine' messages).1
      ∧ (pool.redactEachAt place engine messages).2.plain = (pool'.redactEachAt place engine' messages).2.plain := by
  rw [← Prod.mk.injEq, ← Pool.redactEachAt_plain, ← Pool.redactEachAt_plain, hengine, hpool]

end Redaction
