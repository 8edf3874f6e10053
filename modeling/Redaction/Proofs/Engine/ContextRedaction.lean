import Redaction.Proofs.Engine.Applications
import Redaction.Proofs.Session.Registries

/-!
# Redaction at a place

Filters and the service redact texts wherever they happen to run: on a thread, in a context with or without
a registry, with a cache that is found there or made on the spot.  None of this shows in what comes out.
The text is the one that a fresh cache would give, and a text to which no rule applies is handed back as it
is.

* `Engine.redacted` — what an engine makes of a text, with a cache that nobody has used.
* `Pool.Serves` — the pool notes the right caches for the engines that are around, and these are told apart
  by their identities.
* **`Pool.Serves.rewriteAt`** — redaction at a place gives what the engine makes of the text, and the pool
  goes on serving the same engines.
-/

namespace Redaction

/-- What an engine makes of a text, with a cache that nobody has used. -/
def Engine.redacted (engine : Engine) (text : String) : String :=
  (engine.redact (Cache.ofStore engine.store "") text).1

/-- Any cache for the store of an engine will do. -/
lemma Engine.redact_eq_redacted (engine : Engine) {cache : Cache} (h : cache.Mirrors engine.store)
    (text : String) : (engine.redact cache text).1 = engine.redacted text := by
  rw [redacted, Engine.redact_text engine h,
    Engine.redact_text engine (Cache.ofStore_mirrors engine.store "")]

/-- Where no rule applies, an engine makes nothing of a text. -/
lemma Engine.redacted_of_trace_eq_nil {engine : Engine} {text : String}
    (h : engine.store.trace text = []) : engine.redacted text = text :=
  Engine.redact_text_of_trace_eq_nil (Cache.ofStore_mirrors engine.store "") h

/-- An engine without rules leaves every text alone. -/
lemma Engine.redacted_of_isEmpty {engine : Engine} (h : engine.store.isEmpty) (text : String) :
    engine.redacted text = text := by
  rw [redacted, Engine.redact, if_pos h]

/-- That the very same text came back is not told apart from a text that is equal to it. -/
lemma Engine.rewrite_getD (engine : Engine) (cache : Cache) (text : String) :
    (engine.rewrite cache text).1.getD text = (engine.redact cache text).1 := by
  rw [Engine.rewrite]
  by_cases h : (engine.redact cache text).1 = text
  · by_cases hback : engine.store.handsBack text <;> simp [h, hback]
  · simp [h]

lemma Engine.rewrite_snd (engine : Engine) (cache : Cache) (text : String) :
    (engine.rewrite cache text).2 = (engine.redact cache text).2 := rfl

/-- Where no rule applies, the very same text comes back. -/
lemma Engine.rewrite_of_trace_eq_nil {engine : Engine} {cache : Cache}
    (hshape : cache.Mirrors engine.store) {text : String} (h : engine.store.trace text = []) :
    (engine.rewrite cache text).1 = none := by
  rw [Engine.rewrite]
  simp [Engine.redact_text_of_trace_eq_nil hshape h, RuleStore.handsBack_of_trace_eq_nil h]

namespace Pool

variable {pool : Pool} {known : Engine → Prop} {bound : Nat}

/-- What is noted is right, and the engines that are around are told apart by their identities. -/
structure Serves (pool : Pool) (known : Engine → Prop) (bound : Nat) : Prop where
  below : ∀ {engine}, known engine → engine.identity < bound
  distinct : ∀ {engine engine'}, known engine → known engine' →
    engine.identity = engine'.identity → engine = engine'
  sound : pool.Sound known bound

lemma not_notes_empty {registry engine cache : Nat} : ¬ (Pool.Notes {} registry engine cache) := by
  rintro ⟨r, hr, -⟩
  simp at hr

/-- A pool that nothing was noted in serves all engines that identities tell apart. -/
lemma Serves.empty (hbelow : ∀ {engine}, known engine → engine.identity < bound)
    (hdistinct : ∀ {engine engine'}, known engine → known engine' →
      engine.identity = engine'.identity → engine = engine') : Serves {} known bound :=
  ⟨hbelow, hdistinct, fun h => absurd h not_notes_empty, fun h => absurd h not_notes_empty,
    fun h => absurd h not_notes_empty⟩

/-- Engines may be forgotten. -/
lemma Serves.forget (h : pool.Serves known bound) {known' : Engine → Prop}
    (hknown : ∀ {engine}, known' engine → known engine) : pool.Serves known' bound :=
  ⟨fun he => h.below (hknown he), fun he he' => h.distinct (hknown he) (hknown he'),
    h.sound.forget (Nat.le_refl _) fun _ he _ => hknown he⟩

/-- A new engine has an identity that no note can mention. -/
lemma Serves.addEngine (h : pool.Serves known bound) {known' : Engine → Prop} (store : RuleStore)
    (hknown : ∀ {engine}, known' engine → engine = ⟨bound, store⟩ ∨ known engine) :
    pool.Serves known' (bound + 1) := by
  constructor
  · intro engine he
    rcases hknown he with rfl | hold
    · exact Nat.lt_succ_self _
    · exact Nat.lt_succ_of_lt (h.below hold)
  · intro engine engine' he he' hid
    rcases hknown he with rfl | hold <;> rcases hknown he' with rfl | hold'
    · rfl
    · exact absurd (h.below hold') (hid ▸ Nat.lt_irrefl _)
    · exact absurd (h.below hold) (hid ▸ Nat.lt_irrefl _)
    · exact h.distinct hold hold' hid
  · refine h.sound.forget (Nat.le_succ _) fun engine he hlt => ?_
    rcases hknown he with rfl | hold
    · exact absurd hlt (Nat.lt_irrefl _)
    · exact hold

/-- A lookup finds a cache for the engine's store in a pool that serves on. -/
lemma Serves.lookup (h : pool.Serves known bound) (place : Place) {engine : Engine}
    (hknown : known engine) :
    (pool.lookup place engine).pool.Serves known bound
      ∧ ∃ cache, (pool.lookup place engine).pool.caches[(pool.lookup place engine).cache]? = some cache
        ∧ cache.Mirrors engine.store := by
  have hsound := h.sound.lookup place (h.below hknown) fun e he hid => h.distinct he hknown hid
  obtain ⟨-, -, hnotes, -⟩ := lookup_spec pool place engine
  obtain ⟨cache, hcache, -, hmirrors⟩ := hsound.made hnotes
  exact ⟨⟨h.below, h.distinct, hsound⟩, cache, hcache, hmirrors engine hknown rfl⟩

/-- Writing back what redaction left of a cache. -/
lemma Serves.setRedacted (h : pool.Serves known bound) (engine : Engine) {number : Nat} {cache : Cache}
    (hcache : pool.caches[number]? = some cache) (text : String) :
    (pool.setCache number (engine.redact cache text).2).Serves known bound :=
  ⟨h.below, h.distinct, h.sound.setCache hcache (engine.redact_owner cache text)
    fun _ hmirrors => engine.redact_mirrors hmirrors text⟩

/-- **Redaction at a place** gives what the engine makes of the text.  The very same text comes back where
no rule applies, and the pool goes on serving the same engines. -/
theorem Serves.rewriteAt (h : pool.Serves known bound) (place : Place) {engine : Engine}
    (hknown : known engine) (text : String) :
    (pool.rewriteAt place engine text).1.getD text = engine.redacted text
      ∧ (engine.store.trace text = [] → (pool.rewriteAt place engine text).1 = none)
      ∧ (pool.rewriteAt place engine text).2.2.2.Serves known bound := by
  rw [Pool.rewriteAt]
  by_cases hempty : engine.store.isEmpty
  · rw [if_pos hempty]
    exact ⟨(Engine.redacted_of_isEmpty hempty text).symm, fun _ => rfl, h⟩
  · rw [if_neg hempty]
    obtain ⟨hserves, cache, hcache, hmirrors⟩ := h.lookup place hknown
    simp only [rewriteWith, hcache]
    refine ⟨?_, fun htrace => Engine.rewrite_of_trace_eq_nil hmirrors htrace, ?_⟩
    · rw [Engine.rewrite_getD, Engine.redact_eq_redacted engine hmirrors]
    · rw [Engine.rewrite_snd]
      exact hserves.setRedacted engine hcache text

end Pool

end Redaction
