import Redaction.Engine.Pool
import Redaction.Proofs.Engine.Mirror

/-!
# What registries note

A registry is shared by all contexts that were copied while one of them held it, and it is filled as
engines are used.  Nothing in a registry says *why* an entry is right: it notes the number of a cache
under the identity of an engine, and the cache itself lives elsewhere and is worked on all the time.  The
invariant that makes an entry right has to be kept by every operation on the pool.

* `Pool.Notes` — a registry notes a cache for an engine.
* **`Pool.Sound`** — every noted cache belongs to the thread of the registry, mirrors the store of its
  engine, and is noted nowhere else.
* `Pool.Extends` — nothing that was noted is ever dropped, and no registry changes hands.
* **`lookup_spec`** — everything that a lookup can do; `Sound.lookup` and `Sound.setCache` derive from
  it, and from nothing else, that the invariant lasts.
-/

namespace Redaction

/-- What is looked up in a list of pairs is one of them. -/
lemma mem_of_lookup {α β : Type} [BEq α] [LawfulBEq α] {key : α} {found : β} {pairs : List (α × β)}
    (h : pairs.lookup key = some found) : (key, found) ∈ pairs := by
  obtain ⟨before, after, rfl, -⟩ := List.lookup_eq_some_iff.mp h
  exact List.mem_append_right _ List.mem_cons_self

/-- Taking out what stands under one key leaves what is found under the others. -/
lemma lookup_filter_of_ne {α β : Type} [DecidableEq α] {key other : α} (h : other ≠ key)
    (pairs : List (α × β)) :
    (pairs.filter fun (name, _) => name ≠ key).lookup other = pairs.lookup other := by
  induction pairs with
  | nil => rfl
  | cons first rest ih =>
      obtain ⟨name, item⟩ := first
      rw [List.filter_cons, List.lookup_cons, ← ih]
      by_cases hname : name = key
      · simp [hname, beq_false_of_ne h]
      · simp [hname, List.lookup_cons]

namespace Pool

/-- A registry notes a cache for the engine with an identity. -/
def Notes (pool : Pool) (registry engine cache : Nat) : Prop :=
  ∃ r, pool.registries[registry]? = some r ∧ (engine, cache) ∈ r.caches

/-- The thread that a registry belongs to. -/
def ownerOf (pool : Pool) (registry : Nat) : Option Thread :=
  pool.registries[registry]?.map (·.owner)

/-- What is noted is right.  `known` are the engines that are still referenced, and all identities given
so far are below `bound`: an engine that is no longer known may keep its notes, but its identity goes to
no other one. -/
structure Sound (pool : Pool) (known : Engine → Prop) (bound : Nat) : Prop where
  below : ∀ {registry engine cache}, pool.Notes registry engine cache → engine < bound
  made : ∀ {registry engine number}, pool.Notes registry engine number →
    ∃ cache, pool.caches[number]? = some cache ∧ pool.ownerOf registry = some cache.owner ∧
      ∀ e, known e → e.identity = engine → cache.Mirrors e.store
  once : ∀ {registry engine registry' engine' cache}, pool.Notes registry engine cache →
    pool.Notes registry' engine' cache → registry = registry' ∧ engine = engine'

/-- A pool that may have grown: registries keep their owners and what they note. -/
structure Extends (before after : Pool) : Prop where
  notes : ∀ {registry engine cache}, before.Notes registry engine cache →
    after.Notes registry engine cache
  owner : ∀ {registry owner}, before.ownerOf registry = some owner →
    after.ownerOf registry = some owner

lemma Extends.refl (pool : Pool) : pool.Extends pool :=
  ⟨id, id⟩

lemma Extends.trans {first second third : Pool} (h : first.Extends second)
    (h' : second.Extends third) : first.Extends third :=
  ⟨fun hnotes => h'.notes (h.notes hnotes), fun howner => h'.owner (h.owner howner)⟩

/-! ## Making registries and notes -/

lemma addRegistry_notes {pool : Pool} {thread : Thread} {registry engine cache : Nat} :
    (pool.addRegistry thread).2.Notes registry engine cache ↔ pool.Notes registry engine cache := by
  simp only [Notes, addRegistry, List.getElem?_append]
  by_cases hlt : registry < pool.registries.length
  · simp [hlt]
  · -- the new registry stands at the end and notes nothing
    have hnone : pool.registries[registry]? = none := List.getElem?_eq_none (by omega)
    simp only [hlt, if_false, hnone]
    by_cases heq : registry - pool.registries.length = 0 <;> simp [heq]

lemma addRegistry_owner {pool : Pool} {thread owner : Thread} {registry : Nat}
    (h : pool.ownerOf registry = some owner) :
    (pool.addRegistry thread).2.ownerOf registry = some owner := by
  obtain ⟨r, hr, howner⟩ := Option.map_eq_some_iff.mp h
  have hlt : registry < pool.registries.length := (List.getElem?_eq_some_iff.mp hr).1
  rw [ownerOf, addRegistry]
  simp only [List.getElem?_append_left hlt, hr, Option.map_some, howner]

lemma addRegistry_owner_new (pool : Pool) (thread : Thread) :
    (pool.addRegistry thread).2.ownerOf (pool.addRegistry thread).1 = some thread := by
  simp [ownerOf, addRegistry]

/-- The registry at a place belongs to the thread of the place; a new one notes nothing. -/
lemma registryAt_spec (pool : Pool) (place : Place) :
    (pool.registryAt place).2.caches = pool.caches
      ∧ (pool.registryAt place).2.ownerOf (pool.registryAt place).1 = some place.thread
      ∧ pool.Extends (pool.registryAt place).2
      ∧ ∀ {registry engine cache}, (pool.registryAt place).2.Notes registry engine cache →
        pool.Notes registry engine cache := by
  have hnew : (pool.addRegistry place.thread).2.caches = pool.caches
      ∧ (pool.addRegistry place.thread).2.ownerOf (pool.addRegistry place.thread).1
        = some place.thread
      ∧ pool.Extends (pool.addRegistry place.thread).2
      ∧ ∀ {registry engine cache}, (pool.addRegistry place.thread).2.Notes registry engine cache →
        pool.Notes registry engine cache :=
    ⟨rfl, addRegistry_owner_new pool place.thread, ⟨addRegistry_notes.mpr, addRegistry_owner⟩,
      addRegistry_notes.mp⟩
  rw [registryAt]
  cases hplace : place.registry with
  | none => exact hnew
  | some number =>
      cases hr : pool.registries[number]? with
      | none => simpa only [hr] using hnew
      | some registry =>
          by_cases howner : registry.owner = place.thread
          · simp only [hr, howner, if_true]
            exact ⟨trivial, by simp [ownerOf, hr, howner], Extends.refl pool, id⟩
          · simpa only [hr, howner, if_false] using hnew

/-- A place whose context holds a registry of its own thread uses that one. -/
lemma registryAt_of_owner {pool : Pool} {thread : Thread} {held : Nat}
    (h : pool.ownerOf held = some thread) : pool.registryAt ⟨thread, some held⟩ = (held, pool) := by
  obtain ⟨r, hr, howner⟩ := Option.map_eq_some_iff.mp h
  simp only [registryAt, hr, howner, if_true]

/-- A note is added to what was noted before. -/
lemma note_notes {pool : Pool} {target e k registry engine cache : Nat}
    (htarget : target < pool.registries.length) :
    (pool.note target e k).Notes registry engine cache ↔
      pool.Notes registry engine cache ∨ (registry = target ∧ engine = e ∧ cache = k) := by
  simp only [Notes, note, List.getElem?_modify]
  by_cases heq : target = registry
  · subst heq
    simp only [List.getElem?_eq_getElem htarget, if_true]
    constructor
    · rintro ⟨r, hr, hmem⟩
      simp only [Option.map_eq_map, Option.map_some, Option.some.injEq] at hr
      subst hr
      rcases List.mem_cons.mp hmem with hnew | hold
      · exact .inr ⟨trivial, Prod.mk.inj hnew⟩
      · exact .inl ⟨_, rfl, hold⟩
    · rintro (⟨r, hr, hmem⟩ | ⟨-, rfl, rfl⟩)
      · exact ⟨_, rfl, List.mem_cons_of_mem _ (Option.some.inj hr ▸ hmem)⟩
      · exact ⟨_, rfl, List.mem_cons_self⟩
  · have hne : registry ≠ target := fun h => heq h.symm
    simp [heq, hne]

lemma note_owner (pool : Pool) (target e k registry : Nat) :
    (pool.note target e k).ownerOf registry = pool.ownerOf registry := by
  simp only [ownerOf, note, List.getElem?_modify]
  by_cases heq : target = registry
  · simp [heq, Function.comp_def]
  · simp [heq]

/-- What a registry answers for an engine is something that it notes. -/
lemma notes_of_cacheIn? {pool : Pool} {registry engine cache : Nat}
    (h : pool.cacheIn? registry engine = some cache) : pool.Notes registry engine cache := by
  obtain ⟨r, hr, hlookup⟩ := Option.bind_eq_some_iff.mp h
  exact ⟨r, hr, mem_of_lookup hlookup⟩

/-! ## Lookups -/

/-- **Everything that a lookup can do.**  It ends at a registry of the calling thread that notes the
answer for the engine.  Either all that is noted was noted before, and no cache was made; or the answer is
a fresh cache for the engine's store, and this is the one new note. -/
theorem lookup_spec (pool : Pool) (place : Place) (engine : Engine) :
    pool.Extends (pool.lookup place engine).pool
      ∧ (pool.lookup place engine).pool.ownerOf (pool.lookup place engine).registry
        = some place.thread
      ∧ (pool.lookup place engine).pool.Notes (pool.lookup place engine).registry engine.identity
        (pool.lookup place engine).cache
      ∧ ((pool.lookup place engine).pool.caches = pool.caches
          ∧ (∀ {r e k}, (pool.lookup place engine).pool.Notes r e k → pool.Notes r e k)
        ∨ (pool.lookup place engine).cache = pool.caches.length
          ∧ (pool.lookup place engine).pool.caches
            = pool.caches ++ [Cache.ofStore engine.store place.thread]
          ∧ ∀ {r e k}, (pool.lookup place engine).pool.Notes r e k → pool.Notes r e k ∨
            (r = (pool.lookup place engine).registry ∧ e = engine.identity
              ∧ k = (pool.lookup place engine).cache)) := by
  obtain ⟨hcaches, howner, hextends, hnotes⟩ := registryAt_spec pool place
  generalize hat : pool.registryAt place = found at hcaches howner hextends hnotes
  obtain ⟨number, mid⟩ := found
  simp only at hcaches howner hextends hnotes
  have hlt : number < mid.registries.length := by
    obtain ⟨r, hr, -⟩ := Option.map_eq_some_iff.mp howner
    exact (List.getElem?_eq_some_iff.mp hr).1
  cases hcache : mid.cacheIn? number engine.identity with
  | some cache =>
      have hlookup : pool.lookup place engine = ⟨cache, number, false, mid⟩ := by
        simp [lookup, hat, hcache]
      rw [hlookup]
      exact ⟨hextends, howner, notes_of_cacheIn? hcache, .inl ⟨hcaches, hnotes⟩⟩
  | none =>
      have hlookup : pool.lookup place engine
          = ⟨mid.caches.length, number, true,
            (mid.addCache (.ofStore engine.store place.thread)).2.note number engine.identity
              mid.caches.length⟩ := by
        simp [lookup, hat, hcache, addCache]
      have hnote : ∀ {r e k},
          ((mid.addCache (.ofStore engine.store place.thread)).2.note number engine.identity
            mid.caches.length).Notes r e k ↔
          mid.Notes r e k ∨ (r = number ∧ e = engine.identity ∧ k = mid.caches.length) :=
        note_notes hlt
      rw [hlookup]
      refine ⟨hextends.trans ⟨fun h => hnote.mpr (.inl h), fun h => ?_⟩, ?_,
        hnote.mpr (.inr ⟨rfl, rfl, rfl⟩), .inr ⟨by rw [hcaches], ?_, ?_⟩⟩
      · rw [note_owner]
        exact h
      · rw [note_owner]
        exact howner
      · simp [note, addCache, hcaches]
      · intro r e k h
        rcases hnote.mp h with hold | hnew
        · exact .inl (hnotes hold)
        · exact .inr hnew

/-! ## The invariant lasts -/

section
variable {pool : Pool} {known : Engine → Prop} {bound : Nat}

/-- The cache of a note is one of the pool. -/
lemma Sound.lt (h : pool.Sound known bound) {registry engine cache : Nat}
    (hnotes : pool.Notes registry engine cache) : cache < pool.caches.length := by
  obtain ⟨_, hcache, -⟩ := h.made hnotes
  exact (List.getElem?_eq_some_iff.mp hcache).1

/-- A lookup for a known engine keeps the invariant, as long as identities tell known engines apart. -/
theorem Sound.lookup (h : pool.Sound known bound) (place : Place) {engine : Engine}
    (hbound : engine.identity < bound)
    (hdistinct : ∀ e, known e → e.identity = engine.identity → e = engine) :
    (pool.lookup place engine).pool.Sound known bound := by
  obtain ⟨hextends, howner, -, hcases⟩ := lookup_spec pool place engine
  rcases hcases with ⟨hcaches, hold⟩ | ⟨hnumber, hcaches, hnew⟩
  · refine ⟨fun hn => h.below (hold hn), fun hn => ?_, fun hn hn' => h.once (hold hn) (hold hn')⟩
    obtain ⟨cache, hcache, hof, hmirrors⟩ := h.made (hold hn)
    exact ⟨cache, hcaches ▸ hcache, hextends.owner hof, hmirrors⟩
  · constructor
    · intro registry e cache hn
      rcases hnew hn with hold | ⟨-, rfl, -⟩
      · exact h.below hold
      · exact hbound
    · intro registry e number hn
      rw [hcaches]
      rcases hnew hn with hold | ⟨rfl, rfl, rfl⟩
      · obtain ⟨cache, hcache, hof, hmirrors⟩ := h.made hold
        exact ⟨cache, by rw [List.getElem?_append_left (h.lt hold), hcache], hextends.owner hof,
          hmirrors⟩
      · refine ⟨Cache.ofStore engine.store place.thread, by simp [hnumber], howner, ?_⟩
        intro e he hidentity
        rw [hdistinct e he hidentity]
        exact Cache.ofStore_mirrors engine.store place.thread
    · -- a fresh number is noted nowhere else, for all noted numbers are below it
      intro registry e registry' e' cache hn hn'
      rcases hnew hn with hold | ⟨rfl, rfl, rfl⟩ <;> rcases hnew hn' with hold' | ⟨rfl, rfl, hk⟩
      · exact h.once hold hold'
      · exact absurd (h.lt hold) (by omega)
      · exact absurd (h.lt hold') (by omega)
      · exact ⟨rfl, rfl⟩

/-- A cache may be replaced by one with the same owner and shape. -/
theorem Sound.setCache (h : pool.Sound known bound) {number : Nat} {old cache : Cache}
    (hold : pool.caches[number]? = some old) (howner : cache.owner = old.owner)
    (hshape : ∀ store, old.Mirrors store → cache.Mirrors store) :
    (pool.setCache number cache).Sound known bound := by
  refine ⟨h.below, fun {registry engine k} hn => ?_, h.once⟩
  obtain ⟨found, hfound, hof, hmirrors⟩ := h.made hn
  by_cases heq : number = k
  · subst heq
    have hsame : old = found := Option.some.inj (hold.symm.trans hfound)
    subst hsame
    refine ⟨cache, ?_, howner ▸ hof, fun e he hid => hshape _ (hmirrors e he hid)⟩
    simp [Pool.setCache, (List.getElem?_eq_some_iff.mp hold).1]
  · exact ⟨found, by simp [Pool.setCache, heq, hfound], hof, hmirrors⟩

/-- A cache that is noted nowhere may be added. -/
theorem Sound.addCache (h : pool.Sound known bound) (cache : Cache) :
    (pool.addCache cache).2.Sound known bound := by
  refine ⟨h.below, fun hn => ?_, h.once⟩
  obtain ⟨found, hfound, hof, hmirrors⟩ := h.made hn
  exact ⟨found, by rw [Pool.addCache, List.getElem?_append_left (h.lt hn), hfound], hof, hmirrors⟩

/-- Engines may be forgotten, and new ones may be known under identities that were not given before. -/
theorem Sound.forget (h : pool.Sound known bound) {known' : Engine → Prop} {bound' : Nat}
    (hbound : bound ≤ bound') (hknown : ∀ e, known' e → e.identity < bound → known e) :
    pool.Sound known' bound' := by
  refine ⟨fun hn => Nat.lt_of_lt_of_le (h.below hn) hbound, fun hn => ?_, h.once⟩
  obtain ⟨cache, hcache, hof, hmirrors⟩ := h.made hn
  exact ⟨cache, hcache, hof, fun e he hid => hmirrors e (hknown e he (hid ▸ h.below hn)) hid⟩

end

end Pool

end Redaction
