import Redaction.Proofs.Engine.Reference
import Redaction.Proofs.Session.Actions
import Redaction.Proofs.Session.Registries

/-!
# Whose cache a context gets

Contexts are copied from each other together with the registry they hold, threads run each other's
contexts, engines share stores, come and go.  Through all of this the context cache of an engine has to be
private: made for the store of that very engine, and used on one thread only.  Threads are told apart by
their names and last as long as the session.

* `Session.Sound` — what holds of every session that steps can lead to; `Session.Evolves` — what no
  number of steps undoes.
* `next_advances`, `run_advances` — one step, and any run, keeps the first and does the second.
* **`contextCache_private`** — the cache that a lookup returns belongs to the calling thread and
  mirrors the engine's store, and no later lookup that returns it is on another thread or for another
  engine.

The second half of the last statement is about two moments of a run, which an invariant alone does not
relate.  What relates them is that a note is never dropped (`Pool.Extends`) and never doubled
(`Pool.Sound.once`): both lookups end at the same note.
-/

namespace Redaction.Session

/-- An engine that the session still refers to by some name. -/
def Knows (session : Session) (engine : Engine) : Prop :=
  ∃ name, (name, engine) ∈ session.engines

/-- What holds of a session at any time: identities tell engines apart and are counted, and all that
registries note is right. -/
structure Sound (session : Session) : Prop where
  below : ∀ {engine}, session.Knows engine → engine.identity < session.nextIdentity
  distinct : ∀ {engine engine'}, session.Knows engine → session.Knows engine' →
    engine.identity = engine'.identity → engine = engine'
  pool : session.pool.Sound session.Knows session.nextIdentity

/-- What steps do not undo: notes stay, identities are not given twice, and an engine that was forgotten
does not come back. -/
structure Evolves (before after : Session) : Prop where
  pool : before.pool.Extends after.pool
  identities : before.nextIdentity ≤ after.nextIdentity
  engines : ∀ {engine}, after.Knows engine → engine.identity < before.nextIdentity →
    before.Knows engine

/-- A session that has evolved and is sound again. -/
structure Advances (before after : Session) : Prop where
  sound : after.Sound
  evolves : before.Evolves after

lemma Evolves.refl (session : Session) : session.Evolves session :=
  ⟨.refl _, Nat.le_refl _, fun h _ => h⟩

lemma Evolves.trans {first second third : Session} (h : first.Evolves second)
    (h' : second.Evolves third) : first.Evolves third :=
  ⟨h.pool.trans h'.pool, Nat.le_trans h.identities h'.identities, fun hknows hlt =>
    h.engines (h'.engines hknows (Nat.lt_of_lt_of_le hlt h.identities)) hlt⟩

lemma Sound.advances {session : Session} (h : session.Sound) : session.Advances session :=
  ⟨h, .refl session⟩

lemma Advances.trans {first second third : Session} (h : first.Advances second)
    (h' : second.Advances third) : first.Advances third :=
  ⟨h'.sound, h.evolves.trans h'.evolves⟩

/-! ## What actions are made of -/

lemma knows_of_lookup {session : Session} {name : String} {engine : Engine}
    (h : session.engines.lookup name = some engine) : session.Knows engine :=
  ⟨name, mem_of_lookup h⟩

/-- An action that only gives names, or takes them away, does no harm. -/
lemma Sound.advances_of_same {session after : Session} (h : session.Sound)
    (hpool : after.pool = session.pool) (hnext : after.nextIdentity = session.nextIdentity)
    (hknows : ∀ {engine}, after.Knows engine → session.Knows engine) : session.Advances after := by
  refine ⟨⟨fun he => hnext ▸ h.below (hknows he),
    fun he he' => h.distinct (hknows he) (hknows he'), ?_⟩, ⟨hpool ▸ .refl _, hnext ▸ Nat.le_refl _,
    fun he _ => hknows he⟩⟩
  rw [hpool]
  exact h.pool.forget (Nat.le_of_eq hnext.symm) fun e he _ => hknows he

/-- An action that changes the pool alone has to answer for the pool alone. -/
lemma Sound.advances_pool {session : Session} {pool : Pool} (h : session.Sound)
    (hpool : pool.Sound session.Knows session.nextIdentity) (hextends : session.pool.Extends pool) :
    session.Advances { session with pool } :=
  ⟨⟨h.below, h.distinct, hpool⟩, ⟨hextends, Nat.le_refl _, fun he _ => he⟩⟩

/-- One action after the other. -/
lemma advances_bind {α β : Type} {action : Action α} {further : α → Action β} {session : Session}
    (h : session.Advances (exec action session).2)
    (hfurther : ∀ a after, exec action session = (.ok a, after) → after.Sound →
      after.Advances (exec (further a) after).2) :
    session.Advances (exec (action >>= further) session).2 := by
  rcases hexec : exec action session with ⟨fault | a, after⟩
  · rw [exec_bind_error hexec]
    rw [hexec] at h
    exact h
  · rw [exec_bind_ok hexec]
    rw [hexec] at h
    exact h.trans (hfurther a after hexec h.sound)

/-- Reading the item with a name leaves the session as it is. -/
lemma exec_named_state {α : Type} (items : List (String × α)) (name : String) (session : Session) :
    (exec (named items name) session).2 = session := by
  rw [exec_named]
  cases items.lookup name <;> rfl

lemma lookup_of_exec_named {α : Type} {items : List (String × α)} {name : String}
    {session after : Session} {item : α} (h : exec (named items name) session = (.ok item, after)) :
    items.lookup name = some item ∧ after = session := by
  rw [exec_named] at h
  cases hitem : items.lookup name with
  | none => simp [hitem] at h
  | some found =>
      simp only [hitem, Prod.mk.injEq, Except.ok.injEq] at h
      exact ⟨congrArg some h.1, h.2.symm⟩

/-- Every step that names an engine goes on with one that the session knows. -/
lemma advances_engineNamed {β : Type} {name : String} {further : Engine → Action β}
    {session : Session} (h : session.Sound)
    (hfurther : ∀ engine, session.Knows engine → session.Advances (exec (further engine) session).2) :
    session.Advances (exec (engineNamed name >>= further) session).2 := by
  refine advances_bind ?_ fun engine after hexec _ => ?_
  · rw [exec_engineNamed, exec_named_state]
    exact h.advances
  · obtain ⟨hlookup, rfl⟩ := lookup_of_exec_named hexec
    exact hfurther engine (knows_of_lookup hlookup)

lemma advances_cacheNamed {β : Type} {name : String} {further : Nat → Action β}
    {session : Session} (h : session.Sound)
    (hfurther : ∀ number, session.Advances (exec (further number) session).2) :
    session.Advances (exec (cacheNamed name >>= further) session).2 := by
  refine advances_bind ?_ fun number after hexec _ => ?_
  · rw [exec_cacheNamed, exec_named_state]
    exact h.advances
  · obtain ⟨-, rfl⟩ := lookup_of_exec_named hexec
    exact hfurther number

/-! ## One lemma for each action -/

/-- A lookup for an engine that the session knows. -/
lemma contextCache_advances {session : Session} (h : session.Sound) (spot : Spot) {engine : Engine}
    (hknows : session.Knows engine) : session.Advances (exec (contextCache spot engine) session).2 := by
  rw [exec_contextCache]
  cases registryOf session spot with
  | error fault => exact h.advances
  | ok registry =>
      have hpool := h.pool.lookup ⟨spot.thread, registry⟩ (h.below hknows)
        fun e he hid => h.distinct he hknows hid
      have hextends := (Pool.lookup_spec session.pool ⟨spot.thread, registry⟩ engine).1
      refine (h.advances_pool hpool hextends).trans ?_
      exact (h.advances_pool hpool hextends).sound.advances_of_same (by simp) (by simp)
        (by simp [Knows])

/-- A new engine has an identity that no note can mention. -/
lemma addEngine_advances {session : Session} (h : session.Sound) (name : String) (store : RuleStore) :
    session.Advances (exec (addEngine name store) session).2 := by
  have hknows : ∀ {engine}, (exec (addEngine name store) session).2.Knows engine →
      engine = ⟨session.nextIdentity, store⟩ ∨ session.Knows engine := by
    rintro engine ⟨other, hmem⟩
    rcases List.mem_cons.mp hmem with hnew | hold
    · exact .inl (Prod.mk.inj hnew).2
    · exact .inr ⟨other, (List.mem_filter.mp hold).1⟩
  have hold : ∀ {engine}, (exec (addEngine name store) session).2.Knows engine →
      engine.identity < session.nextIdentity → session.Knows engine := by
    intro engine he hlt
    rcases hknows he with rfl | hold
    · exact absurd hlt (Nat.lt_irrefl _)
    · exact hold
  refine ⟨⟨fun he => ?_, fun he he' hid => ?_, ?_⟩, ⟨.refl _, Nat.le_succ _, hold⟩⟩
  · rcases hknows he with rfl | hold
    · exact Nat.lt_succ_self _
    · exact Nat.lt_succ_of_lt (h.below hold)
  · rcases hknows he with rfl | hold <;> rcases hknows he' with rfl | hold'
    · rfl
    · exact absurd (h.below hold') (hid ▸ Nat.lt_irrefl _)
    · exact absurd (h.below hold) (hid ▸ Nat.lt_irrefl _)
    · exact h.distinct hold hold' hid
  · exact h.pool.forget (Nat.le_succ _) fun e he hlt => hold he hlt

/-- Writing back a cache of the same owner and shape. -/
lemma setCache_advances {session : Session} (h : session.Sound) {number : Nat} {old cache : Cache}
    (hold : session.pool.caches[number]? = some old) (howner : cache.owner = old.owner)
    (hshape : ∀ store, old.Mirrors store → cache.Mirrors store) :
    session.Advances { session with pool := session.pool.setCache number cache } :=
  h.advances_pool (h.pool.setCache hold howner hshape) ⟨id, id⟩

/-- Redaction works on one cache and keeps its owner and shape. -/
lemma redactWith_advances {session : Session} (h : session.Sound) (engine : Engine) (number : Nat)
    (message : String) : session.Advances (exec (redactWith engine number message) session).2 := by
  show session.Advances
    { session with pool := (session.pool.redactWith engine number message).2 }
  rw [Pool.redactWith]
  cases hold : session.pool.caches[number]? with
  | none => exact h.advances
  | some old =>
      refine setCache_advances h hold ?_ fun store hmirrors => engine.redact_mirrors hmirrors message
      exact engine.redact_owner old message

/-- Calls on a handle leave its rule alone. -/
lemma runCalls_rule (handle : Handle) (calls : List Call) :
    (runCalls handle calls).2.rule = handle.rule := by
  induction calls generalizing handle with
  | nil => rfl
  | cons call rest ih =>
      cases call with
      | reset text => exact ih (handle.reset text)
      | find => exact ih handle.find.2
      | replaceAll => exact ih handle.replaceAll.2

lemma callHandle_advances {session : Session} (h : session.Sound) (number : Nat) (index : Int)
    (calls : List Call) : session.Advances (exec (callHandle number index calls) session).2 := by
  rw [callHandle, exec_bind, exec_get]
  cases hold : session.pool.caches[number]? with
  | none => simpa [hold] using h.advances
  | some old =>
      cases hplace : placeOf old.handles.length index with
      | none => simpa [hold, hplace] using h.advances
      | some place =>
          cases hhandle : old.handles[place]? with
          | none => simpa [hold, hplace, hhandle] using h.advances
          | some handle =>
              have howner : (old.setHandle place (runCalls handle calls).2).owner = old.owner := rfl
              have hset := setCache_advances h hold howner fun store hmirrors =>
                hmirrors.setHandle hhandle (runCalls_rule handle calls)
              simp only [hold, hplace, hhandle, Option.bind_some, Option.map_some]
              rw [exec_bind, exec_set]
              exact hset

/-! ## Steps and runs -/

/-- An answer that is made from the one of an action. -/
lemma advances_return {α β : Type} {action : Action α} {answer : α → β} {session : Session}
    (h : session.Advances (exec action session).2) :
    session.Advances (exec (do return answer (← action)) session).2 :=
  advances_bind h fun _ _ _ hsound => hsound.advances

lemma keep_advances {session : Session} (h : session.Sound) (name : String) (number : Nat) :
    session.Advances (exec (keep name number) session).2 :=
  h.advances_of_same rfl rfl id

lemma shown_advances {session : Session} (h : session.Sound) (number : Nat) :
    session.Advances (exec (shown number) session).2 := by
  rw [shown, exec_bind, exec_get]
  cases hcache : session.pool.caches[number]? <;> simpa [hcache] using h.advances

lemma cacheNumber_advances {session : Session} (h : session.Sound) (spot : Spot) (cache : CacheName) :
    session.Advances (exec (cacheNumber spot cache) session).2 := by
  cases cache with
  | kept name =>
      show session.Advances (exec (cacheNamed name) session).2
      rw [exec_cacheNamed, exec_named_state]
      exact h.advances
  | ofEngine name => exact advances_engineNamed h fun engine hknows => contextCache_advances h spot hknows

lemma redact_advances {session : Session} (h : session.Sound) (spot : Spot) {engine : Engine}
    (hknows : session.Knows engine) (message : String) (cache : Option String) :
    session.Advances (exec (redact spot engine message cache) session).2 := by
  cases cache with
  | some name => exact advances_cacheNamed h fun number => redactWith_advances h engine number message
  | none =>
      by_cases hempty : engine.store.isEmpty
      · simpa [redact, hempty] using h.advances
      · rw [redact, if_neg hempty]
        exact advances_bind (contextCache_advances h spot hknows) fun number after _ hsound =>
          redactWith_advances hsound engine number message

/-- **One step**, whatever it is and wherever it runs, and whether or not it fails. -/
theorem next_advances {session : Session} (h : session.Sound) (spot : Spot) (action : Step) :
    session.Advances (session.next spot action).2 := by
  show session.Advances (exec (step spot action) session).2
  cases action with
  | addEngine name store => exact advances_return (addEngine_advances h name store)
  | shareStore name other =>
      exact advances_engineNamed h fun engine _ => advances_return (addEngine_advances h name engine.store)
  | dropEngine name =>
      refine h.advances_of_same rfl rfl ?_
      rintro engine ⟨other, hmem⟩
      exact ⟨other, (List.mem_filter.mp hmem).1⟩
  | newCache name engine =>
      refine advances_engineNamed h fun engine _ => ?_
      have hadd := h.advances_pool (h.pool.addCache (.ofStore engine.store spot.thread)) ⟨id, id⟩
      have hkeep := hadd.trans (keep_advances hadd.sound name session.pool.caches.length)
      exact hkeep.trans (shown_advances hkeep.sound session.pool.caches.length)
  | keepCache name engine =>
      refine advances_engineNamed h fun engine hknows => ?_
      refine advances_bind (contextCache_advances h spot hknows) fun number after _ hsound => ?_
      exact advances_bind (keep_advances hsound name number) fun _ _ _ hkept =>
        shown_advances hkept number
  | same first second =>
      exact advances_cacheNamed h fun _ => advances_cacheNamed h fun _ => h.advances
  | redact engine message cache =>
      exact advances_engineNamed h fun engine hknows =>
        advances_return (redact_advances h spot hknows message cache)
  | look cache =>
      exact advances_bind (cacheNumber_advances h spot cache) fun number _ _ hsound =>
        shown_advances hsound number
  | callHandle cache index calls =>
      exact advances_bind (cacheNumber_advances h spot cache) fun number _ _ hsound =>
        callHandle_advances hsound number index calls
  | addContext name origin =>
      refine advances_bind ?_ fun registry after _ hsound => hsound.advances_of_same rfl rfl id
      cases origin with
      | nothing => exact h.advances
      | current =>
          show session.Advances (exec (registryAt spot) session).2
          rw [exec_registryAt]
          exact h.advances
      | context other =>
          show session.Advances (exec (named session.contexts other) session).2
          rw [exec_named_state]
          exact h.advances

/-- **Any run**, by induction on the steps. -/
theorem run_advances {session : Session} (h : session.Sound) (steps : List (Spot × Step)) :
    session.Advances (session.run steps).2 := by
  induction steps generalizing session with
  | nil => exact h.advances
  | cons first rest ih =>
      have hfirst := next_advances h first.1 first.2
      exact hfirst.trans (ih hfirst.sound)

/-- A session in which nothing has happened yet. -/
lemma sound_empty : Sound {} := by
  have hknows : ∀ {engine : Engine}, ¬ Knows {} engine := by
    rintro engine ⟨name, hmem⟩
    exact absurd hmem List.not_mem_nil
  have hnotes : ∀ {registry engine cache}, ¬ Pool.Notes {} registry engine cache := by
    rintro registry engine cache ⟨r, hr, -⟩
    simp at hr
  exact ⟨fun h => absurd h hknows, fun h => absurd h hknows, ⟨fun h => absurd h hnotes,
    fun h => absurd h hnotes, fun h => absurd h hnotes⟩⟩

lemma sound_run (steps : List (Spot × Step)) : (run {} steps).2.Sound :=
  (run_advances sound_empty steps).sound

/-! ## Lookups -/

/-- Asking for the context cache of a known engine at a spot gives a cache, by its number, and leaves the
session `after`. -/
structure LooksUp (session : Session) (spot : Spot) (engine : Engine) (number : Nat)
    (after : Session) : Prop where
  knows : session.Knows engine
  answer : exec (contextCache spot engine) session = (.ok number, after)

/-- The context of a spot has been made; the one that a thread has of its own always has. -/
def Has (session : Session) (spot : Spot) : Prop :=
  ∀ name, spot.context = some name → (session.contexts.lookup name).isSome

lemma exists_registryOf {session : Session} {spot : Spot} (h : session.Has spot) :
    ∃ registry, registryOf session spot = .ok registry := by
  rw [registryOf]
  cases hcontext : spot.context with
  | none => exact ⟨_, rfl⟩
  | some name =>
      obtain ⟨registry, hregistry⟩ := Option.isSome_iff_exists.mp (h name hcontext)
      exact ⟨registry, by simp only [hregistry]⟩

/-- A lookup fails only in a context that was never made. -/
lemma exists_looksUp {session : Session} {spot : Spot} {engine : Engine} (hspot : session.Has spot)
    (hknows : session.Knows engine) : ∃ number after, session.LooksUp spot engine number after := by
  obtain ⟨registry, hregistry⟩ := exists_registryOf hspot
  exact ⟨_, _, hknows, by rw [exec_contextCache, hregistry]⟩

/-- **A lookup ends at a note** of a registry of the calling thread. -/
lemma LooksUp.notes {session after : Session} {spot : Spot} {engine : Engine} {number : Nat}
    (h : session.LooksUp spot engine number after) :
    after.engines = session.engines
      ∧ ∃ registry, after.pool.Notes registry engine.identity number
        ∧ after.pool.ownerOf registry = some spot.thread := by
  have hanswer := h.answer
  rw [exec_contextCache] at hanswer
  cases hregistry : registryOf session spot with
  | error fault => simp [hregistry] at hanswer
  | ok held =>
      simp only [hregistry, Prod.mk.injEq, Except.ok.injEq] at hanswer
      obtain ⟨rfl, rfl⟩ := hanswer
      obtain ⟨-, howner, hnotes, -⟩ :=
        Pool.lookup_spec session.pool ⟨spot.thread, held⟩ engine
      exact ⟨by simp, _, by simpa using hnotes, by simpa using howner⟩

lemma LooksUp.advances {session after : Session} {spot : Spot} {engine : Engine} {number : Nat}
    (h : session.LooksUp spot engine number after) (hsound : session.Sound) :
    session.Advances after := by
  have hadvances := contextCache_advances hsound spot h.knows
  rwa [h.answer] at hadvances

/-- What a lookup returns is a cache of the calling thread and of the engine's shape. -/
lemma LooksUp.cache {session after : Session} {spot : Spot} {engine : Engine} {number : Nat}
    (h : session.LooksUp spot engine number after) (hsound : session.Sound) :
    ∃ cache, after.pool.caches[number]? = some cache ∧ cache.owner = spot.thread
      ∧ cache.Mirrors engine.store := by
  obtain ⟨hengines, registry, hnotes, howner⟩ := h.notes
  obtain ⟨cache, hcache, hof, hmirrors⟩ := (h.advances hsound).sound.pool.made hnotes
  have hknows : after.Knows engine := by
    obtain ⟨name, hname⟩ := h.knows
    exact ⟨name, hengines ▸ hname⟩
  exact ⟨cache, hcache, Option.some.inj (hof.symm.trans howner), hmirrors engine hknows rfl⟩

/-- Two lookups that return the same cache, with any steps between them, are on the same thread and for
the same engine. -/
lemma LooksUp.same {session middle after : Session} {spot spot' : Spot} {engine engine' : Engine}
    {number : Nat} (h : session.LooksUp spot engine number middle) (hsound : session.Sound)
    (steps : List (Spot × Step))
    (h' : (middle.run steps).2.LooksUp spot' engine' number after) :
    spot'.thread = spot.thread ∧ engine' = engine := by
  have hfirst : session.Advances middle := h.advances hsound
  have hbetween : middle.Advances (middle.run steps).2 := run_advances hfirst.sound steps
  have hlast : (middle.run steps).2.Advances after := h'.advances hbetween.sound
  have hlater : middle.Advances after := hbetween.trans hlast
  obtain ⟨-, registry, hnotes, howner⟩ := h.notes
  obtain ⟨-, registry', hnotes', howner'⟩ := h'.notes
  -- the first note is still there, and a cache is noted only once
  obtain ⟨rfl, hidentity⟩ := hlater.sound.pool.once (hlater.evolves.pool.notes hnotes) hnotes'
  have hthread : spot.thread = spot'.thread :=
    Option.some.inj ((hlater.evolves.pool.owner howner).symm.trans howner')
  -- an engine with an identity given before the first lookup was known then
  have hknown : session.Knows engine' :=
    (hfirst.trans hbetween).evolves.engines h'.knows (hidentity ▸ hsound.below h.knows)
  exact ⟨hthread.symm, hsound.distinct hknown h.knows hidentity.symm⟩

/-! ## The result -/

/-- **Context caches are private.**  After any steps, asking for the context cache of an engine that is
still referenced, in a context that has been made, gives a cache of the calling thread that mirrors the
engine's store.  Whatever is done then, a lookup that returns this cache again runs on the same thread
and asks for the same engine.

A thread is known by its name, as the library knows it by its number.  No step ends a thread, so that a name
is never given to a second one. -/
theorem contextCache_private (steps : List (Spot × Step)) (spot : Spot) (engine : Engine)
    (hspot : (run {} steps).2.Has spot) (hknows : (run {} steps).2.Knows engine) :
    ∃ number after, (run {} steps).2.LooksUp spot engine number after
      ∧ (∃ cache, after.pool.caches[number]? = some cache ∧ cache.owner = spot.thread
        ∧ cache.Mirrors engine.store)
      ∧ ∀ (further : List (Spot × Step)) (spot' : Spot) (engine' : Engine) (last : Session),
        (after.run further).2.LooksUp spot' engine' number last →
          spot'.thread = spot.thread ∧ engine' = engine := by
  obtain ⟨number, after, hlook⟩ := exists_looksUp hspot hknows
  refine ⟨number, after, hlook, hlook.cache (sound_run steps), ?_⟩
  intro further spot' engine' last hlast
  exact hlook.same (sound_run steps) further hlast

/-- A store with two rules, each under a trigger of its own. -/
def lettersStore : RuleStore :=
  .ofRules [.ofChar "" 'a' "b", .ofChar "c" 'c' "d"]

/-- Two engines on one store, and a context that is copied after both of them have been used in it. -/
def sharedSteps : List (Spot × Step) :=
  [({}, .addEngine "first" lettersStore), ({}, .shareStore "second" "first"),
    ({}, .addContext "request" .nothing), ({ context := "request" }, .look (.ofEngine "first")),
    ({ context := "request" }, .look (.ofEngine "second")),
    ({}, .addContext "copy" (.context "request"))]

/-- The copy brings the caches of its original along, and a worker thread that runs in it gets one of its
own. -/
theorem contextCache_copied_to_worker :
    (run {} sharedSteps).2.Has ⟨"copy", "worker"⟩
      ∧ (run {} sharedSteps).2.Knows ⟨1, lettersStore⟩
      ∧ ∃ number after, (run {} sharedSteps).2.LooksUp ⟨"copy", "worker"⟩ ⟨1, lettersStore⟩ number after
        ∧ (∃ cache, after.pool.caches[number]? = some cache ∧ cache.owner = "worker"
          ∧ cache.Mirrors lettersStore)
        ∧ ∀ (further : List (Spot × Step)) (spot' : Spot) (engine' : Engine) (last : Session),
          (after.run further).2.LooksUp spot' engine' number last →
            spot'.thread = "worker" ∧ engine' = ⟨1, lettersStore⟩ := by
  have hspot : (run {} sharedSteps).2.Has ⟨"copy", "worker"⟩ := by
    rintro name ⟨⟩
    decide
  have hsecond : (run {} sharedSteps).2.engines.lookup "second" = some ⟨1, lettersStore⟩ := rfl
  have hknows : (run {} sharedSteps).2.Knows ⟨1, lettersStore⟩ := knows_of_lookup hsecond
  exact ⟨hspot, hknows, contextCache_private sharedSteps ⟨"copy", "worker"⟩ ⟨1, lettersStore⟩ hspot hknows⟩

end Redaction.Session
