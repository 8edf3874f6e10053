import Redaction.Proofs.Session.ContextCaches

/-!
# How long a context keeps its cache

The registry that a context holds is not its own: copies of the context hold the same one, each thread that
runs in a copy may replace it there, and all of them write to it.  That a context gets the same cache for an
engine time after time is therefore a statement about everything else that goes on.  It holds because a
registry is only ever added to, under a key that it does not have yet, and because whoever may not use it
replaces it in one context and leaves the registry itself alone.

* `lookedUp`, `remade` — the engine whose context cache a step looks up, and the context that it makes.
* `holdings` — the registries, and which of them is held where; **`next_of_lookedUp`** and
  **`next_of_not_lookedUp`** say all that a step can do to them.
* `Memoises` — what makes a lookup answer with a certain cache; `Memoises.next` and `Memoises.run` say what it
  survives.
* `Installs` — a new registry is put into one context.
* **`contextCache_lasts`** — a lookup answers as it did, whatever is done in the meantime, unless another thread
  has looked up a cache in that very context.
-/

namespace Redaction

/-! ## Lookups and what is noted -/

namespace Pool

lemma ownerOf_congr {pool pool' : Pool} (h : pool'.registries = pool.registries) (registry : Nat) :
    pool'.ownerOf registry = pool.ownerOf registry := by
  rw [ownerOf, ownerOf, h]

lemma cacheIn?_congr {pool pool' : Pool} (h : pool'.registries = pool.registries) (registry engine : Nat) :
    pool'.cacheIn? registry engine = pool.cacheIn? registry engine := by
  rw [cacheIn?, cacheIn?, h]

/-- A registry of another thread is as good as none. -/
lemma registryAt_of_foreign {pool : Pool} {place : Place}
    (h : ∀ held ∈ place.registry, pool.ownerOf held ≠ some place.thread) :
    pool.registryAt place = pool.addRegistry place.thread := by
  rw [registryAt]
  cases hplace : place.registry with
  | none => rfl
  | some held =>
      cases hr : pool.registries[held]? with
      | none => simp only [hr]
      | some r =>
          have howner : r.owner ≠ place.thread := by simpa [ownerOf, hr] using h held hplace
          simp only [hr, howner, if_false]

/-- A new registry answers nothing, and so does one that is not there. -/
lemma addRegistry_cacheIn? (pool : Pool) (thread : Thread) (registry engine : Nat) :
    (pool.addRegistry thread).2.cacheIn? registry engine = pool.cacheIn? registry engine := by
  simp only [cacheIn?, addRegistry, List.getElem?_append]
  by_cases hlt : registry < pool.registries.length
  · simp [hlt]
  · have hnone : pool.registries[registry]? = none := List.getElem?_eq_none (by omega)
    simp only [hlt, if_false, hnone]
    by_cases hfirst : registry - pool.registries.length = 0 <;> simp [hfirst]

lemma note_cacheIn?_self {pool : Pool} {target : Nat} (h : target < pool.registries.length)
    (engine number : Nat) : (pool.note target engine number).cacheIn? target engine = some number := by
  simp [cacheIn?, note, List.getElem?_eq_getElem h]

/-- A note under one key does not hide what is noted under others. -/
lemma note_cacheIn?_of_ne {pool : Pool} {target engine registry other : Nat}
    (h : registry = target → other ≠ engine) (number : Nat) :
    (pool.note target engine number).cacheIn? registry other = pool.cacheIn? registry other := by
  simp only [cacheIn?, note, List.getElem?_modify]
  by_cases htarget : target = registry
  · have hother : (other == engine) = false := beq_false_of_ne (h htarget.symm)
    cases pool.registries[registry]? <;> simp [htarget, List.lookup_cons, hother]
  · simp [htarget]

/-- A lookup goes on from the registry that it uses. -/
lemma lookup_eq (pool : Pool) (place : Place) (engine : Engine) :
    pool.lookup place engine
      = match (pool.registryAt place).2.cacheIn? (pool.registryAt place).1 engine.identity with
        | some number => ⟨number, (pool.registryAt place).1, false, (pool.registryAt place).2⟩
        | none => ⟨pool.caches.length, (pool.registryAt place).1, true,
            ((pool.registryAt place).2.addCache (.ofStore engine.store place.thread)).2.note
              (pool.registryAt place).1 engine.identity pool.caches.length⟩ := by
  have hcaches := (pool.registryAt_spec place).1
  rw [lookup]
  cases hnoted : (pool.registryAt place).2.cacheIn? (pool.registryAt place).1 engine.identity with
  | some number => simp only [hnoted]
  | none => simp only [hnoted, addCache, hcaches]

/-- Where its own registry has an answer, a lookup gives that and changes nothing. -/
lemma lookup_of_cacheIn? {pool : Pool} {thread : Thread} {held number : Nat} {engine : Engine}
    (howner : pool.ownerOf held = some thread) (h : pool.cacheIn? held engine.identity = some number) :
    pool.lookup ⟨thread, some held⟩ engine = ⟨number, held, false, pool⟩ := by
  rw [lookup_eq, registryAt_of_owner howner, h]

lemma lookup_registry (pool : Pool) (place : Place) (engine : Engine) :
    (pool.lookup place engine).registry = (pool.registryAt place).1 := by
  rw [lookup_eq]
  split <;> rfl

lemma registryAt_cacheIn? (pool : Pool) (place : Place) (registry engine : Nat) :
    (pool.registryAt place).2.cacheIn? registry engine = pool.cacheIn? registry engine := by
  obtain ⟨thread, held⟩ := place
  by_cases hown : ∃ number ∈ held, pool.ownerOf number = some thread
  · obtain ⟨number, rfl, howner⟩ := hown
    rw [registryAt_of_owner howner]
  · rw [registryAt_of_foreign fun number hheld howner => hown ⟨number, hheld, howner⟩,
      addRegistry_cacheIn?]

/-- **No lookup displaces an answer**, wherever it is made and for whichever engine. -/
theorem lookup_cacheIn? {pool : Pool} {registry key number : Nat}
    (h : pool.cacheIn? registry key = some number) (place : Place) (engine : Engine) :
    (pool.lookup place engine).pool.cacheIn? registry key = some number := by
  rw [← registryAt_cacheIn? pool place] at h
  rw [lookup_eq]
  cases hnoted : (pool.registryAt place).2.cacheIn? (pool.registryAt place).1 engine.identity with
  | some found => exact h
  | none =>
      -- a note is made only under a key that had no answer
      have hother : registry = (pool.registryAt place).1 → key ≠ engine.identity := by
        rintro rfl rfl
        exact absurd (hnoted.symm.trans h) (Option.some_ne_none number).symm
      exact (note_cacheIn?_of_ne hother _).trans h

/-- What a lookup answers is what its registry answers from then on. -/
theorem lookup_answer (pool : Pool) (place : Place) (engine : Engine) :
    (pool.lookup place engine).pool.cacheIn? (pool.lookup place engine).registry engine.identity
      = some (pool.lookup place engine).cache := by
  obtain ⟨-, howner, -, -⟩ := registryAt_spec pool place
  obtain ⟨r, hr, -⟩ := Option.map_eq_some_iff.mp howner
  rw [lookup_eq]
  cases hnoted : (pool.registryAt place).2.cacheIn? (pool.registryAt place).1 engine.identity with
  | some number => exact hnoted
  | none => exact note_cacheIn?_self (List.getElem?_eq_some_iff.mp hr).1 _ _

/-- Where the calling thread has no registry, a lookup adds one, with the new cache as its only note. -/
lemma lookup_of_foreign (pool : Pool) (place : Place) (engine : Engine)
    (h : ∀ held ∈ place.registry, pool.ownerOf held ≠ some place.thread) :
    (pool.lookup place engine).registry = pool.registries.length
      ∧ (pool.lookup place engine).pool.registries
        = pool.registries ++ [⟨place.thread, [(engine.identity, pool.caches.length)]⟩] := by
  have hnone : pool.cacheIn? pool.registries.length engine.identity = none := by
    simp [cacheIn?]
  rw [← addRegistry_cacheIn? pool place.thread] at hnone
  rw [lookup_eq, registryAt_of_foreign h]
  simp only [show (pool.addRegistry place.thread).1 = pool.registries.length from rfl, hnone]
  refine ⟨trivial, ?_⟩
  show (pool.registries ++ [_]).modify pool.registries.length _ = _
  rw [List.modify_eq_take_cons_drop (by simp)]
  simp

end Pool

namespace Session

/-! ## Contexts -/

/-- What tells contexts apart: one that was made goes by its name, and each thread has one of its own. -/
inductive ContextKey
  | made (name : String)
  | own (thread : Thread)
deriving Repr, DecidableEq

/-- The context that a spot is in. -/
def Spot.contextKey (spot : Spot) : ContextKey :=
  match spot.context with
  | some name => .made name
  | none => .own spot.thread

@[simp] lemma lookup_put {α : Type} (name : String) (item : α) (items : List (String × α)) :
    (put name item items).lookup name = some item := by
  simp [put]

lemma lookup_put_of_ne {α : Type} {name other : String} (h : other ≠ name) (item : α)
    (items : List (String × α)) : (put name item items).lookup other = items.lookup other := by
  rw [put, List.lookup_cons, beq_false_of_ne h]
  exact lookup_filter_of_ne h items

/-- Spots in the same context see the same registry. -/
lemma registryOf_of_contextKey {spot place : Spot} (h : place.contextKey = spot.contextKey)
    (session : Session) : registryOf session place = registryOf session spot := by
  obtain ⟨context, thread⟩ := spot
  obtain ⟨context', thread'⟩ := place
  cases context <;> cases context' <;> simp_all [Spot.contextKey, registryOf]

/-- A context that is made to hold a registry holds it. -/
lemma registryOf_holding (session : Session) (spot : Spot) (registry : Nat) :
    registryOf (session.holding spot registry) spot = .ok (some registry) := by
  obtain ⟨context, thread⟩ := spot
  cases context <;> simp [holding, registryOf]

/-- The other contexts hold what they held. -/
lemma registryOf_holding_of_ne {spot place : Spot} (h : place.contextKey ≠ spot.contextKey)
    (session : Session) (registry : Nat) :
    registryOf (session.holding spot registry) place = registryOf session place := by
  obtain ⟨context, thread⟩ := spot
  obtain ⟨context', thread'⟩ := place
  cases context with
  | none =>
      cases context' with
      | none =>
          have hne : thread' ≠ thread := fun heq => h (congrArg ContextKey.own heq)
          simp [holding, registryOf, lookup_put_of_ne hne]
      | some name' => rfl
  | some name =>
      cases context' with
      | none => rfl
      | some name' =>
          have hne : name' ≠ name := fun heq => h (congrArg ContextKey.made heq)
          simp [holding, registryOf, lookup_put_of_ne hne]

/-! ## What a step does to registries -/

/-- The registries, and who holds which of them. -/
structure Holdings where
  registries : List Registry
  contexts : List (String × Option Nat)
  threads : List (Thread × Option Nat)

/-- What lookups go by in a session. -/
def holdings (session : Session) : Holdings :=
  ⟨session.pool.registries, session.contexts, session.threads⟩

section
variable {before after : Session}

lemma registryOf_of_holdings (h : after.holdings = before.holdings) (spot : Spot) :
    registryOf after spot = registryOf before spot := by
  have hcontexts : after.contexts = before.contexts := congrArg Holdings.contexts h
  have hthreads : after.threads = before.threads := congrArg Holdings.threads h
  simp only [registryOf, hcontexts, hthreads]

end

/-- The engine whose context cache a step looks up.  A named cache is not looked up in a context, and an
engine without rules redacts without any. -/
def lookedUp (session : Session) : Step → Option Engine
  | .keepCache _ engine => session.engines.lookup engine
  | .look (.ofEngine engine) => session.engines.lookup engine
  | .callHandle (.ofEngine engine) _ _ => session.engines.lookup engine
  | .redact engine _ none => (session.engines.lookup engine).filter fun engine => !engine.store.isEmpty
  | _ => none

/-- The context that a step makes.  It takes the place of the one that had its name. -/
def remade (session : Session) (spot : Spot) : Step → Option ContextKey
  | .addContext name origin =>
    if (session.next spot (.addContext name origin)).1.isOk then some (.made name) else none
  | _ => none

lemma shown_holdings (number : Nat) (session : Session) :
    (exec (shown number) session).2.holdings = session.holdings := by
  rw [shown, exec_bind, exec_get]
  cases hcache : session.pool.caches[number]? <;> simp only [hcache, exec_pure]

lemma redactWith_holdings (engine : Engine) (number : Nat) (message : String) (session : Session) :
    (exec (redactWith engine number message) session).2.holdings = session.holdings := by
  show holdings { session with pool := (session.pool.redactWith engine number message).2 } = _
  rw [Pool.redactWith]
  cases session.pool.caches[number]? <;> rfl

lemma callHandle_holdings (number : Nat) (index : Int) (calls : List Call) (session : Session) :
    (exec (callHandle number index calls) session).2.holdings = session.holdings := by
  rw [callHandle, exec_bind, exec_get]
  cases hcache : session.pool.caches[number]? with
  | none => simp only [hcache, exec_throw]
  | some cache =>
      cases hhandle : (placeOf cache.handles.length index).bind fun place =>
          (cache.handles[place]?).map fun handle => (place, handle) with
      | none => simp only [hcache, hhandle, exec_throw]
      | some found =>
          simp only [hcache, hhandle, exec_bind, exec_set, exec_pure]
          rfl

/-- An action on the engine with a name. -/
lemma exec_knownEngine {β : Type} {further : Engine → Action β} {session : Session} {name : String}
    {engine : Engine} (h : session.engines.lookup name = some engine) :
    exec (engineNamed name >>= further) session = exec (further engine) session := by
  rw [exec_bind, exec_engineNamed, exec_named, h]

lemma exec_unknownEngine {β : Type} {further : Engine → Action β} {session : Session} {name : String}
    (h : session.engines.lookup name = none) :
    (exec (engineNamed name >>= further) session).2 = session := by
  rw [exec_bind, exec_engineNamed, exec_named, h]

/-- A step that looks up a context cache does this to the registries and nothing more. -/
theorem next_of_lookedUp {session : Session} {action : Step} {engine : Engine}
    (h : session.lookedUp action = some engine) (spot : Spot) :
    (session.next spot action).2.holdings = (exec (contextCache spot engine) session).2.holdings := by
  show (exec (step spot action) session).2.holdings = _
  cases action with
  | keepCache name other =>
      rw [step, exec_knownEngine h]
      exact exec_bind_part holdings (fun number after => exec_bind_part holdings
        (fun _ => shown_holdings number) after) session
  | look cache =>
      cases cache with
      | kept name => simp [lookedUp] at h
      | ofEngine other =>
          rw [step, exec_bind_part holdings shown_holdings, cacheNumber, exec_knownEngine h]
  | callHandle cache index calls =>
      cases cache with
      | kept name => simp [lookedUp] at h
      | ofEngine other =>
          rw [step, exec_bind_part holdings fun number => callHandle_holdings number index calls,
            cacheNumber, exec_knownEngine h]
  | redact other message cache =>
      cases cache with
      | some name => simp [lookedUp] at h
      | none =>
          obtain ⟨hlookup, hrules⟩ := Option.filter_eq_some_iff.mp h
          have hempty : ¬ engine.store.isEmpty = true := by simpa using hrules
          rw [step, exec_knownEngine hlookup]
          simp only [exec_return_snd, redact, if_neg hempty]
          exact exec_bind_part holdings (fun number => redactWith_holdings engine number message) session
  | _ => simp [lookedUp] at h

/-- Reading the number of a named cache and going on with it. -/
lemma cacheNamed_holdings {β : Type} {further : Nat → Action β}
    (h : ∀ number after, (exec (further number) after).2.holdings = after.holdings) (name : String)
    (session : Session) :
    (exec (cacheNamed name >>= further) session).2.holdings = session.holdings := by
  rw [exec_bind_part holdings h, exec_cacheNamed, exec_named_state]

/-- Making a context copies what some context holds, if anything. -/
lemma exec_registryFrom (session : Session) (spot : Spot) (origin : Origin) :
    ∃ registry : Except Fault (Option Nat), exec (registryFrom spot origin) session = (registry, session)
      ∧ (registry = .ok none ∨ ∃ place, registry = registryOf session place) := by
  cases origin with
  | nothing => exact ⟨_, rfl, .inl rfl⟩
  | current => exact ⟨_, exec_registryAt spot session, .inr ⟨spot, rfl⟩⟩
  | context name => exact ⟨_, exec_registryAt ⟨some name, spot.thread⟩ session, .inr ⟨_, rfl⟩⟩

/-- A step that looks up no context cache leaves everything as it is, unless it makes a context. -/
theorem next_of_not_lookedUp {session : Session} {action : Step} (h : session.lookedUp action = none)
    (spot : Spot) :
    (session.next spot action).2.holdings = session.holdings
      ∨ ∃ name registry, session.remade spot action = some (.made name)
        ∧ (registry = none ∨ ∃ place, registryOf session place = .ok registry)
        ∧ (session.next spot action).2.holdings
          = { session.holdings with contexts := put name registry session.contexts } := by
  show (exec (step spot action) session).2.holdings = _ ∨ ∃ name registry, _ ∧ _
    ∧ (exec (step spot action) session).2.holdings = _
  cases action with
  | addEngine name store => exact .inl rfl
  | shareStore name other =>
      left
      cases hlookup : session.engines.lookup other with
      | none => exact congrArg holdings (exec_unknownEngine hlookup)
      | some engine =>
          rw [step, exec_knownEngine hlookup]
          rfl
  | dropEngine name => exact .inl rfl
  | newCache name engine =>
      left
      cases hlookup : session.engines.lookup engine with
      | none => exact congrArg holdings (exec_unknownEngine hlookup)
      | some engine =>
          rw [step, exec_knownEngine hlookup]
          show (exec (keep name _ >>= fun _ => shown _) _).2.holdings = session.holdings
          exact exec_bind_part holdings (fun _ => shown_holdings _) _
  | keepCache name engine =>
      left
      exact congrArg holdings (exec_unknownEngine h)
  | same first second =>
      left
      exact cacheNamed_holdings (fun _ => cacheNamed_holdings (fun _ _ => rfl) second) first session
  | redact engine message cache =>
      left
      cases hlookup : session.engines.lookup engine with
      | none => exact congrArg holdings (exec_unknownEngine hlookup)
      | some engine =>
          rw [step, exec_knownEngine hlookup, exec_return_snd]
          cases cache with
          | some name =>
              exact cacheNamed_holdings (fun number => redactWith_holdings engine number message) name session
          | none =>
              have hempty : engine.store.isEmpty = true := by simpa [lookedUp, hlookup] using h
              rw [redact, if_pos hempty]
              rfl
  | look cache =>
      left
      cases cache with
      | kept name => exact cacheNamed_holdings shown_holdings name session
      | ofEngine engine =>
          rw [step, exec_bind_part holdings shown_holdings, cacheNumber, exec_unknownEngine h]
  | callHandle cache index calls =>
      left
      cases cache with
      | kept name =>
          exact cacheNamed_holdings (fun number => callHandle_holdings number index calls) name session
      | ofEngine engine =>
          rw [step, exec_bind_part holdings fun number => callHandle_holdings number index calls,
            cacheNumber, exec_unknownEngine h]
  | addContext name origin =>
      obtain ⟨answer, hanswer, hcopied⟩ := exec_registryFrom session spot origin
      cases answer with
      | error fault =>
          left
          rw [step, exec_bind_error hanswer]
      | ok registry =>
          have hnext : session.next spot (.addContext name origin)
              = (.ok .nothing, { session with contexts := put name registry session.contexts }) :=
            exec_bind_ok hanswer
          refine .inr ⟨name, registry, by rw [remade, hnext]; rfl, ?_, congrArg (holdings ·.2) hnext⟩
          exact hcopied.imp Except.ok.inj (Exists.imp fun place hplace => hplace.symm)

/-- What is held after a context was made. -/
lemma registryOf_of_put {before after : Session} {name : String} {registry : Option Nat}
    (h : after.holdings = { before.holdings with contexts := put name registry before.contexts })
    (place : Spot) :
    registryOf after place
      = if place.contextKey = .made name then .ok registry else registryOf before place := by
  have hcontexts : after.contexts = put name registry before.contexts := congrArg Holdings.contexts h
  have hthreads : after.threads = before.threads := congrArg Holdings.threads h
  obtain ⟨context, thread⟩ := place
  cases context with
  | none => simp [registryOf, Spot.contextKey, hthreads]
  | some other =>
      by_cases hname : other = name
      · simp [registryOf, Spot.contextKey, hcontexts, hname]
      · simp [registryOf, Spot.contextKey, hcontexts, hname, lookup_put_of_ne]

/-! ## What lasts -/

section
variable {session after : Session} {spot : Spot} {engine : Engine} {key number : Nat}

/-- The context of a spot holds a registry of the spot's thread, and this answers for a key. -/
def Memoises (session : Session) (spot : Spot) (key number : Nat) : Prop :=
  ∃ held, registryOf session spot = .ok (some held) ∧ session.pool.ownerOf held = some spot.thread
    ∧ session.pool.cacheIn? held key = some number

lemma LooksUp.memoises (h : session.LooksUp spot engine number after) :
    after.Memoises spot engine.identity number := by
  have hanswer := h.answer
  rw [exec_contextCache] at hanswer
  cases hregistry : registryOf session spot with
  | error fault => simp [hregistry] at hanswer
  | ok held =>
      simp only [hregistry, Prod.mk.injEq, Except.ok.injEq] at hanswer
      obtain ⟨rfl, rfl⟩ := hanswer
      obtain ⟨-, howner, -, -⟩ := Pool.lookup_spec session.pool ⟨spot.thread, held⟩ engine
      refine ⟨_, registryOf_holding _ spot _, ?_, ?_⟩
      · rw [holding_pool]
        exact howner
      · rw [holding_pool]
        exact Pool.lookup_answer session.pool ⟨spot.thread, held⟩ engine

lemma Memoises.looksUp (h : session.Memoises spot engine.identity number)
    (hknows : session.Knows engine) : ∃ last, session.LooksUp spot engine number last := by
  obtain ⟨held, hheld, howner, hnoted⟩ := h
  refine ⟨session.holding spot held, hknows, ?_⟩
  rw [exec_contextCache, hheld]
  simp only [Pool.lookup_of_cacheIn? howner hnoted]

lemma Memoises.of_holdings (h : session.Memoises spot key number)
    (hsame : after.holdings = session.holdings) : after.Memoises spot key number := by
  obtain ⟨held, hheld, howner, hnoted⟩ := h
  have hregistries : after.pool.registries = session.pool.registries := congrArg Holdings.registries hsame
  exact ⟨held, (registryOf_of_holdings hsame spot).trans hheld,
    (Pool.ownerOf_congr hregistries held).trans howner,
    (Pool.cacheIn?_congr hregistries held key).trans hnoted⟩

/-- A lookup leaves an answer where it is, unless it is in the same context and on another thread. -/
lemma Memoises.contextCache (h : session.Memoises spot key number) {place : Spot}
    (hplace : place.contextKey = spot.contextKey → place.thread = spot.thread) (engine : Engine) :
    (exec (contextCache place engine) session).2.Memoises spot key number := by
  obtain ⟨held, hheld, howner, hnoted⟩ := h
  rw [exec_contextCache]
  cases hregistry : registryOf session place with
  | error fault => exact ⟨held, hheld, howner, hnoted⟩
  | ok other =>
      have hextends := (Pool.lookup_spec session.pool ⟨place.thread, other⟩ engine).1
      refine ⟨held, ?_, ?_, ?_⟩
      · by_cases hkey : place.contextKey = spot.contextKey
        · -- the registry that the context holds is one that this thread may use
          have hother : other = some held := by
            rw [registryOf_of_contextKey hkey, hheld] at hregistry
            exact (Except.ok.inj hregistry).symm
          rw [← registryOf_of_contextKey hkey, registryOf_holding, hother, hplace hkey, Pool.lookup_registry,
            Pool.registryAt_of_owner howner]
        · rw [registryOf_holding_of_ne fun heq => hkey heq.symm]
          exact hheld
      · rw [holding_pool]
        exact hextends.owner howner
      · rw [holding_pool]
        exact Pool.lookup_cacheIn? hnoted ⟨place.thread, other⟩ engine

/-- A step disturbs a spot if another thread looks up a cache in its context, or if its context is replaced
by a new one. -/
def Disturbs (session : Session) (spot place : Spot) (action : Step) : Prop :=
  (place.contextKey = spot.contextKey ∧ place.thread ≠ spot.thread ∧ (session.lookedUp action).isSome)
    ∨ session.remade place action = some spot.contextKey

instance decidableDisturbs (session : Session) (spot place : Spot) (action : Step) :
    Decidable (session.Disturbs spot place action) :=
  inferInstanceAs (Decidable (_ ∨ _))

/-- No step of a run disturbs a spot. -/
def Undisturbed (session : Session) (spot : Spot) : List (Spot × Step) → Prop
  | [] => True
  | (place, action) :: rest =>
    ¬ session.Disturbs spot place action ∧ (session.next place action).2.Undisturbed spot rest

instance decidableUndisturbed (spot : Spot) :
    (session : Session) → (steps : List (Spot × Step)) → Decidable (session.Undisturbed spot steps)
  | _, [] => isTrue trivial
  | session, (place, action) :: rest =>
    have := decidableUndisturbed spot (session.next place action).2 rest
    inferInstanceAs (Decidable (¬ session.Disturbs spot place action ∧ _))

/-- **One step** that does not disturb a spot. -/
theorem Memoises.next (h : session.Memoises spot key number) {place : Spot} {action : Step}
    (hnot : ¬ session.Disturbs spot place action) :
    (session.next place action).2.Memoises spot key number := by
  rw [Disturbs, not_or] at hnot
  obtain ⟨hforeign, hmade⟩ := hnot
  cases hlooked : session.lookedUp action with
  | some engine =>
      have hplace : place.contextKey = spot.contextKey → place.thread = spot.thread := by
        intro hkey
        exact Decidable.byContradiction fun hthread => hforeign ⟨hkey, hthread, by rw [hlooked]; rfl⟩
      exact (h.contextCache hplace engine).of_holdings (next_of_lookedUp hlooked place)
  | none =>
      rcases next_of_not_lookedUp hlooked place with hsame | ⟨name, registry, hremade, -, hput⟩
      · exact h.of_holdings hsame
      · obtain ⟨held, hheld, howner, hnoted⟩ := h
        have hother : spot.contextKey ≠ .made name := fun heq => hmade (heq ▸ hremade)
        have hregistries : (session.next place action).2.pool.registries = session.pool.registries :=
          congrArg Holdings.registries hput
        refine ⟨held, ?_, (Pool.ownerOf_congr hregistries held).trans howner,
          (Pool.cacheIn?_congr hregistries held key).trans hnoted⟩
        rw [registryOf_of_put hput, if_neg hother]
        exact hheld

/-- **Any run** that does not disturb a spot, by induction on its steps. -/
theorem Memoises.run {steps : List (Spot × Step)} (h : session.Memoises spot key number)
    (hundisturbed : session.Undisturbed spot steps) :
    (session.run steps).2.Memoises spot key number := by
  induction steps generalizing session with
  | nil => exact h
  | cons first rest ih =>
      obtain ⟨hnot, hrest⟩ := hundisturbed
      exact ih (h.next hnot) hrest

/-! ## What is installed -/

/-- Every registry that is held is there. -/
def Grounded (session : Session) : Prop :=
  ∀ place held, registryOf session place = .ok (some held) →
    ∃ owner, session.pool.ownerOf held = some owner

lemma Grounded.of_holdings (h : session.Grounded) (hsame : after.holdings = session.holdings) :
    after.Grounded := by
  intro place held hheld
  rw [Pool.ownerOf_congr (congrArg Holdings.registries hsame)]
  exact h place held ((registryOf_of_holdings hsame place).symm.trans hheld)

lemma Grounded.contextCache (h : session.Grounded) (spot : Spot) (engine : Engine) :
    (exec (contextCache spot engine) session).2.Grounded := by
  rw [exec_contextCache]
  cases hregistry : registryOf session spot with
  | error fault => exact h
  | ok other =>
      obtain ⟨hextends, howner, -, -⟩ := Pool.lookup_spec session.pool ⟨spot.thread, other⟩ engine
      intro place held hheld
      rw [holding_pool]
      by_cases hkey : place.contextKey = spot.contextKey
      · rw [registryOf_of_contextKey hkey, registryOf_holding] at hheld
        cases hheld
        exact ⟨_, howner⟩
      · rw [registryOf_holding_of_ne hkey] at hheld
        obtain ⟨owner, hold⟩ := h place held hheld
        exact ⟨owner, hextends.owner hold⟩

lemma Grounded.next (h : session.Grounded) (spot : Spot) (action : Step) :
    (session.next spot action).2.Grounded := by
  cases hlooked : session.lookedUp action with
  | some engine => exact (h.contextCache spot engine).of_holdings (next_of_lookedUp hlooked spot)
  | none =>
      rcases next_of_not_lookedUp hlooked spot with hsame | ⟨name, registry, -, hcopied, hput⟩
      · exact h.of_holdings hsame
      · have hregistries : (session.next spot action).2.pool.registries = session.pool.registries :=
          congrArg Holdings.registries hput
        intro place held hheld
        rw [Pool.ownerOf_congr hregistries]
        rw [registryOf_of_put hput] at hheld
        split at hheld
        · cases hheld
          rcases hcopied with hnone | ⟨source, hsource⟩
          · cases hnone
          · exact h source held hsource
        · exact h place held hheld

lemma grounded_run (steps : List (Spot × Step)) : (run {} steps).2.Grounded := by
  suffices hrun : ∀ session : Session, session.Grounded → (session.run steps).2.Grounded by
    refine hrun {} fun place held hheld => ?_
    obtain ⟨context, thread⟩ := place
    cases context <;> simp [registryOf] at hheld
  intro session h
  induction steps generalizing session with
  | nil => exact h
  | cons first rest ih => exact ih _ (h.next first.1 first.2)

/-- The context of a spot has been made, and it holds no registry that the spot's thread may use. -/
def Foreign (session : Session) (spot : Spot) : Prop :=
  ∃ held, registryOf session spot = .ok held
    ∧ ∀ registry ∈ held, session.pool.ownerOf registry ≠ some spot.thread

/-- A new registry has been added, which belongs to the thread of a spot and notes a new cache for an engine,
and nothing else.  The context of the spot holds it, and no other one does: they hold what they held. -/
structure Installs (before : Session) (spot : Spot) (engine : Engine) (after : Session) : Prop where
  registries : after.pool.registries
    = before.pool.registries ++ [⟨spot.thread, [(engine.identity, before.pool.caches.length)]⟩]
  held_iff : ∀ place, registryOf after place = .ok (some before.pool.registries.length)
    ↔ place.contextKey = spot.contextKey
  others : ∀ place, place.contextKey ≠ spot.contextKey → registryOf after place = registryOf before place

lemma Foreign.installs (h : session.Foreign spot) (hgrounded : session.Grounded) {action : Step}
    (hlooked : session.lookedUp action = some engine) :
    session.Installs spot engine (session.next spot action).2 := by
  obtain ⟨held, hheld, hforeign⟩ := h
  obtain ⟨hnumber, hregistries⟩ :=
    Pool.lookup_of_foreign session.pool ⟨spot.thread, held⟩ engine hforeign
  have hnext := next_of_lookedUp hlooked spot
  rw [exec_contextCache, hheld] at hnext
  simp only [hnumber] at hnext
  have hothers : ∀ place, place.contextKey ≠ spot.contextKey →
      registryOf (session.next spot action).2 place = registryOf session place := by
    intro place hkey
    rw [registryOf_of_holdings hnext, registryOf_holding_of_ne hkey]
    rfl
  refine ⟨?_, fun place => ⟨fun hfresh => ?_, fun hkey => ?_⟩, hothers⟩
  · rw [← hregistries]
    exact (congrArg Holdings.registries hnext).trans (congrArg Pool.registries (holding_pool _ _ _))
  · -- nobody held a registry with this number, for it was not there
    refine Decidable.byContradiction fun hkey => ?_
    rw [hothers place hkey] at hfresh
    obtain ⟨owner, howner⟩ := hgrounded place _ hfresh
    simp [Pool.ownerOf] at howner
  · rw [registryOf_of_holdings hnext, registryOf_of_contextKey hkey, registryOf_holding]

end

/-! ## The result -/

/-- **Context caches last.**  After any steps, and any further ones that do not disturb a spot, a lookup there
gives the cache that it gave before, if the engine is still referenced.  And a step that looks up a cache
where its thread has no registry that it may use, a redaction too, installs a new one in the context in which
it runs and in no other.

As before, a thread is known by its name and lasts as long as the session; no name is given to a second one. -/
theorem contextCache_lasts (steps : List (Spot × Step)) (spot : Spot) (engine : Engine) :
    (∀ (number : Nat) (after : Session) (further : List (Spot × Step)),
        (run {} steps).2.LooksUp spot engine number after → after.Undisturbed spot further →
        (after.run further).2.Knows engine →
          ∃ last, (after.run further).2.LooksUp spot engine number last)
      ∧ ∀ action, (run {} steps).2.lookedUp action = some engine → (run {} steps).2.Foreign spot →
          (run {} steps).2.Installs spot engine ((run {} steps).2.next spot action).2 := by
  constructor
  · intro number after further hlook hundisturbed hknows
    exact (hlook.memoises.run hundisturbed).looksUp hknows
  · intro action hlooked hforeign
    exact hforeign.installs (grounded_run steps) hlooked

/-- A worker thread uses a copy of a context, and redacts in the context itself with a new engine that has no
rules.  The main thread uses the context for another engine, which is then forgotten, and the copy is replaced. -/
def busySteps : List (Spot × Step) :=
  [(⟨"copy", "worker"⟩, .redact "first" "ca" none), ({}, .addEngine "plain" .empty),
    (⟨"request", "worker"⟩, .redact "plain" "x" none),
    (⟨"request", "main"⟩, .look (.ofEngine "second")), ({}, .dropEngine "second"),
    ({}, .addContext "copy" .nothing)]

/-- The main thread finds its cache of the context again, after the worker has got a registry for the copy. -/
theorem contextCache_lasts_shared :
    ∃ after last, (run {} sharedSteps).2.LooksUp ⟨"request", "main"⟩ ⟨0, lettersStore⟩ 0 after
      ∧ after.Undisturbed ⟨"request", "main"⟩ busySteps ∧ (after.run busySteps).2.Knows ⟨0, lettersStore⟩
      ∧ (after.run busySteps).2.LooksUp ⟨"request", "main"⟩ ⟨0, lettersStore⟩ 0 last
      ∧ (run {} sharedSteps).2.Foreign ⟨"copy", "worker"⟩
      ∧ (run {} sharedSteps).2.Installs ⟨"copy", "worker"⟩ ⟨0, lettersStore⟩
        ((run {} sharedSteps).2.next ⟨"copy", "worker"⟩ (.look (.ofEngine "first"))).2 := by
  obtain ⟨after, hlook, hundisturbed, hknows⟩ : ∃ after,
      (run {} sharedSteps).2.LooksUp ⟨"request", "main"⟩ ⟨0, lettersStore⟩ 0 after
        ∧ after.Undisturbed ⟨"request", "main"⟩ busySteps
        ∧ (after.run busySteps).2.Knows ⟨0, lettersStore⟩ := by
    refine ⟨(exec (contextCache ⟨"request", "main"⟩ ⟨0, lettersStore⟩) (run {} sharedSteps).2).2,
      ⟨?_, rfl⟩, ?_, ?_⟩
    · exact ⟨"first", mem_of_lookup rfl⟩
    · decide
    · exact ⟨"first", mem_of_lookup rfl⟩
  have hforeign : (run {} sharedSteps).2.Foreign ⟨"copy", "worker"⟩ := ⟨some 0, rfl, by decide⟩
  obtain ⟨hlasts, -⟩ := contextCache_lasts sharedSteps ⟨"request", "main"⟩ ⟨0, lettersStore⟩
  obtain ⟨-, hinstalls⟩ := contextCache_lasts sharedSteps ⟨"copy", "worker"⟩ ⟨0, lettersStore⟩
  obtain ⟨last, hlast⟩ := hlasts 0 after busySteps hlook hundisturbed hknows
  exact ⟨after, last, hlook, hundisturbed, hknows, hlast, hforeign, hinstalls _ rfl hforeign⟩

end Session
end Redaction
