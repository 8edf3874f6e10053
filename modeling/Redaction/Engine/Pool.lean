import Redaction.Engine.Trace

/-!
# Caches of execution contexts

An execution context keeps its caches in a registry, one cache for each engine it has used. A registry
belongs to the thread that made it. A copied context holds the registry of the context it was copied from
as long as it stays on that thread; on another one it starts a registry of its own.

* `Pool`: all caches and registries there are, by number.
* `Pool.lookup`: the cache of an engine in a context, made on first use.
* `Pool.rewriteAt`: redacts a text with the cache of a context.
-/

namespace Redaction

/-- The caches of a context: the identity of an engine with the number of its cache. -/
structure Registry where
  owner : Thread
  caches : List (Nat × Nat) := []
deriving Repr, DecidableEq

/-- All caches and registries, each known by its number. -/
structure Pool where
  caches : List Cache := []
  registries : List Registry := []

/-- Where something runs: on a thread, in a context that may hold a registry. -/
structure Place where
  thread : Thread
  registry : Option Nat := none
deriving Repr, DecidableEq

/-- What a lookup finds or makes: the number of the cache, and the number of the registry that the context
holds from now on. -/
structure Lookup where
  cache : Nat
  registry : Nat
  created : Bool
  pool : Pool

namespace Pool

/-- Adds a cache; its number is the count of those before it. -/
def addCache (pool : Pool) (cache : Cache) : Nat × Pool :=
  (pool.caches.length, { pool with caches := pool.caches ++ [cache] })

/-- Replaces a cache. -/
def setCache (pool : Pool) (number : Nat) (cache : Cache) : Pool :=
  { pool with caches := pool.caches.set number cache }

/-- Adds a registry without caches. -/
def addRegistry (pool : Pool) (thread : Thread) : Nat × Pool :=
  (pool.registries.length, { pool with registries := pool.registries ++ [{ owner := thread }] })

/-- The registry that a place uses: the one its context holds if it belongs to the thread, or else a new
one. -/
def registryAt (pool : Pool) (place : Place) : Nat × Pool :=
  match place.registry with
  | none => pool.addRegistry place.thread
  | some number =>
    match pool.registries[number]? with
    | some registry =>
      if registry.owner = place.thread then (number, pool) else pool.addRegistry place.thread
    | none => pool.addRegistry place.thread

/-- Notes the cache of an engine in a registry. -/
def note (pool : Pool) (registry engine cache : Nat) : Pool :=
  { pool with registries := pool.registries.modify registry fun r =>
      { r with caches := (engine, cache) :: r.caches } }

/-- The number of the cache of an engine in a registry. -/
def cacheIn? (pool : Pool) (registry : Nat) (engine : Nat) : Option Nat :=
  (pool.registries[registry]?).bind fun r => r.caches.lookup engine

/-- The cache of an engine at a place. -/
def lookup (pool : Pool) (place : Place) (engine : Engine) : Lookup :=
  let (registry, pool) := pool.registryAt place
  match pool.cacheIn? registry engine.identity with
  | some cache => { cache, registry, pool, created := false }
  | none =>
    let (cache, pool) := pool.addCache (.ofStore engine.store place.thread)
    { cache, registry, created := true, pool := pool.note registry engine.identity cache }

/-- Redacts a text with a cache of the pool. There is no new text if the very same one came back. -/
def rewriteWith (pool : Pool) (engine : Engine) (number : Nat) (text : String) : Option String × Pool :=
  match pool.caches[number]? with
  | none => (none, pool)
  | some cache =>
    let (out, cache) := engine.rewrite cache text
    (out, pool.setCache number cache)

/-- Redacts a text with a cache of the pool. -/
def redactWith (pool : Pool) (engine : Engine) (number : Nat) (text : String) : String × Pool :=
  match pool.caches[number]? with
  | none => (text, pool)
  | some cache =>
    let (out, cache) := engine.redact cache text
    (out, pool.setCache number cache)

/-- Redacts a text at a place and says which registry the context holds afterwards and whether a cache
was made. An engine without rules looks for no cache. -/
def rewriteAt (pool : Pool) (place : Place) (engine : Engine) (text : String) :
    Option String × Place × Bool × Pool :=
  if engine.store.isEmpty then (none, place, false, pool)
  else
    let found := pool.lookup place engine
    let (out, pool) := found.pool.rewriteWith engine found.cache text
    (out, { place with registry := some found.registry }, found.created, pool)

end Pool
end Redaction
