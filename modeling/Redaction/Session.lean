import Redaction.Engine.Pool

/-!
# Sessions

Several engines at work in several contexts and on several threads, one step at a time.

* `Session`: engines, caches, contexts and threads, by name.
* `Session.Step`: what can be done; `Session.Spot` says in which context and on which thread.
* `Session.step`: does a step and answers it, or says why it cannot be done; what was done until then
  stays done.
* `Session.run`: does steps one after the other.
-/

namespace Redaction

/-- Engines, caches, contexts and threads, by name. A context is known by the registry it holds. -/
structure Session where
  engines : List (String × Engine) := []
  /-- The caches that were given names, by their numbers. -/
  kept : List (String × Nat) := []
  contexts : List (String × Option Nat) := []
  /-- The context that each thread has of its own. -/
  threads : List (Thread × Option Nat) := []
  pool : Pool := {}
  nextIdentity : Nat := 0

namespace Session

/-- Where a step runs: in a named context or in the thread's own one, on a thread. -/
structure Spot where
  context : Option String := none
  thread : Thread := "main"
deriving Repr, DecidableEq

/-- A cache by its name, or as the one of an engine in the context of the step. -/
inductive CacheName
  | kept (name : String)
  | ofEngine (engine : String)
deriving Repr, DecidableEq

/-- What is copied into a new context. -/
inductive Origin
  | nothing
  | current
  | context (name : String)
deriving Repr, DecidableEq

/-- A call on a handle. -/
inductive Call
  | reset (text : String)
  | find
  | replaceAll
deriving Repr, DecidableEq

/-- What can be done in a session. -/
inductive Step
  | addEngine (name : String) (store : RuleStore)
  | shareStore (name other : String)
  | dropEngine (name : String)
  | newCache (name engine : String)
  | keepCache (name engine : String)
  | same (first second : String)
  | redact (engine message : String) (cache : Option String)
  | look (cache : CacheName)
  | callHandle (cache : CacheName) (index : Int) (calls : List Call)
  | addContext (name : String) (origin : Origin)

/-- What a call on a handle returns. -/
inductive Returned
  | truth (value : Bool)
  | text (text : String)
deriving Repr, DecidableEq

/-- What a step answers. -/
inductive Answer
  | nothing
  | engine (engine : Engine)
  | cache (cache : Cache)
  | truth (value : Bool)
  | text (text : String)
  /-- What each call returned, with the count of the handle after it. -/
  | calls (results : List (Returned × Nat))

/-- Why a step cannot be done. -/
inductive Fault
  | unknownName (name : String)
  | noSuchHandle
deriving Repr, DecidableEq

/-- The wording of a fault. -/
def Fault.message : Fault → String
  | unknownName name => Text.quoted name
  | noSuchHandle => "list index out of range"

/-- Work on a session that may fail. What was done before a failure stays done. -/
abbrev Action (α : Type) := ExceptT Fault (StateM Session) α

/-- Puts an item under a name, in place of the one that had it. -/
def put {α : Type} (name : String) (item : α) (items : List (String × α)) : List (String × α) :=
  (name, item) :: items.filter fun (other, _) => other ≠ name

/-- The item with a name. -/
def named {α : Type} (items : List (String × α)) (name : String) : Action α :=
  match items.lookup name with
  | some item => pure item
  | none => throw (.unknownName name)

/-- The engine with a name. -/
def engineNamed (name : String) : Action Engine := do
  named (← get).engines name

/-- The number of the cache with a name. -/
def cacheNamed (name : String) : Action Nat := do
  named (← get).kept name

/-! ## Contexts -/

/-- The registry that the context of a spot holds. -/
def registryAt (spot : Spot) : Action (Option Nat) := do
  let session ← get
  match spot.context with
  | some name => named session.contexts name
  | none => pure ((session.threads.lookup spot.thread).getD none)

/-- Makes the context of a spot hold a registry. -/
def setRegistry (spot : Spot) (registry : Nat) : Action Unit :=
  modify fun session =>
    match spot.context with
    | some name => { session with contexts := put name (some registry) session.contexts }
    | none => { session with threads := put spot.thread (some registry) session.threads }

/-- The number of the cache of an engine in the context of a spot. -/
def contextCache (spot : Spot) (engine : Engine) : Action Nat := do
  let registry ← registryAt spot
  let found := (← get).pool.lookup ⟨spot.thread, registry⟩ engine
  modify fun session => { session with pool := found.pool }
  setRegistry spot found.registry
  pure found.cache

/-- The number of a cache. -/
def cacheNumber (spot : Spot) : CacheName → Action Nat
  | .kept name => cacheNamed name
  | .ofEngine name => do contextCache spot (← engineNamed name)

/-- The registry that a new context holds. -/
def registryFrom (spot : Spot) : Origin → Action (Option Nat)
  | .nothing => pure none
  | .current => registryAt spot
  | .context name => do named (← get).contexts name

/-! ## Steps -/

/-- Adds an engine with an identity of its own. -/
def addEngine (name : String) (store : RuleStore) : Action Engine := do
  let session ← get
  let engine : Engine := ⟨session.nextIdentity, store⟩
  set { session with
    engines := put name engine session.engines, nextIdentity := session.nextIdentity + 1 }
  pure engine

/-- Names a cache. -/
def keep (name : String) (number : Nat) : Action Unit :=
  modify fun session => { session with kept := put name number session.kept }

/-- The cache with a number, as an answer. -/
def shown (number : Nat) : Action Answer := do
  match (← get).pool.caches[number]? with
  | some cache => pure (.cache cache)
  | none => pure .nothing

/-- Makes calls on a handle one after the other. -/
def runCalls (handle : Handle) : List Call → List (Returned × Nat) × Handle
  | [] => ([], handle)
  | call :: rest =>
    let (returned, handle) : Returned × Handle := match call with
      | .reset text => (.truth true, handle.reset text)
      | .find => let (found, handle) := handle.find; (.truth found, handle)
      | .replaceAll => let (text, handle) := handle.replaceAll; (.text text, handle)
    let (results, last) := runCalls handle rest
    ((returned, handle.matchCount) :: results, last)

/-- The place that an index means; a negative one counts from the end. -/
def placeOf (length : Nat) (index : Int) : Option Nat :=
  let place := if index < 0 then index + length else index
  if 0 ≤ place && place < length then some place.toNat else none

/-- Makes calls on a handle of a cache. -/
def callHandle (number : Nat) (index : Int) (calls : List Call) : Action Answer := do
  let session ← get
  match session.pool.caches[number]? with
  | none => throw .noSuchHandle
  | some cache =>
    match (placeOf cache.handles.length index).bind fun place =>
        (cache.handles[place]?).map fun handle => (place, handle) with
    | none => throw .noSuchHandle
    | some (place, handle) =>
      let (results, handle) := runCalls handle calls
      set { session with pool := session.pool.setCache number (cache.setHandle place handle) }
      pure (.calls results)

/-- Redacts a message with a cache. -/
def redactWith (engine : Engine) (number : Nat) (message : String) : Action String := do
  let (text, pool) := (← get).pool.redactWith engine number message
  modify fun session => { session with pool }
  pure text

/-- Redacts a message with a named cache, or with the one of the context. An engine without rules uses no
cache. -/
def redact (spot : Spot) (engine : Engine) (message : String) : Option String → Action String
  | some name => do redactWith engine (← cacheNamed name) message
  | none =>
    if engine.store.isEmpty then pure message
    else do redactWith engine (← contextCache spot engine) message

/-- Does a step. -/
def step (spot : Spot) : Step → Action Answer
  | .addEngine name store => do return .engine (← addEngine name store)
  | .shareStore name other => do return .engine (← addEngine name (← engineNamed other).store)
  | .dropEngine name => do
    modify fun session =>
      { session with engines := session.engines.filter fun (other, _) => other ≠ name }
    return .nothing
  | .newCache name engine => do
    let engine ← engineNamed engine
    let (number, pool) := (← get).pool.addCache (.ofStore engine.store spot.thread)
    modify fun session => { session with pool }
    keep name number
    shown number
  | .keepCache name engine => do
    let number ← contextCache spot (← engineNamed engine)
    keep name number
    shown number
  | .same first second => do return .truth ((← cacheNamed first) = (← cacheNamed second))
  | .redact engine message cache => do return .text (← redact spot (← engineNamed engine) message cache)
  | .look cache => do shown (← cacheNumber spot cache)
  | .callHandle cache index calls => do callHandle (← cacheNumber spot cache) index calls
  | .addContext name origin => do
    let registry ← registryFrom spot origin
    modify fun session => { session with contexts := put name registry session.contexts }
    return .nothing

/-- Does a step on a session. -/
def next (session : Session) (spot : Spot) (action : Step) : Except Fault Answer × Session :=
  (step spot action).run.run session

/-- Does steps one after the other. -/
def run (session : Session) : List (Spot × Step) → List (Except Fault Answer) × Session
  | [] => ([], session)
  | (spot, action) :: rest =>
    let (answer, session) := session.next spot action
    let (answers, last) := run session rest
    (answer :: answers, last)

end Session
end Redaction
