import Redaction.Engine.Pool
import Redaction.Policy.Loader
import Redaction.Record.Filter

/-!
# The shared engine

A service holds one engine for everybody. It loads the policy when the engine is first asked for and keeps
the engine until it is reset, whatever happens to the policy in between. A policy that cannot be loaded
leaves the service without an engine, so that the next one who asks tries again.

* `Service`: the state of the service, with the files around it and the filters that use it.
* `Service.engine`: the engine, loaded if need be.
* `Service.Step`, `Service.step`: what can be done, and doing it.
-/

namespace Redaction

/-- A filter that takes the engine of the service when it first needs one, and keeps it. -/
structure Service.Filter where
  name : String
  engine : Option Engine := none

/-- The state of the service, with the library that reads its policies. -/
structure Service where
  reader : Policy.Reader := .standard
  policyPath : Option FilePath := none
  tree : FileTree
  shared : Option Engine := none
  nextIdentity : Nat := 0
  pool : Pool := {}
  place : Place := ⟨"main", none⟩
  filters : List (String × Service.Filter) := []
  /-- The events of the step that is being done. -/
  events : List Event := []

namespace Service

/-- Why a step fails. -/
inductive Failure
  | policy (rejection : Policy.Rejection)
  /-- Something else stopped the loading of the policy. -/
  | initialization (cause : Policy.Failure)
  | unknownFilter (name : String)
deriving Repr, DecidableEq

/-- The wording of a failure. -/
def Failure.message : Failure → String
  | policy rejection => rejection.message
  | initialization _ => "Redaction engine initialization failed"
  | unknownFilter name => Text.quoted name

/-- The failure to load a policy, as the service reports it. -/
def Failure.ofLoading : Policy.Failure → Failure
  | .rejected rejection => policy rejection
  | cause => initialization cause

/-- Work on the service that may fail. What was done before a failure stays done. -/
abbrev Action (α : Type) := ExceptT Failure (StateM Service) α

/-- Reports events. -/
def report (events : List Event) : Action Unit :=
  modify fun service => { service with events := service.events ++ events }

/-- Loads the store that the policy path leads to. Without a path there are no rules. -/
def loadStore (service : Service) : Except Policy.Failure RuleStore × List Event :=
  match service.policyPath with
  | none => (.ok .empty, [.noPolicy])
  | some path => (Policy.loadFile service.reader service.tree path).run

/-- Makes the engine of the service. -/
def start : Action Engine := do
  report [.serviceStarting ((← get).policyPath.map FilePath.toString)]
  let (loaded, events) := (← get).loadStore
  report events
  match loaded with
  | .error failure =>
    report [.serviceFailed]
    throw (.ofLoading failure)
  | .ok store =>
    let engine : Engine := ⟨(← get).nextIdentity, store⟩
    modify fun service =>
      { service with shared := some engine, nextIdentity := service.nextIdentity + 1 }
    report [.engineReady store.ruleCount store.size, .serviceReady]
    pure engine

/-- The engine of the service. -/
def engine : Action Engine := do
  match (← get).shared with
  | some engine => pure engine
  | none => start

/-- Reports that a cache was made for an engine, if one was. -/
def reportCache (engine : Engine) (created : Bool) : Action Unit :=
  if created then report [.cacheCreated engine.store.size] else pure ()

/-- Redacts a text. There is no new text if the very same one came back. -/
def rewrite (engine : Engine) (text : String) : Action (Option String) := do
  let service ← get
  let (out, place, created, pool) := service.pool.rewriteAt service.place engine text
  set { service with place, pool }
  reportCache engine created
  pure out

/-- Redacts a message with the engine of the service. -/
def redact (message : String) : Action String := do
  let out ← rewrite (← engine) message
  pure (out.getD message)

/-- What the cache of the engine reports. -/
def summary : Action Cache.Summary := do
  let engine ← engine
  let service ← get
  let found := service.pool.lookup service.place engine
  set { service with pool := found.pool, place := { service.place with registry := some found.registry } }
  reportCache engine found.created
  match found.pool.caches[found.cache]? with
  | some cache => pure cache.summary
  | none => pure (Cache.ofStore engine.store service.place.thread).summary

/-! ## Filters -/

/-- Keeps a filter under an identifier. -/
def putFilter (id : String) (filter : Filter) : Action Unit :=
  modify fun service =>
    { service with filters := (id, filter) :: service.filters.filter fun (other, _) => other ≠ id }

/-- The engine of a filter, which is the one of the service when the filter first needs it. -/
def filterEngine (id : String) (filter : Filter) : Action Engine := do
  match filter.engine with
  | some engine => pure engine
  | none =>
    let engine ← engine
    putFilter id { filter with engine := some engine }
    pure engine

/-- Passes a record through a filter. -/
def applyFilter (id : String) (record : Record) : Action Record := do
  match (← get).filters.lookup id with
  | none => throw (.unknownFilter id)
  | some filter => record.redact filter.name fun text => do rewrite (← filterEngine id filter) text

/-! ## Steps -/

/-- What can be done. -/
inductive Step
  | setPath (path : Option FilePath)
  | write (name text : String)
  | delete (name : String)
  | reset
  | askEngine
  | redact (message : String)
  | summary
  | addFilter (id name : String)
  | applyFilter (id : String) (record : Record)

/-- What a step answers. -/
inductive Answer
  | nothing
  | engine (engine : Engine)
  | text (text : String)
  | summary (summary : Cache.Summary)
  | record (record : Record)

/-- Does a step. -/
def step : Step → Action Answer
  | .setPath path => do
    modify fun service => { service with policyPath := path }
    return .nothing
  | .write name text => do
    modify fun service => { service with tree := service.tree.write name text }
    return .nothing
  | .delete name => do
    modify fun service => { service with tree := service.tree.delete name }
    return .nothing
  | .reset => do
    modify fun service => { service with shared := none }
    return .nothing
  | .askEngine => do return .engine (← engine)
  | .redact message => do return .text (← redact message)
  | .summary => do return .summary (← summary)
  | .addFilter id name => do
    putFilter id { name }
    return .nothing
  | .applyFilter id record => do return .record (← applyFilter id record)

/-- Does a step on a service, which forgets the events of earlier steps. -/
def next (service : Service) (action : Step) : Except Failure Answer × Service :=
  (step action).run.run { service with events := [] }

end Service
end Redaction
