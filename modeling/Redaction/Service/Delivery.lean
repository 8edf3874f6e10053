import Redaction.Log.Handling
import Redaction.Service

/-!
# The service among the handlers of a log

The service reports to the log what it does, and filters that take the engine of the service may stand in the
way of these very reports. The service makes its engine under a lock. A thread that asks for a lock which it
holds itself waits for ever.

* `Routing`: a set-up of the log, as the way that a record takes through filters to where it is written.
* `Installation`: a service with its lock, and what has been printed.
* `Installation.start`: makes the engine under the lock, and hands a record to the log for each event.
* `Installation.handle`: hands a record to the log; `room` is how many records may be handled inside one another.
* `Installation.engine`: the engine of the service, made if need be.
* `Installation.Step`, `Installation.step`: what a program can do, and doing it.
-/

namespace Redaction

/-! ## Records of events -/

/-- The file and the function that an event is reported from. -/
def Event.origin : Event → String × String
  | emptyPolicyFile _ | unreadablePolicy _ _ => ("loader.py", "load_policy_file")
  | ruleCompiled _ _ _ => ("loader.py", "_compile_rule")
  | emptyPolicy _ | malformedPolicy _ _ | versionMissing _ | versionUnsupported _ _ => ("loader.py", "load_policy")
  | invalidRule _ _ | policyLoaded _ _ _ => ("loader.py", "load_policy")
  | engineReady _ _ => ("redactor.py", "__init__")
  | cacheCreated _ => ("matchers.py", "__init__")
  | serviceStarting _ | noPolicy | serviceReady | serviceFailed => ("pipeline.py", "get_instance")

/-- The record that reports an event. Tracebacks are left out. -/
def Event.record (event : Event) : Record where
  message := .str event.message
  arguments := some (.row [])
  logger := event.channel.logger
  level := event.severity.level
  path := event.origin.1
  line := 0
  function := some event.origin.2
  extras := event.extras
  raised := none

/-! ## The log -/

/-- A station of a record: a filter, known by its identifier, or a place where the record is written. -/
inductive Station
  | filter (id : String)
  | output (layout : Layout)
deriving Repr, DecidableEq

/-- A set-up of the log: the stations of the records of a logger, by their level, in order. A record that is
not taken, by a logger or by a handler, has no stations there. -/
abbrev Routing := String → Int → List Station

/-- The set-up where only the root logger has a level and handlers, each with a level of its own. -/
def Routing.root (level : Int) (handlers : List (Int × List Station)) : Routing := fun _ recordLevel =>
  if 0 < recordLevel && level ≤ recordLevel then
    (handlers.filter fun (least, _) => least ≤ recordLevel).flatMap Prod.snd
  else []

/-- A service that reports to a log, with the filters that are in use there. -/
structure Installation where
  service : Service
  /-- Whether the lock of the service is taken, by the thread that is at work. -/
  locked : Bool := false
  /-- What has been printed, one text for each record and output. -/
  printed : List String := []

/-- The events that the service reports until the policy is loaded, or cannot be. -/
def Service.openings (service : Service) : List Event :=
  .serviceStarting (service.policyPath.map FilePath.toString) :: service.loadStore.2

namespace Installation

/-- Why work does not come to its end. -/
inductive Halt
  /-- The engine cannot be made. -/
  | failed (failure : Service.Failure)
  /-- More records are being handled inside one another than there is room for. -/
  | tooDeep
  /-- The engine was not made for want of room. -/
  | overflown
  /-- The thread waits for a lock that it holds itself. -/
  | waiting
deriving Repr, DecidableEq

/-- Work on an installation that may halt. What was done before that stays done. -/
abbrev Action (α : Type) := ExceptT Halt (StateM Installation) α

/-- The same with another pool. -/
def withPool (state : Installation) (pool : Pool) : Installation :=
  { state with service := { state.service with pool } }

/-! ## Redaction -/

/-- The cache of an engine where the service is at work. A new one is announced before it is noted. -/
def contextCache (announce : Cache → Action Unit) (engine : Engine) : Action Nat := do
  let service := (← get).service
  let (registry, pool) := service.pool.registryAt service.place
  modify fun state =>
    { state with service := { service with pool, place := { service.place with registry := some registry } } }
  match pool.cacheIn? registry engine.identity with
  | some number => return number
  | none =>
    let cache := Cache.ofStore engine.store service.place.thread
    let (number, pool) := pool.addCache cache
    modify (·.withPool pool)
    announce cache
    modify fun state => state.withPool (state.service.pool.note registry engine.identity number)
    return number

/-- Redacts a text. There is no new text if the very same one came back. -/
def rewrite (announce : Cache → Action Unit) (engine : Engine) (text : String) :
    Action (Option String) := do
  if engine.store.isEmpty then return none
  else
    let number ← contextCache announce engine
    let (out, pool) := (← get).service.pool.rewriteWith engine number text
    modify (·.withPool pool)
    return out

/-! ## Filters -/

/-- The engine that the service has, or else one that is made. -/
def sharedEngine (start : Action Engine) : Action Engine := do
  match (← get).service.shared with
  | some engine => return engine
  | none => start

/-- The engine of a filter, which is the one of the service when the filter first needs it. -/
def filterEngine (start : Action Engine) (id : String) (filter : Service.Filter) : Action Engine := do
  match filter.engine with
  | some engine => return engine
  | none =>
    let engine ← sharedEngine start
    modify fun state =>
      { state with service := { state.service with
          filters := (id, { filter with engine := some engine }) ::
            state.service.filters.filter fun (other, _) => other ≠ id } }
    return engine

/-- Passes a record through a filter. -/
def passFilter (start : Action Engine) (announce : Cache → Action Unit) (id : String) (record : Record) :
    Action Record := do
  match (← get).service.filters.lookup id with
  | none => return record
  | some filter =>
    record.redact filter.name fun text => do rewrite announce (← filterEngine start id filter) text

/-- Passes a record through stations in order. -/
def pass (start : Action Engine) (announce : Cache → Action Unit) (time : String) :
    List Station → Record → Action Unit
  | [], _ => return
  | .filter id :: rest, record => do
    let record ← passFilter start announce id record
    pass start announce time rest record
  | .output layout :: rest, record => do
    modify fun state => { state with printed := state.printed ++ Logging.printout (layout.line time record) }
    pass start announce time rest record

/-! ## The engine of the service -/

/-- Hands a record to the log for each event, in order. -/
def tell (handle : Record → Action Unit) : List Event → Action Unit
  | [] => return
  | event :: rest => do
    handle event.record
    tell handle rest

/-- The same after one more engine was made. -/
def counted (state : Installation) : Installation :=
  { state with service := { state.service with nextIdentity := state.service.nextIdentity + 1 } }

/-- The same where the service has an engine. -/
def sharing (state : Installation) (engine : Engine) : Installation :=
  { state with service := { state.service with shared := some engine } }

/-- Makes the engine of a store. The service has it before it says so, but not before the engine itself does. -/
def install (handle : Record → Action Unit) (store : RuleStore) : Action Engine := do
  let engine : Engine := ⟨(← get).service.nextIdentity, store⟩
  modify counted
  tell handle [.engineReady store.ruleCount store.size]
  modify (·.sharing engine)
  tell handle [.serviceReady]
  return engine

/-- Loads the policy and makes the engine. -/
def build (handle : Record → Action Unit) : Action Engine := do
  let service := (← get).service
  tell handle service.openings
  match service.loadStore.1 with
  | .error failure => throw (.failed (.ofLoading failure))
  | .ok store => install handle store

/-- What a halt is to whoever asked for the engine: want of room is a failure like any other. -/
def Halt.raised : Halt → Halt
  | tooDeep => overflown
  | halt => halt

/-- What comes of work that was halted while the engine was made: the halt is reported and passed on. A thread
that waits does nothing any more. -/
def giveUp (handle : Record → Action Unit) (halt : Halt) : Action Engine := do
  if halt = .waiting then throw .waiting
  else
    tell handle [.serviceFailed]
    throw halt.raised

/-- Takes or gives back the lock. -/
def setLock (locked : Bool) : Action Unit :=
  modify fun state => { state with locked }

/-- Does something under the lock, which is given back at the end, also if that is a failure. -/
def underLock {α : Type} (action : Action α) : Action α := do
  if (← get).locked then throw .waiting
  else
    setLock true
    let a ← tryCatch action fun halt => do
      if halt ≠ .waiting then setLock false
      throw halt
    setLock false
    return a

/-- Makes the engine under the lock. -/
def start (handle : Record → Action Unit) : Action Engine :=
  underLock (tryCatch (build handle) (giveUp handle))

/-- Hands a record to the log. What is reported on the way is handed to it in turn. -/
def handle (routing : Routing) (time : String) : (room : Nat) → Record → Action Unit
  | 0, _ => throw .tooDeep
  | room + 1, record =>
    pass (start (handle routing time room)) (fun cache => handle routing time room cache.report) time
      (routing record.logger record.level) record

/-- The engine of the service. -/
def engine (routing : Routing) (time : String) (room : Nat) : Action Engine :=
  sharedEngine (start (handle routing time room))

/-- Drops the engine of the service, under the lock. -/
def reset : Action Unit :=
  underLock (modify fun state => { state with service := { state.service with shared := none } })

/-! ## Steps -/

/-- What a program does with an installation. -/
inductive Step
  | ask
  | log (record : Record)
  | reset
  | setPath (path : Option FilePath)
  | write (name text : String)
  | delete (name : String)

/-- Does a step. -/
def step (routing : Routing) (time : String) (room : Nat) : Step → Action Unit
  | .ask => do
    let _ ← engine routing time room
    return
  | .log record => handle routing time room record
  | .reset => reset
  | .setPath path => modify fun state =>
    { state with service := { state.service with policyPath := path } }
  | .write name text => modify fun state =>
    { state with service := { state.service with tree := state.service.tree.write name text } }
  | .delete name => modify fun state =>
    { state with service := { state.service with tree := state.service.tree.delete name } }

end Installation
end Redaction
