import Redaction.Log

/-!
# Handling records

An engine makes a cache when it is first used in a context, and reports that to the log: after the cache is
made and before it is noted. The report is a record like any other. If its level is high enough it reaches
the sinks of the log, and there it passes the very filters that have asked for the cache.

* `Logging`: a log at work, with what it has printed.
* `Logging.contextCache`: the cache of an engine in a context, made and reported on first use.
* `Logging.handle`: hands a record to the log; `room` is how many records may be handled inside one another.
-/

namespace Redaction

/-- The record that reports a new cache. -/
def Cache.report (cache : Cache) : Record where
  message := .str (Event.cacheCreated cache.groups.length).message
  arguments := some (.row [])
  logger := Channel.cache.logger
  level := Severity.debug.level
  path := "matchers.py"
  line := 0
  function := some "__init__"
  extras := (Event.cacheCreated cache.groups.length).extras ++ [("thread_id", .str cache.owner)]
  raised := none

/-- A log at work. -/
structure Logging where
  log : Log
  /-- Whether the loggers of the library hand their records on to the log. -/
  propagates : Bool := true
  /-- What has been printed, one text for each record and sink. -/
  printed : List String := []

namespace Logging

/-- More records are being handled inside one another than there is room for. -/
structure TooDeep
deriving Repr, DecidableEq

/-- Work on a log that may run out of room. What was done before that stays done. -/
abbrev Action (α : Type) := ExceptT TooDeep (StateM Logging) α

/-- The same with another pool. -/
def withPool (state : Logging) (pool : Pool) : Logging :=
  { state with log := { state.log with pool } }

/-- The cache of an engine where the log is at work. A new one is announced before it is noted. -/
def contextCache (announce : Cache → Action Unit) (engine : Engine) : Action Nat := do
  let log := (← get).log
  let (registry, pool) := log.pool.registryAt log.place
  modify fun state =>
    { state with log := { log with pool, place := { log.place with registry := some registry } } }
  match pool.cacheIn? registry engine.identity with
  | some number => return number
  | none =>
    let cache := Cache.ofStore engine.store log.place.thread
    let (number, pool) := pool.addCache cache
    modify (·.withPool pool)
    announce cache
    modify fun state => state.withPool (state.log.pool.note registry engine.identity number)
    return number

/-- Redacts a text. There is no new text if the very same one came back. -/
def rewrite (announce : Cache → Action Unit) (engine : Engine) (text : String) :
    Action (Option String) := do
  if engine.store.isEmpty then return none
  else
    let number ← contextCache announce engine
    let (out, pool) := (← get).log.pool.rewriteWith engine number text
    modify (·.withPool pool)
    return out

/-- Passes a record through filters in order, up to the first that holds it back. -/
def filterAll (announce : Cache → Action Unit) (record : Record) :
    List (String × Engine) → Action (Bool × Record)
  | [] => return (true, record)
  | (name, engine) :: rest => do
    let (goesOn, record) ← record.filter name (rewrite announce engine)
    if goesOn then filterAll announce record rest else return (false, record)

/-- What is printed of a line: the line with a line break, or nothing if it cannot be written. -/
def printout (line : Except Record.LineFault String) : List String :=
  match line with
  | .ok line => [line ++ "\n"]
  | .error _ => []

/-- Prints texts. -/
def print (texts : List String) : Action Unit :=
  modify fun state => { state with printed := state.printed ++ texts }

/-- Passes a record through the sinks in order. -/
def emit (announce : Cache → Action Unit) (time : String) (record : Record) : List Sink → Action Unit
  | [] => return
  | sink :: rest => do
    match sink.layout with
    | none => emit announce time record rest
    | some layout =>
      if sink.level ≤ record.level then
        let (goesOn, record) ← filterAll announce record sink.filters
        print (if goesOn then printout (layout.line time record) else [])
        emit announce time record rest
      else emit announce time record rest

/-- Hands the report of a new cache on, if the loggers of the library do that. -/
def announceTo (handle : Record → Action Unit) (cache : Cache) : Action Unit := do
  if (← get).propagates then handle cache.report else return

/-- Hands a record to the log. The reports of caches that are made on the way are handed to it in turn. -/
def handle (time : String) : (room : Nat) → Record → Action Unit
  | 0, _ => throw ⟨⟩
  | room + 1, record => do
    let log := (← get).log
    if log.isEnabledFor record.level then
      emit (announceTo (handle time room)) time record log.sinks
    else return

end Logging
end Redaction
