import Redaction.Engine.Trace
import Redaction.Record.Basic

/-!
# Filters

A filter redacts the messages of records as they pass. It drops no record: its name only narrows which
records it redacts, and a record whose message cannot be rendered passes as it is.

* `Record.isSelectedBy`: whether a filter's name covers a record.
* `Record.filter`: whether a filter lets a record go on, and what it makes of it.
* `Record.redact`: the second of these alone.
-/

namespace Redaction.Record

/-- Whether a filter of a name covers a record: the name is empty, or that of the record's logger, or of a
logger above it. -/
def isSelectedBy (record : Record) (name : String) : Bool :=
  name.isEmpty || record.logger = name || (name.toList ++ ['.']).isPrefixOf record.logger.toList

/-- The record with another message, which is complete. -/
def withText (record : Record) (text : String) : Record :=
  { record with message := .str text, arguments := none }

/-- Whether the message was replaced. -/
def isRewritten (record : Record) : Bool :=
  record.arguments.isNone

/-- Passes a record through a filter, which redacts its rendered message: whether the record goes on, and
the record as it is then. The record keeps its message and arguments if the very same text comes back. -/
def filter {m : Type → Type} [Monad m] (name : String) (rewrite : String → m (Option String))
    (record : Record) : m (Bool × Record) :=
  if record.isSelectedBy name then
    match record.render with
    | .error _ => pure (true, record)
    | .ok text => do
      match ← rewrite text with
      | none => pure (true, record)
      | some text => pure (true, record.withText text)
  else pure (true, record)

/-- What a filter makes of a record. -/
def redact {m : Type → Type} [Monad m] (name : String) (rewrite : String → m (Option String))
    (record : Record) : m Record := do
  let (_, record) ← record.filter name rewrite
  return record

/-- Redacts a text with a cache that is at hand. -/
def rewriteHere (engine : Engine) (text : String) : StateM Cache (Option String) := do
  let (out, cache) := engine.rewrite (← get) text
  set cache
  pure out

/-- Redacts a record with an engine and a cache. -/
def redactWith (name : String) (engine : Engine) (record : Record) (cache : Cache) : Record × Cache :=
  StateT.run (record.redact name (rewriteHere engine)) cache

end Redaction.Record
