import Redaction.Engine.Handle
import Redaction.Text.Substring

/-!
# Caches

A cache holds a handle of its own for each rule of a store, in the groups of the store, and belongs to
the thread that made it.

* `Cache.ofStore`: a fresh cache.
* `Cache.redact`: redacts a text. For each group in order the trigger is looked up in the text as it
  stands; if it is there, each rule of the group is applied to what the rules before it have left.
* `Cache.handles`, `Cache.summary`: what a cache holds.
-/

namespace Redaction

/-- A thread, by its name. -/
abbrev Thread := String

/-- Handles of rules that share a trigger. -/
structure HandleGroup where
  trigger : String
  handles : List Handle

/-- The handles for the rules of a store. -/
structure Cache where
  groups : List HandleGroup
  owner : Thread

/-- What a cache reports about itself. -/
structure Cache.Summary where
  triggerCount : Nat
  ruleCount : Nat
  appliedCount : Nat
  thread : Thread
deriving Repr, DecidableEq

/-- Applies rules in order, each to what the one before has left. -/
def redactHandles (text : String) : List Handle → String × List Handle
  | [] => (text, [])
  | handle :: rest =>
    let (text, handle) := handle.redact text
    let (text, rest) := redactHandles text rest
    (text, handle :: rest)

/-- Applies the rules of a group if its trigger occurs in the text. -/
def HandleGroup.redact (group : HandleGroup) (text : String) : String × HandleGroup :=
  if Text.occursIn group.trigger text then
    let (text, handles) := redactHandles text group.handles
    (text, { group with handles })
  else (text, group)

/-- Applies groups in order. -/
def redactGroups (text : String) : List HandleGroup → String × List HandleGroup
  | [] => (text, [])
  | group :: rest =>
    let (text, group) := group.redact text
    let (text, rest) := redactGroups text rest
    (text, group :: rest)

namespace Cache

/-- A cache with a fresh handle for each rule. -/
def ofStore (store : RuleStore) (owner : Thread) : Cache where
  groups := store.groups.map fun group => ⟨group.trigger, group.rules.map Handle.ofRule⟩
  owner := owner

/-- All handles in the order in which their rules are applied. -/
def handles (cache : Cache) : List Handle :=
  cache.groups.flatMap (·.handles)

/-- How many times rules were applied. -/
def appliedCount (cache : Cache) : Nat :=
  (cache.handles.map (·.matchCount)).foldl (· + ·) 0

/-- What the cache reports about itself. -/
def summary (cache : Cache) : Summary where
  triggerCount := cache.groups.length
  ruleCount := cache.handles.length
  appliedCount := cache.appliedCount
  thread := cache.owner

/-- How a cache is shown; `identity` stands for its place in memory. -/
def describe (cache : Cache) (identity : String) : String :=
  "<MatcherCache triggers=" ++ Text.decimal cache.groups.length ++ " thread_id=" ++ cache.owner ++
    " context_id=" ++ identity ++ ">"

/-- Redacts a text with the rules of the cache. -/
def redact (cache : Cache) (text : String) : String × Cache :=
  let (text, groups) := redactGroups text cache.groups
  (text, { cache with groups })

/-- Changes the handle at an index of `handles`. -/
def setHandle (cache : Cache) (index : Nat) (handle : Handle) : Cache :=
  let step := fun (state : Nat × List HandleGroup) (group : HandleGroup) =>
    let (start, groups) := state
    let handles := if start ≤ index then group.handles.set (index - start) handle else group.handles
    (start + group.handles.length, groups ++ [{ group with handles }])
  { cache with groups := (cache.groups.foldl step (0, [])).2 }

end Cache

/-- A redaction engine: a store under an identity of its own. -/
structure Engine where
  identity : Nat
  store : RuleStore

/-- Redacts a text with a cache. An engine without rules leaves the text and the cache alone. -/
def Engine.redact (engine : Engine) (cache : Cache) (text : String) : String × Cache :=
  if engine.store.isEmpty then (text, cache) else cache.redact text

end Redaction
