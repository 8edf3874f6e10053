import Redaction.Proofs.Effects
import Redaction.Session

/-!
# What the actions of a session do

Steps of a session are put together from a few actions.  The lemmas here say what each of them answers
and which session it leaves, as `exec` sees it; the proofs about runs use nothing else.

* `registryOf`, `holding` — reading and setting the registry of a context, as plain functions.
* **`exec_contextCache`** — what looking up the context cache of an engine does: one `Pool.lookup` at
  the place of the spot, whose registry the context holds from then on.
-/

namespace Redaction.Session

/-! ## Names -/

lemma exec_named {α : Type} (items : List (String × α)) (name : String) (session : Session) :
    exec (named items name) session
      = match items.lookup name with
        | some item => (.ok item, session)
        | none => (.error (.unknownName name), session) := by
  unfold named
  cases items.lookup name <;> rfl

lemma exec_engineNamed (name : String) (session : Session) :
    exec (engineNamed name) session = exec (named session.engines name) session := rfl

lemma exec_cacheNamed (name : String) (session : Session) :
    exec (cacheNamed name) session = exec (named session.kept name) session := rfl

/-! ## Contexts -/

/-- The registry that the context of a spot holds; a context that was never made is a fault. -/
def registryOf (session : Session) (spot : Spot) : Except Fault (Option Nat) :=
  match spot.context with
  | some name =>
    match session.contexts.lookup name with
    | some registry => .ok registry
    | none => .error (.unknownName name)
  | none => .ok ((session.threads.lookup spot.thread).getD none)

lemma exec_registryAt (spot : Spot) (session : Session) :
    exec (registryAt spot) session = (registryOf session spot, session) := by
  rw [registryAt, exec_bind, exec_get, registryOf]
  cases spot.context with
  | none => rfl
  | some name =>
      show exec (named session.contexts name) session
        = (match session.contexts.lookup name with
          | some registry => .ok registry
          | none => .error (.unknownName name), session)
      rw [exec_named]
      cases session.contexts.lookup name <;> rfl

/-- The session whose context at a spot holds a registry. -/
def holding (session : Session) (spot : Spot) (registry : Nat) : Session :=
  match spot.context with
  | some name => { session with contexts := put name (some registry) session.contexts }
  | none => { session with threads := put spot.thread (some registry) session.threads }

@[simp] lemma holding_pool (session : Session) (spot : Spot) (registry : Nat) :
    (session.holding spot registry).pool = session.pool := by
  unfold holding
  split <;> rfl

@[simp] lemma holding_engines (session : Session) (spot : Spot) (registry : Nat) :
    (session.holding spot registry).engines = session.engines := by
  unfold holding
  split <;> rfl

@[simp] lemma holding_nextIdentity (session : Session) (spot : Spot) (registry : Nat) :
    (session.holding spot registry).nextIdentity = session.nextIdentity := by
  unfold holding
  split <;> rfl

/-- **Looking up a context cache.** -/
theorem exec_contextCache (spot : Spot) (engine : Engine) (session : Session) :
    exec (contextCache spot engine) session
      = match registryOf session spot with
        | .ok registry =>
          let found := session.pool.lookup ⟨spot.thread, registry⟩ engine
          (.ok found.cache, holding { session with pool := found.pool } spot found.registry)
        | .error fault => (.error fault, session) := by
  rw [contextCache, exec_bind, exec_registryAt]
  cases registryOf session spot with
  | ok registry => rfl
  | error fault => rfl

end Redaction.Session
