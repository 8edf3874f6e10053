import Mathlib.Tactic.Lemma

/-!
# Actions with a state that may fail

Sessions, the loading of policies and the service are written with one kind of monad: a state is threaded
through, an action may fail, and what it had done to the state until then stays done.  For reasoning about
runs what matters is the *function* from a state to the answer and the state after it.  `exec` is that
function, and the lemmas of this file compute it, so that later proofs never open the monad.

* `exec_bind` — one action after another; a failure keeps the state it was reached with.
* `exec_bind_ok`, `exec_bind_error` — the same where the answer of the first action is known.
* `exec_bind_fst` — the answer alone, where only the first action can fail.
* `exec_bind_part`, `exec_bind_frame` — a part of the state that only the first action changes, or nobody.
* `exec_tryCatch` — what handles failures.
* `exists_of_bind`, `ok_of_mapError` — what is known of the parts of something that succeeded.
* `error_of_bind` — which part of something failed.
* `eq_ok_of_isOk`, `exists_of_toOption_map` — results that were computed.
-/

namespace Redaction

variable {ε σ α β : Type}

/-- The answer of an action and the state after it. -/
def exec (action : ExceptT ε (StateM σ) α) (state : σ) : Except ε α × σ :=
  action.run.run state

@[simp] lemma exec_pure (a : α) (state : σ) :
    exec (pure a : ExceptT ε (StateM σ) α) state = (.ok a, state) := rfl

@[simp] lemma exec_throw (fault : ε) (state : σ) :
    exec (throw fault : ExceptT ε (StateM σ) α) state = (.error fault, state) := rfl

@[simp] lemma exec_get (state : σ) :
    exec (get : ExceptT ε (StateM σ) σ) state = (.ok state, state) := rfl

@[simp] lemma exec_set (after state : σ) :
    exec (set after : ExceptT ε (StateM σ) PUnit) state = (.ok ⟨⟩, after) := rfl

@[simp] lemma exec_modify (change : σ → σ) (state : σ) :
    exec (modify change : ExceptT ε (StateM σ) PUnit) state = (.ok ⟨⟩, change state) := rfl

lemma exec_bind (action : ExceptT ε (StateM σ) α) (further : α → ExceptT ε (StateM σ) β)
    (state : σ) :
    exec (action >>= further) state
      = match exec action state with
        | (.ok a, after) => exec (further a) after
        | (.error fault, after) => (.error fault, after) := by
  unfold exec ExceptT.run StateT.run
  simp only [bind, ExceptT.bind, ExceptT.mk, StateT.bind, ExceptT.bindCont]
  rcases action state with ⟨fault | a, after⟩ <;> rfl

/-- An action whose answer is known goes on with that answer. -/
lemma exec_bind_ok {action : ExceptT ε (StateM σ) α} {further : α → ExceptT ε (StateM σ) β}
    {state after : σ} {a : α} (h : exec action state = (.ok a, after)) :
    exec (action >>= further) state = exec (further a) after := by
  rw [exec_bind, h]

/-- An action that fails is not continued. -/
lemma exec_bind_error {action : ExceptT ε (StateM σ) α} {further : α → ExceptT ε (StateM σ) β}
    {state after : σ} {fault : ε} (h : exec action state = (.error fault, after)) :
    exec (action >>= further) state = (.error fault, after) := by
  rw [exec_bind, h]

/-- An action that is followed only by what always succeeds fails as it does alone. -/
lemma exec_bind_fst {action : ExceptT ε (StateM σ) α} {further : α → ExceptT ε (StateM σ) β}
    {answer : α → β} (h : ∀ a after, (exec (further a) after).1 = .ok (answer a)) (state : σ) :
    (exec (action >>= further) state).1 = (exec action state).1.map answer := by
  rw [exec_bind]
  rcases exec action state with ⟨fault | a, after⟩
  · rfl
  · exact h a after

/-- Making an answer from the one of an action leaves the state as the action does. -/
lemma exec_return_snd {action : ExceptT ε (StateM σ) α} {answer : α → β} (state : σ) :
    (exec (do return answer (← action)) state).2 = (exec action state).2 := by
  rw [exec_bind]
  rcases exec action state with ⟨fault | a, after⟩ <;> rfl

lemma exec_return_fst {action : ExceptT ε (StateM σ) α} {answer : α → β} (state : σ) :
    (exec (do return answer (← action)) state).1 = (exec action state).1.map answer :=
  exec_bind_fst (fun _ _ => rfl) state

/-- A part of the state that all further actions leave alone is as the first action leaves it. -/
lemma exec_bind_part {τ : Type} (part : σ → τ) {action : ExceptT ε (StateM σ) α}
    {further : α → ExceptT ε (StateM σ) β}
    (h : ∀ a after, part (exec (further a) after).2 = part after) (state : σ) :
    part (exec (action >>= further) state).2 = part (exec action state).2 := by
  rw [exec_bind]
  rcases exec action state with ⟨fault | a, after⟩
  · rfl
  · exact h a after

/-- A part of the state that each of two actions leaves alone is left alone by one after the other. -/
lemma exec_bind_frame {τ : Type} (part : σ → τ) {action : ExceptT ε (StateM σ) α}
    {further : α → ExceptT ε (StateM σ) β} {state : σ}
    (h : part (exec action state).2 = part state)
    (hfurther : ∀ a after, part (exec (further a) after).2 = part after) :
    part (exec (action >>= further) state).2 = part state :=
  (exec_bind_part part hfurther state).trans h

/-- What handles a failure goes on in the state that the failure was reached with. -/
lemma exec_tryCatch (action : ExceptT ε (StateM σ) α) (handler : ε → ExceptT ε (StateM σ) α) (state : σ) :
    exec (tryCatch action handler) state
      = match exec action state with
        | (.ok a, after) => (.ok a, after)
        | (.error fault, after) => exec (handler fault) after := by
  unfold exec
  simp only [tryCatch, tryCatchThe, MonadExceptOf.tryCatch, ExceptT.tryCatch, ExceptT.run, ExceptT.mk,
    StateT.run, bind, StateT.bind]
  rcases action state with ⟨fault | a, after⟩ <;> rfl

/-- Two actions that do the same from where they are can be followed by the same. -/
lemma exec_bind_congr {action : ExceptT ε (StateM σ) α} {other : ExceptT ε (StateM σ) α}
    {state state' : σ} (h : exec action state = exec other state') (further : α → ExceptT ε (StateM σ) β) :
    exec (action >>= further) state = exec (other >>= further) state' := by
  rw [exec_bind, exec_bind, h]

/-- Two steps that succeed one after the other succeed each. -/
lemma exists_of_bind {first : Except ε α} {further : α → Except ε β} {b : β}
    (h : first >>= further = .ok b) : ∃ a, first = .ok a ∧ further a = .ok b := by
  cases first with
  | error fault => cases h
  | ok a => exact ⟨a, rfl, h⟩

/-- Of two steps one after the other that fail, the first fails or the second one. -/
lemma error_of_bind {first : Except ε α} {further : α → Except ε β} {fault : ε}
    (h : first >>= further = .error fault) :
    first = .error fault ∨ ∃ a, first = .ok a ∧ further a = .error fault := by
  cases first with
  | error found => exact .inl (congrArg Except.error (Except.error.inj h))
  | ok a => exact .inr ⟨a, rfl, h⟩

/-- What succeeds with its faults renamed succeeds without that. -/
lemma ok_of_mapError {ε' : Type} {rename : ε → ε'} {first : Except ε α} {a : α}
    (h : first.mapError rename = .ok a) : first = .ok a := by
  cases first with
  | error fault => cases h
  | ok found => exact congrArg Except.ok (Except.ok.inj h)

/-- What a computation shows to have succeeded has the result that it shows. -/
lemma eq_ok_of_isOk {result : Except ε α} (h : result.isOk) (other : α) :
    result = .ok (result.toOption.getD other) := by
  cases result with
  | error fault => cases h
  | ok a => rfl

lemma exists_of_toOption_map {result : Except ε α} {f : α → β} {b : β}
    (h : result.toOption.map f = some b) : ∃ a, result = .ok a ∧ f a = b := by
  cases result with
  | error fault => cases h
  | ok a => exact ⟨a, rfl, Option.some.inj h⟩

/-- Whether something failed for a reason can be computed, also where results cannot be compared. -/
instance decidableFailedFor [DecidableEq ε] (result : Except ε α) (fault : ε) :
    Decidable (result = .error fault) :=
  match result with
  | .ok _ => isFalse (fun h => by cases h)
  | .error found => decidable_of_iff (found = fault) ⟨congrArg _, Except.error.inj⟩

end Redaction
