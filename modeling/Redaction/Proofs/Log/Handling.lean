import Redaction.Log.Handling
import Redaction.Proofs.Effects
import Redaction.Proofs.Record.FilterChain

/-!
# Handling and writing

A record that is handed to a log passes filters, and these may make a cache whose report is handed to the
same log.  Where no such report gets through, handling a record is writing it: the same lines, and the same
log afterwards.

* `Pool.AtHand` — an engine has a cache at a place, so that none has to be made there.
* `Logging.Settled` — a filter can redact without a report that comes back to the log.
* `Logging.exec_rewrite` — in a settled log a filter redacts as in one that is only written to.
* `Logging.Simulates` — an action on a log at work does what an action on the log alone does.
* **`Logging.handle_eq_write`** — handling is writing, if the loggers of the library keep their records to
  themselves or the level of the log keeps the reports out.
-/

namespace Redaction

/-! ## Caches at hand -/

namespace Pool

/-- An engine has a cache at a place: the registry that the place uses notes one. -/
def AtHand (pool : Pool) (place : Place) (engine : Engine) : Prop :=
  ∃ number, (pool.registryAt place).2.cacheIn? (pool.registryAt place).1 engine.identity = some number

instance (pool : Pool) (place : Place) (engine : Engine) : Decidable (pool.AtHand place engine) :=
  decidable_of_iff _ Option.isSome_iff_exists

/-- A context that holds the registry it uses has the same caches at hand as before. -/
lemma atHand_registryAt {pool pool' : Pool} (place : Place) (engine : Engine)
    (h : pool'.registries = (pool.registryAt place).2.registries) :
    pool'.AtHand { place with registry := some (pool.registryAt place).1 } engine
      ↔ pool.AtHand place engine := by
  have howner : pool'.ownerOf (pool.registryAt place).1 = some place.thread := by
    rw [ownerOf, h]
    exact (registryAt_spec pool place).2.1
  rw [AtHand, AtHand, registryAt_of_owner howner]
  simp only [cacheIn?, h]

end Pool

lemma Log.run_write (time : String) (record : Record) (log : Log) :
    (write time record).run log
      = if log.isEnabledFor record.level then (emit time record log.sinks).run log else ("", log) := by
  rw [write, StateT.run_bind]
  by_cases henabled : log.isEnabledFor record.level
  · rw [if_pos henabled]
    exact congrArg (StateT.run · log) (if_pos henabled)
  · rw [if_neg henabled]
    exact congrArg (StateT.run · log) (if_neg henabled)

namespace Logging

/-! ## A filter -/

/-- No report of a new cache gets through: the loggers of the library keep their records to themselves, or
the level of the log keeps the reports out. -/
def Quiet (state : Logging) : Prop :=
  state.propagates = false ∨ Severity.debug.level < state.log.level

instance (state : Logging) : Decidable state.Quiet :=
  inferInstanceAs (Decidable (_ ∨ _))

/-- A filter can redact with an engine without a report that gets through: none does, or no cache has to
be made. -/
def Settled (state : Logging) (engine : Engine) : Prop :=
  state.Quiet ∨ engine.store.isEmpty ∨ state.log.pool.AtHand state.log.place engine

instance (state : Logging) (engine : Engine) : Decidable (state.Settled engine) :=
  inferInstanceAs (Decidable (_ ∨ _ ∨ _))

variable {announce : Cache → Action Unit} {time : String} {room : Nat}

lemma exec_announceTo_of_quiet {state : Logging} (h : state.Quiet) (cache : Cache) :
    exec (announceTo (handle time (room + 1)) cache) state = (.ok (), state) := by
  rw [announceTo, exec_bind_ok (exec_get state)]
  by_cases hpropagates : state.propagates
  · have hlevel : Severity.debug.level < state.log.level := h.resolve_left (by simp [hpropagates])
    have hoff : state.log.isEnabledFor (Cache.report cache).level = false := by
      have hreport : (Cache.report cache).level = Severity.debug.level := rfl
      simp [Log.isEnabledFor, hreport, hlevel]
    rw [if_pos hpropagates, handle, exec_bind_ok (exec_get state), if_neg (by simp [hoff])]
    rfl
  · rw [if_neg hpropagates]
    rfl

/-- The log with a cache that was made for an engine and is not noted yet. -/
def withMade (state : Logging) (engine : Engine) : Logging :=
  { state with log := { state.log with
      pool := ((state.log.pool.registryAt state.log.place).2.addCache
        (Cache.ofStore engine.store state.log.place.thread)).2
      place := { state.log.place with registry := some (state.log.pool.registryAt state.log.place).1 } } }

/-- As long as a cache is not noted, it settles nothing. -/
lemma settled_withMade_iff {state : Logging} {engine : Engine} :
    (state.withMade engine).Settled engine ↔ state.Settled engine :=
  or_congr Iff.rfl (or_congr Iff.rfl (Pool.atHand_registryAt state.log.place engine rfl))

/-- A cache that is at hand is used. -/
lemma exec_contextCache_of_some {state : Logging} {engine : Engine} {number : Nat}
    (h : (state.log.pool.registryAt state.log.place).2.cacheIn?
      (state.log.pool.registryAt state.log.place).1 engine.identity = some number) :
    exec (contextCache announce engine) state
      = (.ok number, { state with log := { state.log with
          pool := (state.log.pool.registryAt state.log.place).2
          place := { state.log.place with
            registry := some (state.log.pool.registryAt state.log.place).1 } } }) := by
  rw [contextCache, exec_bind_ok (exec_get state)]
  simp only [h]
  rfl

/-- A cache that is not at hand is made, announced and noted, in this order. -/
lemma exec_contextCache_of_none {state : Logging} {engine : Engine}
    (h : (state.log.pool.registryAt state.log.place).2.cacheIn?
      (state.log.pool.registryAt state.log.place).1 engine.identity = none) :
    exec (contextCache announce engine) state
      = match exec (announce (Cache.ofStore engine.store state.log.place.thread)) (state.withMade engine) with
        | (.ok _, after) =>
          (.ok (state.log.pool.registryAt state.log.place).2.caches.length,
            after.withPool (after.log.pool.note (state.log.pool.registryAt state.log.place).1 engine.identity
              (state.log.pool.registryAt state.log.place).2.caches.length))
        | (.error fault, after) => (.error fault, after) := by
  rw [contextCache, exec_bind_ok (exec_get state)]
  simp only [h]
  rw [exec_bind_ok (exec_modify _ state), exec_bind_ok (exec_modify _ _), exec_bind]
  simp only [withPool, withMade]
  rcases exec (announce _) _ with ⟨fault | _, after⟩ <;> rfl

/-- **In a settled log a filter redacts** as in one that is only written to. -/
lemma exec_rewrite {state : Logging} {engine : Engine} (h : state.Settled engine) (text : String) :
    exec (rewrite (announceTo (handle time (room + 1))) engine text) state
      = (.ok ((Log.rewrite engine text).run state.log).1,
          { state with log := ((Log.rewrite engine text).run state.log).2 }) := by
  rw [Log.run_rewrite, rewrite, Pool.rewriteAt]
  by_cases hempty : engine.store.isEmpty
  · simp only [hempty, if_true]
    rfl
  · simp only [hempty, if_false, Bool.false_eq_true, Pool.lookup]
    cases hcache : (state.log.pool.registryAt state.log.place).2.cacheIn?
        (state.log.pool.registryAt state.log.place).1 engine.identity with
    | some number =>
        rw [exec_bind_ok (exec_contextCache_of_some hcache)]
        rfl
    | none =>
        have hquiet : state.Quiet := by
          rcases h with h | h | ⟨number, h⟩
          · exact h
          · exact absurd h hempty
          · rw [hcache] at h
            cases h
        have hannounce : exec (announceTo (handle time (room + 1))
            (Cache.ofStore engine.store state.log.place.thread)) (state.withMade engine)
            = (.ok (), state.withMade engine) := exec_announceTo_of_quiet (by exact hquiet) _
        rw [exec_bind, exec_contextCache_of_none hcache, hannounce]
        rfl

/-! ## Handling is writing -/

/-- On a quiet log an action does what another does on the log alone, and the log stays quiet. -/
def Simulates {α : Type} (action : Action α) (plain : Log.Action α) : Prop :=
  ∀ state : Logging, state.Quiet →
    exec action state = (.ok (plain.run state.log).1, { state with log := (plain.run state.log).2 })
      ∧ Quiet { state with log := (plain.run state.log).2 }

section
variable {α β : Type}

lemma Simulates.pure (a : α) : Simulates (pure a) (pure a) :=
  fun _ h => ⟨rfl, h⟩

lemma Simulates.bind {action : Action α} {plain : Log.Action α} {further : α → Action β}
    {plainFurther : α → Log.Action β} (h : Simulates action plain)
    (hfurther : ∀ a, Simulates (further a) (plainFurther a)) :
    Simulates (action >>= further) (plain >>= plainFurther) := by
  intro state hquiet
  obtain ⟨hexec, hquiet⟩ := h state hquiet
  obtain ⟨hexec', hquiet⟩ := hfurther _ _ hquiet
  exact ⟨(exec_bind_ok hexec).trans hexec', hquiet⟩

end

lemma simulates_rewrite (engine : Engine) (text : String) :
    Simulates (rewrite (announceTo (handle time (room + 1))) engine text) (Log.rewrite engine text) :=
  fun _ h => ⟨exec_rewrite (.inl h) text, h⟩

lemma Simulates.filter (record : Record) (name : String) {rewrite : String → Action (Option String)}
    {plain : String → Log.Action (Option String)} (h : ∀ text, Simulates (rewrite text) (plain text)) :
    Simulates (record.filter name rewrite) (record.filter name plain) := by
  rw [Record.filter, Record.filter]
  by_cases hselected : record.isSelectedBy name
  · simp only [hselected, if_true]
    cases record.render with
    | error fault => exact .pure _
    | ok text => exact (h text).bind fun out => by cases out <;> exact .pure _
  · simp only [hselected]
    exact .pure _

lemma simulates_filterAll (record : Record) (filters : List (String × Engine)) :
    Simulates (filterAll (announceTo (handle time (room + 1))) record filters)
      (Log.filterAll record filters) := by
  induction filters generalizing record with
  | nil => exact .pure _
  | cons filter rest ih =>
      refine (Simulates.filter record filter.1 (simulates_rewrite filter.2)).bind fun ⟨goesOn, record⟩ => ?_
      cases goesOn
      · exact .pure _
      · exact ih record

lemma exec_print (texts : List String) (state : Logging) :
    exec (print texts) state = (.ok (), { state with printed := state.printed ++ texts }) := rfl

/-- What a sink prints of a record is what it writes. -/
lemma join_printout (line : Except Record.LineFault String) (goesOn : Bool) :
    String.join (if goesOn then printout line else [])
      = match goesOn, line with
        | true, .ok line => line ++ "\n"
        | _, _ => "" := by
  cases goesOn <;> cases line <;> simp [printout]

/-- On a quiet log a record prints at every sink what it writes there. -/
lemma exec_emit (record : Record) (sinks : List Sink) {state : Logging} (h : state.Quiet) :
    ∃ lines, exec (emit (announceTo (handle time (room + 1))) time record sinks) state
        = (.ok (), { state with
            log := ((Log.emit time record sinks).run state.log).2, printed := state.printed ++ lines })
      ∧ String.join lines = ((Log.emit time record sinks).run state.log).1 := by
  induction sinks generalizing state record with
  | nil => exact ⟨[], by simp [emit, Log.emit]; rfl, rfl⟩
  | cons sink rest ih =>
      rw [emit, Log.emit]
      cases hlayout : sink.layout with
      | none => exact ih record h
      | some layout =>
          by_cases hlevel : sink.level ≤ record.level
          · simp only [hlevel, if_true]
            obtain ⟨hexec, hquiet⟩ := simulates_filterAll record sink.filters state h
            rw [exec_bind_ok hexec, StateT.run_bind]
            generalize (Log.filterAll record sink.filters).run state.log = outcome at hquiet ⊢
            obtain ⟨⟨goesOn, final⟩, between⟩ := outcome
            have hprinted : Quiet ⟨between, state.propagates, state.printed ++
                if goesOn then printout (layout.line time final) else []⟩ := hquiet
            obtain ⟨lines, hrest, hjoin⟩ := ih final hprinted
            refine ⟨(if goesOn then printout (layout.line time final) else []) ++ lines, ?_, ?_⟩
            · rw [exec_bind_ok (exec_print _ _)]
              refine hrest.trans ?_
              rw [List.append_assoc]
              rfl
            · rw [String.join_append, join_printout, hjoin]
              rfl
          · simp only [hlevel, if_false]
            exact ih record h

/-- **Handling is writing.**  On a quiet log a record that is handed on does to the log what writing it does,
and prints the same, sink by sink. -/
theorem handle_eq_write (record : Record) {state : Logging} (h : state.Quiet) :
    ∃ lines, exec (handle time (room + 2) record) state
        = (.ok (), { state with
            log := ((Log.write time record).run state.log).2, printed := state.printed ++ lines })
      ∧ String.join lines = ((Log.write time record).run state.log).1 := by
  rw [handle, exec_bind_ok (exec_get state)]
  rw [Log.run_write]
  by_cases henabled : state.log.isEnabledFor record.level
  · simp only [henabled, if_true]
    exact exec_emit record state.log.sinks h
  · simp only [henabled, if_false, Bool.false_eq_true]
    exact ⟨[], by simp, rfl⟩

end Logging
end Redaction
