import Redaction.Proofs.Engine.Totality
import Redaction.Proofs.Service.Filters

/-!
# Calling a filter

A filter is called in the middle of somebody else's call to the log, with that caller's own record.  What
is raised in a filter is raised in the caller.  `applyFilter` tells what becomes of a record; here the call is
written down once more as the caller meets it (`callFilter`).  It answers whether the record goes on, it
changes the record in place, one attribute after the other, and it may raise an error wherever something can
go wrong: when the engine is looked up, and when a replacement is read for a match.

* `Service.Readable` — the replacements of all engines that are referred to can be read.  Steps keep this,
  for what they load is readable: `next_knows`, `after_readable`.
* `exec_callFilter_of_ok`, `exec_callFilter_of_error` — the call does what `applyFilter` does, and where that
  fails the record is the caller's as it was.
* **`callFilter_returns_iff`** — rendering and redaction raise nothing.  The one thing that does is the lookup
  of the engine: a filter that has none yet, at a record that it redacts, while the service has none either
  and the policy cannot be loaded.
-/

namespace Redaction

/-- The replacements of all rules of a store can be read. -/
def RuleStore.Readable (store : RuleStore) : Prop :=
  ∀ group ∈ store.groups, ∀ rule ∈ group.rules, rule.Readable

lemma RuleStore.readable_empty : RuleStore.empty.Readable := by
  intro group hgroup
  cases hgroup

namespace Service

/-! ## The call -/

/-- What is raised by a call. -/
inductive CallFault
  /-- The engine of the service could not be had. -/
  | lookup (failure : Failure)
  /-- A replacement could not be read. -/
  | expansion (refusal : Pattern.Refusal)
deriving Repr, DecidableEq

/-- The service and the record that a caller has handed to a filter. -/
structure Passage where
  service : Service
  record : Record

/-- Part of a call.  What it did to the service and the record before an error stays done. -/
abbrev Call (α : Type) := ExceptT CallFault (StateM Passage) α

/-- Does something with the service, while the record waits. -/
def onService {α : Type} (action : Action α) : Call α := do
  let passage ← get
  let (answer, service) := exec action passage.service
  set { passage with service }
  match answer with
  | .ok a => return a
  | .error failure => throw (.lookup failure)

/-- Redacts a text, reading replacements as they are needed. There is no new text if the very same one came
back. -/
def tryRewrite (engine : Engine) (text : String) : Call (Option String) := do
  if engine.store.isEmpty then return none
  else
    let service := (← get).service
    let found := service.pool.lookup service.place engine
    modify fun passage => { passage with service :=
      { service with pool := found.pool, place := { service.place with registry := some found.registry } } }
    onService (reportCache engine found.created)
    match found.pool.caches[found.cache]? with
    | none => return none
    | some cache =>
      match engine.tryRedact cache text with
      | .error refusal => throw (.expansion refusal)
      | .ok (out, cache) =>
        modify fun passage => { passage with service :=
          { passage.service with pool := passage.service.pool.setCache found.cache cache } }
        return if out = text && engine.store.handsBack text then none else some out

/-- Calls a filter with a record: whether the record goes on. -/
def callFilter (id : String) (filter : Filter) : Call Bool := do
  let record := (← get).record
  if record.isSelectedBy filter.name then
    match record.render with
    | .error _ => return true
    | .ok text =>
      let engine ← onService (filterEngine id filter)
      match ← tryRewrite engine text with
      | none => return true
      | some out =>
        modify fun passage => { passage with record := { passage.record with message := .str out } }
        modify fun passage => { passage with record := { passage.record with arguments := none } }
        return true
  else return true

/-! ## What the parts of the call do -/

variable {service after : Service} {id : String} {filter : Filter} {record final : Record}

lemma exec_onService {α : Type} (action : Action α) (service : Service) (record : Record) :
    exec (onService action) ⟨service, record⟩
      = ((exec action service).1.mapError .lookup, ⟨(exec action service).2, record⟩) := by
  rw [onService, exec_bind, exec_get]
  simp only [exec_bind, exec_set]
  cases (exec action service).1 <;> rfl

/-- On readable rules nothing is raised, and the redaction is that of the service. -/
lemma exec_tryRewrite (h : service.Sound) {engine : Engine} (hknows : service.Knows engine)
    (hreadable : engine.store.Readable) (text : String) (record : Record) :
    exec (tryRewrite engine text) ⟨service, record⟩
      = ((exec (rewrite engine text) service).1.mapError .lookup,
          ⟨(exec (rewrite engine text) service).2, record⟩) := by
  rw [tryRewrite, rewrite, exec_bind, exec_get]
  simp only [Pool.rewriteAt]
  by_cases hempty : engine.store.isEmpty
  · simp only [hempty, if_true]
    rfl
  · obtain ⟨-, cache, hcache, hmirrors⟩ := Pool.Serves.lookup h service.place hknows
    have hredact := Engine.tryRedact_eq hmirrors hreadable text
    simp only [if_neg hempty, hcache, hredact, Pool.rewriteWith, exec_bind, exec_get, exec_modify,
      exec_set, exec_onService, exec_pure]
    cases (service.pool.lookup service.place engine).created <;> rfl

/-! ## What the call does -/

lemma exec_callFilter_of_not_handles (h : ¬ Handles filter.name record) :
    exec (callFilter id filter) ⟨service, record⟩ = (.ok true, ⟨service, record⟩) := by
  rw [callFilter, exec_bind, exec_get]
  by_cases hcovers : Covers filter.name record.logger
  · simp only [if_pos (Record.isSelectedBy_iff.mpr hcovers)]
    cases hrender : record.render with
    | error fault => rfl
    | ok text => exact absurd ⟨hcovers, text, hrender⟩ h
  · simp only [if_neg (mt Record.isSelectedBy_iff.mp hcovers)]
    rfl

/-- For a record that it redacts, a filter looks up its engine, and what is raised there is not held back. -/
lemma exec_callFilter_of_handles (hcovers : Covers filter.name record.logger) {text : String}
    (hrender : record.render = .ok text) :
    exec (callFilter id filter) ⟨service, record⟩
      = match exec (filterEngine id filter) service with
        | (.ok held, after) =>
          match exec (tryRewrite held text) ⟨after, record⟩ with
          | (.ok out, passage) =>
            (.ok true, { passage with record := out.elim passage.record passage.record.withText })
          | (.error fault, passage) => (.error fault, passage)
        | (.error failure, after) => (.error (.lookup failure), ⟨after, record⟩) := by
  rw [callFilter, exec_bind, exec_get]
  simp only [if_pos (Record.isSelectedBy_iff.mpr hcovers), hrender, exec_bind, exec_onService]
  rcases exec (filterEngine id filter) service with ⟨failure | held, between⟩
  · rfl
  · simp only [Except.mapError]
    rcases exec (tryRewrite held text) ⟨between, record⟩ with ⟨fault | out, passage⟩
    · rfl
    · cases out <;> rfl

/-- Where the service fails to redact a record, the call raises that, and the record is as it was. -/
theorem exec_callFilter_of_error (hlookup : service.filters.lookup id = some filter) {failure : Failure}
    (h : exec (applyFilter id record) service = (.error failure, after)) :
    exec (callFilter id filter) ⟨service, record⟩ = (.error (.lookup failure), ⟨after, record⟩) := by
  by_cases hhandles : Handles filter.name record
  · obtain ⟨hcovers, text, hrender⟩ := hhandles
    rw [exec_applyFilter_of_handles hlookup hcovers hrender] at h
    rw [exec_callFilter_of_handles hcovers hrender]
    rcases hengine : exec (filterEngine id filter) service with ⟨found | held, between⟩
    · rw [hengine] at h
      cases h
      rfl
    · rw [hengine] at h
      cases h
  · rw [exec_applyFilter_of_not_handles hlookup hhandles] at h
    cases h

/-! ## Rules that can be read -/

/-- The engines that are referred to have readable rules. -/
def Readable (service : Service) : Prop :=
  ∀ {engine : Engine}, service.Knows engine → engine.store.Readable

lemma readable_of_loadFile {reader : Policy.Reader} {tree : FileTree} {path : FilePath} {store : RuleStore}
    (h : (Policy.loadFile reader tree path).run.1 = .ok store) : store.Readable := by
  rw [Policy.loadFile] at h
  split at h
  · cases h
  · cases h
    exact RuleStore.readable_empty
  · split at h
    · cases h
    · split at h
      · cases h
      · exact Policy.readable_of_loaded h

/-- What is loaded is readable. -/
lemma readable_of_loadStore {store : RuleStore} (h : service.loadStore.1 = .ok store) :
    store.Readable := by
  rw [loadStore] at h
  cases hpath : service.policyPath with
  | none =>
      rw [hpath] at h
      cases h
      exact RuleStore.readable_empty
  | some path =>
      rw [hpath] at h
      exact readable_of_loadFile h

lemma next_readable (h : service.Sound) (hreadable : service.Readable) (action : Step) :
    (service.next action).2.Readable := by
  intro engine hknows
  rcases next_knows h hknows with hold | hloaded
  · exact hreadable hold
  · exact readable_of_loadStore hloaded

lemma after_readable (h : service.Sound) (hreadable : service.Readable) (steps : List Step) :
    (service.after steps).Readable := by
  induction steps generalizing service with
  | nil => exact hreadable
  | cons action rest ih => exact ih (next_sound h action) (next_readable h hreadable action)

/-- The engine that a filter finds is readable. -/
lemma readable_of_exec_filterEngine (hreadable : service.Readable)
    (hlookup : service.filters.lookup id = some filter) {held : Engine}
    (h : exec (filterEngine id filter) service = (.ok held, after)) : held.store.Readable := by
  cases hkept : filter.engine with
  | some kept =>
      rw [exec_filterEngine_of_some hkept] at h
      cases h
      exact hreadable (.inr ⟨id, filter, mem_of_lookup hlookup, hkept⟩)
  | none =>
      rw [exec_filterEngine_of_none hkept] at h
      rcases Option.eq_none_or_eq_some service.shared with hnone | ⟨shared, hshared⟩
      · obtain ⟨events, hexec⟩ := exec_start service
        rw [exec_engine_of_none hnone, hexec] at h
        cases hload : service.loadStore.1 with
        | error cause =>
            rw [hload] at h
            cases h
        | ok store =>
            rw [hload] at h
            cases h
            exact readable_of_loadStore hload
      · rw [exec_engine_of_some hshared] at h
        cases h
        exact hreadable (.inl hshared)

/-- Where the service redacts a record, the call lets it go on, and that is what has become of it. -/
theorem exec_callFilter_of_ok (hsound : service.Sound) (hreadable : service.Readable)
    (hlookup : service.filters.lookup id = some filter)
    (h : exec (applyFilter id record) service = (.ok final, after)) :
    exec (callFilter id filter) ⟨service, record⟩ = (.ok true, ⟨after, final⟩) := by
  by_cases hhandles : Handles filter.name record
  · obtain ⟨hcovers, text, hrender⟩ := hhandles
    rw [exec_applyFilter_of_handles hlookup hcovers hrender] at h
    rw [exec_callFilter_of_handles hcovers hrender]
    rcases hengine : exec (filterEngine id filter) service with ⟨failure | held, between⟩
    · rw [hengine] at h
      cases h
    · rw [hengine] at h
      have hbetween : between.Sound := by
        have hworks := filterEngine_works hsound id filter
        rw [hengine] at hworks
        exact hworks.sound
      have hknows := knows_of_exec_filterEngine (mem_of_lookup hlookup) hengine
      have hheld := readable_of_exec_filterEngine hreadable hlookup hengine
      obtain ⟨events, hrewrite⟩ := exec_rewrite held text between
      simp only [exec_tryRewrite hbetween hknows hheld, hrewrite, Except.mapError]
      simp only [hrewrite] at h
      cases h
      rfl
  · rw [exec_applyFilter_of_not_handles hlookup hhandles] at h
    rw [exec_callFilter_of_not_handles hhandles]
    cases h
    rfl

/-! ## What is raised in the caller -/

lemma Lacks.cleared {cause : Policy.Failure} :
    service.cleared.Lacks filter record cause ↔ service.Lacks filter record cause :=
  ⟨fun h => ⟨h.waits, h.handles, h.shared, cleared_loadStore service ▸ h.unloadable⟩,
    fun h => ⟨h.waits, h.handles, h.shared, (cleared_loadStore service).symm ▸ h.unloadable⟩⟩

/-- **What a filter raises into its caller.**  Take any run, any filter that the service has then, whether it
was given an engine, has found one or still waits, and any record, whether or not it can be rendered.

* The call returns, and says that the record goes on, unless the filter lacks an engine for the record.
* What it makes of the record and the service is what the step for the record says.
* If it raises an error, then that is the one of loading the policy, and the record is what it was. -/
theorem callFilter_returns_iff {begin : Service} (hsound : begin.Sound) (hreadable : begin.Readable)
    (steps : List Step) {id : String} {filter : Filter}
    (hlookup : (begin.after steps).filters.lookup id = some filter) (record : Record) :
    ((exec (callFilter id filter) ⟨(begin.after steps).cleared, record⟩).1 = .ok true ↔
      ¬ ∃ cause, (begin.after steps).Lacks filter record cause)
    ∧ (∀ answer passage,
      exec (callFilter id filter) ⟨(begin.after steps).cleared, record⟩ = (.ok answer, passage) →
      answer = true ∧ (begin.after steps).next (.applyFilter id record)
        = (.ok (.record passage.record), passage.service))
    ∧ ∀ fault passage,
      exec (callFilter id filter) ⟨(begin.after steps).cleared, record⟩ = (.error fault, passage) →
      ∃ cause events, (begin.after steps).Lacks filter record cause
        ∧ fault = .lookup (.ofLoading cause)
        ∧ passage = ⟨{ begin.after steps with events }, record⟩ := by
  have hafter : (begin.after steps).cleared.Sound := after_sound hsound steps
  have hrules : (begin.after steps).cleared.Readable := after_readable hsound hreadable steps
  have hcleared : (begin.after steps).cleared.filters.lookup id = some filter := hlookup
  rcases hexec : exec (applyFilter id record) (begin.after steps).cleared with ⟨failure | final, after⟩
  · obtain ⟨⟨cause, hlacks, rfl⟩, events, rfl⟩ := exec_applyFilter_error hcleared hexec
    rw [exec_callFilter_of_error hcleared hexec]
    have hcause := Lacks.cleared.mp hlacks
    refine ⟨⟨?_, fun hnone => absurd ⟨cause, hcause⟩ hnone⟩, ?_, ?_⟩
    · rintro ⟨⟩
    · rintro answer passage ⟨⟩
    · rintro fault passage ⟨⟩
      exact ⟨cause, events, hcause, rfl, rfl⟩
  · rw [exec_callFilter_of_ok hafter hrules hcleared hexec]
    refine ⟨⟨?_, fun _ => rfl⟩, ?_, ?_⟩
    · rintro - ⟨cause, hlacks⟩
      obtain ⟨events, herror⟩ := exec_applyFilter_of_lacks hcleared (Lacks.cleared.mpr hlacks)
      rw [hexec] at herror
      cases herror
    · rintro answer passage ⟨⟩
      refine ⟨rfl, ?_⟩
      rw [next_eq, step, exec_bind_ok hexec, exec_pure]
    · rintro fault passage ⟨⟩

/-- An engine that a filter is made with. -/
def givenEngine : Engine :=
  ⟨0, .ofRules [.ofChar "a" 'a' "b"]⟩

/-- A service whose policy is not there yet, with a filter that was made with an engine. -/
def furnished : Service :=
  { expectant with nextIdentity := 1, filters := [("given", ⟨"", some givenEngine⟩)] }

/-- A filter with an engine has no need for a policy. -/
theorem callFilter_returns_furnished :
    furnished.Sound ∧ furnished.Readable
      ∧ (furnished.after [.addFilter "late" ""]).filters.lookup "given" = some ⟨"", some givenEngine⟩
      ∧ (exec (callFilter "given" ⟨"", some givenEngine⟩)
          ⟨(furnished.after [.addFilter "late" ""]).cleared, Log.greeting⟩).1 = .ok true := by
  have hknows : ∀ {engine}, furnished.Knows engine → engine = givenEngine := by
    rintro engine (hshared | ⟨id, filter, hmem, hkept⟩)
    · cases hshared
    · obtain ⟨rfl, rfl⟩ := Prod.mk.inj (List.mem_singleton.mp hmem)
      exact (Option.some.inj hkept).symm
  have hsound : furnished.Sound :=
    .empty (fun he => by rw [hknows he]; decide) fun he he' _ => (hknows he).trans (hknows he').symm
  have hreadable : furnished.Readable := by
    intro engine he
    rw [hknows he]
    show ∀ group ∈ givenEngine.store.groups, ∀ rule ∈ group.rules,
      Template.parse rule.pattern rule.replacement = .ok rule.template
    decide +kernel
  have hlookup : (furnished.after [.addFilter "late" ""]).filters.lookup "given"
      = some ⟨"", some givenEngine⟩ := rfl
  refine ⟨hsound, hreadable, hlookup, ?_⟩
  refine (callFilter_returns_iff hsound hreadable _ hlookup Log.greeting).1.mpr ?_
  rintro ⟨cause, hlacks⟩
  cases hlacks.waits

/-- A filter that looks for the policy in vain raises what the service raises, and so a filter may not be
counted on to return. -/
theorem callFilter_raises_unloadable :
    (exec (callFilter "late" ⟨"", none⟩) ⟨expectant.after [.addFilter "late" ""], Log.greeting⟩).1
        = .error (.lookup (.policy ⟨.unreadable .missing "policy.json", some "policy.json", none⟩))
      ∧ ¬ ∀ (steps : List Step) (id : String) (filter : Filter) (record : Record),
          (expectant.after steps).filters.lookup id = some filter →
          (exec (callFilter id filter) ⟨expectant.after steps, record⟩).1 = .ok true := by
  have hraises : (exec (callFilter "late" ⟨"", none⟩)
      ⟨expectant.after [.addFilter "late" ""], Log.greeting⟩).1
        = .error (.lookup (.policy ⟨.unreadable .missing "policy.json", some "policy.json", none⟩)) := by
    decide +kernel
  refine ⟨hraises, fun hreturns => ?_⟩
  have hreturns' := hreturns [.addFilter "late" ""] "late" ⟨"", none⟩ Log.greeting rfl
  rw [hraises] at hreturns'
  cases hreturns'

end Service
end Redaction
