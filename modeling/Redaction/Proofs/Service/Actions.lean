import Redaction.Proofs.Effects
import Redaction.Proofs.Engine.ContextRedaction
import Redaction.Service

/-!
# What the actions of the service do

Steps of the service are put together from a few actions.  The lemmas here say what each of them answers
and which service it leaves, as `exec` sees it.  Events are reported all along the way; they are never read
again, so that the lemmas say of them only that they are there.

* **`exec_start`** — making the engine: one look at the path and the files decides between a new engine
  and a failure, and a failure leaves everything else as it was.
* `exec_engine_of_some`, `exec_engine_of_none` — an engine that is there is not made again.
* `exec_engine_error` — what a failure to make the engine says and leaves.
* `exec_rewrite` — redaction with an engine at the place of the service.
-/

namespace Redaction.Service

@[simp] lemma exec_report (events : List Event) (service : Service) :
    exec (report events) service = (.ok ⟨⟩, { service with events := service.events ++ events }) := rfl

/-- The service as a step finds it, without the events of earlier ones. -/
def cleared (service : Service) : Service :=
  { service with events := [] }

lemma next_eq (service : Service) (action : Step) :
    service.next action = exec (step action) service.cleared := rfl

@[simp] lemma cleared_shared (service : Service) : service.cleared.shared = service.shared := rfl

/-! ## The engine -/

/-- What is loaded depends on the library that reads it, on the path and on the files. -/
lemma loadStore_congr {service other : Service} (hreader : other.reader = service.reader)
    (hpath : other.policyPath = service.policyPath) (htree : other.tree = service.tree) :
    other.loadStore = service.loadStore := by
  rw [loadStore, loadStore, hreader, hpath, htree]

@[simp] lemma cleared_loadStore (service : Service) : service.cleared.loadStore = service.loadStore :=
  loadStore_congr rfl rfl rfl

/-- **Making the engine.** -/
theorem exec_start (service : Service) :
    ∃ events, exec start service
      = match service.loadStore.1 with
        | .error cause => (.error (.ofLoading cause), { service with events })
        | .ok store => (.ok ⟨service.nextIdentity, store⟩,
          { service with
            shared := some ⟨service.nextIdentity, store⟩
            nextIdentity := service.nextIdentity + 1
            events }) := by
  have hload : ∀ events, loadStore { service with events } = service.loadStore :=
    fun events => loadStore_congr rfl rfl rfl
  simp only [start, exec_bind, exec_get, exec_report, hload]
  rcases service.loadStore.1 with cause | store
  · exact ⟨_, rfl⟩
  · exact ⟨_, rfl⟩

/-- An engine that is there is not made again. -/
lemma exec_engine_of_some {service : Service} {held : Engine} (h : service.shared = some held) :
    exec engine service = (.ok held, service) := by
  rw [engine, exec_bind, exec_get]
  simp only [h, exec_pure]

lemma exec_engine_of_none {service : Service} (h : service.shared = none) :
    exec engine service = exec start service := by
  rw [engine, exec_bind, exec_get]
  simp only [h]

/-- A failure to make the engine is that of loading the policy, and leaves all but the events as it was. -/
lemma exec_engine_error {service after : Service} {failure : Failure}
    (h : exec engine service = (.error failure, after)) :
    service.shared = none
      ∧ (∃ cause, service.loadStore.1 = .error cause ∧ failure = .ofLoading cause)
      ∧ ∃ events, after = { service with events } := by
  rcases Option.eq_none_or_eq_some service.shared with hnone | ⟨held, hshared⟩
  · obtain ⟨events, hexec⟩ := exec_start service
    rw [exec_engine_of_none hnone, hexec] at h
    cases hload : service.loadStore.1 with
    | error cause =>
        rw [hload] at h
        cases h
        exact ⟨hnone, ⟨cause, rfl, rfl⟩, events, rfl⟩
    | ok store =>
        rw [hload] at h
        cases h
  · rw [exec_engine_of_some hshared] at h
    cases h

/-- Where there is no engine and what the path leads to cannot be loaded, that is the answer. -/
lemma exec_engine_of_unloadable {service : Service} (hnone : service.shared = none)
    {cause : Policy.Failure} (hload : service.loadStore.1 = .error cause) :
    ∃ events, exec engine service = (.error (.ofLoading cause), { service with events }) := by
  obtain ⟨events, hexec⟩ := exec_start service
  rw [hload] at hexec
  exact ⟨events, (exec_engine_of_none hnone).trans hexec⟩

/-! ## Redaction -/

lemma exec_reportCache (held : Engine) (created : Bool) (service : Service) :
    ∃ events, exec (reportCache held created) service = (.ok ⟨⟩, { service with events }) := by
  cases created <;> exact ⟨_, rfl⟩

/-- Redaction with an engine at the place of the service. -/
lemma exec_rewrite (held : Engine) (text : String) (service : Service) :
    ∃ events, exec (rewrite held text) service
      = (.ok (service.pool.rewriteAt service.place held text).1,
          { service with
            place := (service.pool.rewriteAt service.place held text).2.1
            pool := (service.pool.rewriteAt service.place held text).2.2.2
            events }) := by
  rw [rewrite, exec_bind, exec_get]
  obtain ⟨events, hreport⟩ := exec_reportCache held (service.pool.rewriteAt service.place held text).2.2.1
    { service with
      place := (service.pool.rewriteAt service.place held text).2.1
      pool := (service.pool.rewriteAt service.place held text).2.2.2 }
  refine ⟨events, ?_⟩
  simp only [exec_bind, exec_set, hreport, exec_pure]

end Redaction.Service
