import Redaction.Proofs.Record.FilterChain
import Redaction.Proofs.Service.SharedEngine

/-!
# The engine that a filter keeps

A filter refers to an engine for itself.  It takes the one that the service shares when it first needs it,
and neither a reset nor anything else takes it away again.  So there are two references with lifetimes of
their own, and all that a proof about a filter has to know is when the one of the filter is set.

* `Handles` — the records that a filter redacts at all.
* `exec_applyFilter_of_not_handles`, `exec_applyFilter_of_handles` — a record at a filter.
* `Lacks`, `exec_applyFilter_error` — the one way in which a record does not get through.
* **`next_filters`** — all that a step can do to the filters: it leaves them alone, it makes one, or it
  hands the engine of the service to one that waited for it.
* `next_knows` — where the engines come from that are referred to after a step.
* **`after_keeps`**, **`after_waits_or_took`** — what this means for one filter over any run.
-/

namespace Redaction

/-- A filter of a name redacts a record: it is meant for the record's logger, and the message can be
rendered. -/
def Handles (name : String) (record : Record) : Prop :=
  Covers name record.logger ∧ ∃ text, record.render = .ok text

namespace Service

variable {service : Service} {id : String} {filter : Filter} {record : Record}

/-! ## Keeping filters -/

/-- The service with a filter under an identifier. -/
def put (service : Service) (id : String) (filter : Filter) : Service :=
  { service with filters := (id, filter) :: service.filters.filter fun (other, _) => other ≠ id }

lemma exec_putFilter (id : String) (filter : Filter) (service : Service) :
    exec (putFilter id filter) service = (.ok ⟨⟩, service.put id filter) := rfl

@[simp] lemma lookup_put (service : Service) (id : String) (filter : Filter) :
    (service.put id filter).filters.lookup id = some filter := by
  simp [put]

/-- What is kept under other identifiers stays. -/
lemma lookup_put_of_ne {other : String} (h : other ≠ id) (service : Service) (filter : Filter) :
    (service.put id filter).filters.lookup other = service.filters.lookup other := by
  rw [put, List.lookup_cons, beq_false_of_ne h]
  exact lookup_filter_of_ne h service.filters

lemma mem_put {other : String} {kept : Filter} (h : (other, kept) ∈ (service.put id filter).filters) :
    kept = filter ∨ (other, kept) ∈ service.filters := by
  rcases List.mem_cons.mp h with hnew | hold
  · exact .inl (Prod.mk.inj hnew).2
  · exact .inr (List.mem_of_mem_filter hold)

/-! ## What leaves the filters alone -/

lemma exec_engine_filters (service : Service) :
    (exec engine service).2.filters = service.filters := by
  rcases Option.eq_none_or_eq_some service.shared with hnone | ⟨held, hshared⟩
  · obtain ⟨events, hexec⟩ := exec_start service
    rw [exec_engine_of_none hnone, hexec]
    cases service.loadStore.1 <;> rfl
  · rw [exec_engine_of_some hshared]

lemma exec_rewrite_filters (held : Engine) (text : String) (service : Service) :
    (exec (rewrite held text) service).2.filters = service.filters := by
  obtain ⟨events, hexec⟩ := exec_rewrite held text service
  rw [hexec]

lemma exec_reportCache_filters (held : Engine) (created : Bool) (service : Service) :
    (exec (reportCache held created) service).2.filters = service.filters := by
  cases created <;> rfl

lemma exec_redact_filters (message : String) (service : Service) :
    (exec (redact message) service).2.filters = service.filters :=
  exec_bind_frame Service.filters (exec_engine_filters service) fun held after =>
    exec_bind_frame Service.filters (exec_rewrite_filters held message after) fun _ _ => rfl

lemma exec_summary_filters (service : Service) :
    (exec summary service).2.filters = service.filters := by
  refine exec_bind_frame Service.filters (exec_engine_filters service) fun held after => ?_
  rw [exec_bind, exec_get]
  refine exec_bind_frame Service.filters (by rw [exec_set]) fun _ between => ?_
  refine exec_bind_frame Service.filters (exec_reportCache_filters held _ between) fun _ _ => ?_
  cases (after.pool.lookup after.place held).pool.caches[(after.pool.lookup after.place held).cache]?
    <;> rfl

/-! ## A record at a filter -/

lemma exec_filterEngine_of_some {held : Engine} (h : filter.engine = some held) :
    exec (filterEngine id filter) service = (.ok held, service) := by
  simp [filterEngine, h]

/-- A filter without an engine asks for the one of the service, and keeps it. -/
lemma exec_filterEngine_of_none (h : filter.engine = none) :
    exec (filterEngine id filter) service
      = match exec engine service with
        | (.ok held, after) => (.ok held, after.put id { filter with engine := some held })
        | (.error failure, after) => (.error failure, after) := by
  simp only [filterEngine, h, exec_bind, exec_putFilter, exec_pure]
  rcases exec engine service with ⟨failure | held, after⟩ <;> rfl

/-- A record that a filter does not redact passes it, and the service has nothing to do. -/
lemma exec_applyFilter_of_not_handles (hlookup : service.filters.lookup id = some filter)
    (h : ¬ Handles filter.name record) :
    exec (applyFilter id record) service = (.ok record, service) := by
  have hpass : exec (record.filter filter.name fun text => do rewrite (← filterEngine id filter) text)
      service = (.ok (true, record), service) := by
    rw [Record.filter]
    by_cases hcovers : Covers filter.name record.logger
    · rw [if_pos (Record.isSelectedBy_iff.mpr hcovers)]
      cases hrender : record.render with
      | error fault => rfl
      | ok text => exact absurd ⟨hcovers, text, hrender⟩ h
    · rw [if_neg (mt Record.isSelectedBy_iff.mp hcovers)]
      rfl
  rw [applyFilter, exec_bind, exec_get]
  simp only [hlookup]
  rw [Record.redact, exec_bind_ok hpass, exec_pure]

/-- For a record that it redacts, a filter needs its engine first. -/
lemma exec_applyFilter_of_handles (hlookup : service.filters.lookup id = some filter)
    (hcovers : Covers filter.name record.logger) {text : String} (hrender : record.render = .ok text) :
    exec (applyFilter id record) service
      = match exec (filterEngine id filter) service with
        | (.ok held, after) =>
          (.ok ((after.pool.rewriteAt after.place held text).1.elim record record.withText),
            (exec (rewrite held text) after).2)
        | (.error failure, after) => (.error failure, after) := by
  rw [applyFilter, exec_bind, exec_get]
  simp only [hlookup]
  rw [Record.redact, Record.filter, if_pos (Record.isSelectedBy_iff.mpr hcovers)]
  simp only [hrender, exec_bind]
  rcases exec (filterEngine id filter) service with ⟨failure | held, after⟩
  · rfl
  · obtain ⟨events, hexec⟩ := exec_rewrite held text after
    simp only [hexec]
    cases (after.pool.rewriteAt after.place held text).1 <;> rfl

/-- A filter needs an engine for a record, and there is none to be had. -/
structure Lacks (service : Service) (filter : Filter) (record : Record) (cause : Policy.Failure) : Prop where
  waits : filter.engine = none
  handles : Handles filter.name record
  shared : service.shared = none
  unloadable : service.loadStore.1 = .error cause

/-- Where a record does not pass a filter, the filter lacks an engine, and nothing but the events changes. -/
lemma exec_applyFilter_error (hlookup : service.filters.lookup id = some filter) {failure : Failure}
    {after : Service} (h : exec (applyFilter id record) service = (.error failure, after)) :
    (∃ cause, service.Lacks filter record cause ∧ failure = .ofLoading cause)
      ∧ ∃ events, after = { service with events } := by
  by_cases hhandles : Handles filter.name record
  · obtain ⟨hcovers, text, hrender⟩ := hhandles
    rw [exec_applyFilter_of_handles hlookup hcovers hrender] at h
    cases hkept : filter.engine with
    | some held =>
        rw [exec_filterEngine_of_some hkept] at h
        cases h
    | none =>
        rw [exec_filterEngine_of_none hkept] at h
        rcases hexec : exec engine service with ⟨found | held, between⟩
        · rw [hexec] at h
          cases h
          obtain ⟨hnone, ⟨cause, hload, hcause⟩, hafter⟩ := exec_engine_error hexec
          exact ⟨⟨cause, ⟨hkept, ⟨hcovers, text, hrender⟩, hnone, hload⟩, hcause⟩, hafter⟩
        · rw [hexec] at h
          cases h
  · rw [exec_applyFilter_of_not_handles hlookup hhandles] at h
    cases h

/-- A filter that lacks an engine for a record lets the cause through. -/
lemma exec_applyFilter_of_lacks (hlookup : service.filters.lookup id = some filter)
    {cause : Policy.Failure} (h : service.Lacks filter record cause) :
    ∃ events, exec (applyFilter id record) service = (.error (.ofLoading cause), { service with events }) := by
  obtain ⟨hcovers, text, hrender⟩ := h.handles
  obtain ⟨events, hexec⟩ := exec_engine_of_unloadable h.shared h.unloadable
  refine ⟨events, ?_⟩
  rw [exec_applyFilter_of_handles hlookup hcovers hrender, exec_filterEngine_of_none h.waits, hexec]

/-- What a record at a filter does to the filters: nothing, unless its filter waits for an engine and gets
the one of the service. -/
lemma exec_applyFilter_filters (service : Service) (id : String) (record : Record) :
    (exec (applyFilter id record) service).2.filters = service.filters
    ∨ ∃ filter held, service.filters.lookup id = some filter ∧ filter.engine = none
      ∧ Handles filter.name record ∧ (exec engine service).1 = .ok held
      ∧ (exec (applyFilter id record) service).2.shared = some held
      ∧ (exec (applyFilter id record) service).2.filters
        = (service.put id { filter with engine := some held }).filters := by
  cases hlookup : service.filters.lookup id with
  | none =>
      rw [applyFilter, exec_bind, exec_get]
      simp [hlookup]
  | some filter =>
      by_cases hhandles : Handles filter.name record
      · obtain ⟨hcovers, text, hrender⟩ := hhandles
        rw [exec_applyFilter_of_handles hlookup hcovers hrender]
        cases hkept : filter.engine with
        | some held =>
            rw [exec_filterEngine_of_some hkept]
            exact .inl (exec_rewrite_filters held text service)
        | none =>
            rw [exec_filterEngine_of_none hkept]
            have hfilters := exec_engine_filters service
            rcases hexec : exec engine service with ⟨failure | held, after⟩
            · rw [hexec] at hfilters
              exact .inl hfilters
            · rw [hexec] at hfilters
              obtain ⟨events, hrewrite⟩ :=
                exec_rewrite held text (after.put id { filter with engine := some held })
              simp only [hrewrite]
              have hshared : after.shared = some held := shared_of_exec_engine hexec
              refine .inr ⟨filter, held, rfl, hkept, ⟨hcovers, text, hrender⟩, rfl, hshared, ?_⟩
              rw [put, put, hfilters]
      · rw [exec_applyFilter_of_not_handles hlookup hhandles]
        exact .inl rfl

/-! ## One step -/

/-- **All that a step can do to the filters.**  It leaves them alone, or makes a new one that waits for its
engine, or hands the engine that anybody would be answered to a filter that waited and now has a record to
redact. -/
theorem next_filters (service : Service) (action : Step) :
    (service.next action).2.filters = service.filters
    ∨ (∃ id name, action = .addFilter id name
      ∧ (service.next action).2.filters = (service.put id { name }).filters)
    ∨ ∃ id record filter engine, action = .applyFilter id record
      ∧ service.filters.lookup id = some filter ∧ filter.engine = none ∧ Handles filter.name record
      ∧ (service.next .askEngine).1 = .ok (.engine engine)
      ∧ (service.next action).2.shared = some engine
      ∧ (service.next action).2.filters
        = (service.put id { filter with engine := some engine }).filters := by
  rw [next_eq]
  cases action with
  | setPath | write | delete | reset => exact .inl rfl
  | addFilter id name => exact .inr (.inl ⟨id, name, rfl, rfl⟩)
  | askEngine =>
      rw [step, exec_return_snd]
      exact .inl (exec_engine_filters service.cleared)
  | redact message =>
      rw [step, exec_return_snd]
      exact .inl (exec_redact_filters message service.cleared)
  | summary =>
      rw [step, exec_return_snd]
      exact .inl (exec_summary_filters service.cleared)
  | applyFilter id record =>
      rw [step, exec_return_snd]
      refine (exec_applyFilter_filters service.cleared id record).imp (fun hsame => hsame) ?_
      rintro ⟨filter, held, hlookup, hnone, hhandles, hexec, hshared, hfilters⟩
      refine .inr ⟨id, record, filter, held, rfl, hlookup, hnone, hhandles, ?_, hshared, hfilters⟩
      rw [(next_askEngine service).1, hexec]
      rfl

/-- What a step does to one filter that is not made anew: nothing, unless the filter waits for an engine and
the step is a record for it. -/
lemma next_filter (hlookup : service.filters.lookup id = some filter) {action : Step}
    (hkept : ∀ name, action ≠ .addFilter id name) :
    (service.next action).2.filters.lookup id = some filter
    ∨ ∃ record engine, action = .applyFilter id record ∧ filter.engine = none
      ∧ Handles filter.name record ∧ (service.next .askEngine).1 = .ok (.engine engine)
      ∧ (service.next action).2.filters.lookup id = some { filter with engine := some engine } := by
  rcases next_filters service action with hsame | ⟨other, name, rfl, hput⟩
    | ⟨other, record, found, engine, rfl, hfound, hnone, hhandles, hanswer, -, hput⟩
  · exact .inl (hsame ▸ hlookup)
  · have hne : id ≠ other := fun heq => hkept name (heq ▸ rfl)
    rw [hput, lookup_put_of_ne hne]
    exact .inl hlookup
  · by_cases heq : id = other
    · subst heq
      obtain rfl : found = filter := Option.some.inj (hfound.symm.trans hlookup)
      rw [hput, lookup_put]
      exact .inr ⟨record, engine, rfl, hnone, hhandles, hanswer, rfl⟩
    · rw [hput, lookup_put_of_ne heq]
      exact .inl hlookup

/-- An engine that is referred to after a step was referred to before, or was made of what the path led to
just then. -/
theorem next_knows (h : service.Sound) {action : Step} {engine : Engine}
    (hknows : (service.next action).2.Knows engine) :
    service.Knows engine ∨ service.loadStore.1 = .ok engine.store := by
  have hshared : (service.next action).2.shared = some engine →
      service.Knows engine ∨ service.loadStore.1 = .ok engine.store := by
    intro hafter
    have haction : action ≠ .reset := by
      rintro rfl
      rw [next_reset] at hafter
      cases hafter
    have hadvances := next_advances h haction
    rcases Option.eq_none_or_eq_some service.shared with hnone | ⟨held, hheld⟩
    · exact .inr (hadvances.loaded hnone hafter).1
    · have hsame : some held = some engine := (hadvances.held hheld).symm.trans hafter
      exact .inl (.inl (hheld.trans hsame))
  rcases hknows with hafter | ⟨id, filter, hmem, hkept⟩
  · exact hshared hafter
  · rcases next_filters service action with hsame | ⟨other, name, -, hput⟩
      | ⟨other, record, found, taken, -, -, -, -, -, htaken, hput⟩
    · exact .inl (.inr ⟨id, filter, hsame ▸ hmem, hkept⟩)
    · rcases mem_put (hput ▸ hmem) with rfl | hold
      · cases hkept
      · exact .inl (.inr ⟨id, filter, hold, hkept⟩)
    · rcases mem_put (hput ▸ hmem) with rfl | hold
      · exact hshared (htaken.trans hkept)
      · exact .inl (.inr ⟨id, filter, hold, hkept⟩)

/-! ## Runs -/

/-- **A filter with an engine** keeps it for good. -/
theorem after_keeps (hlookup : service.filters.lookup id = some filter) {engine : Engine}
    (hengine : filter.engine = some engine) {steps : List Step}
    (hkept : ∀ name, Step.addFilter id name ∉ steps) :
    (service.after steps).filters.lookup id = some filter := by
  induction steps generalizing service with
  | nil => exact hlookup
  | cons action rest ih =>
      have hstep := next_filter hlookup fun name heq => hkept name (heq ▸ List.mem_cons_self)
      refine ih (hstep.resolve_right ?_) fun name hmem => hkept name (List.mem_cons_of_mem _ hmem)
      rintro ⟨record, found, -, hnone, -⟩
      simp [hengine] at hnone

/-- **A filter after any run**: it is what it was, or it took the engine that the service had for anybody at
one of the records that it redacts, and has kept that one since. -/
theorem after_waits_or_took (hlookup : service.filters.lookup id = some filter)
    {steps : List Step} (hkept : ∀ name, Step.addFilter id name ∉ steps) :
    (service.after steps).filters.lookup id = some filter
    ∨ ∃ before record later engine, steps = before ++ .applyFilter id record :: later
      ∧ Handles filter.name record
      ∧ (service.after before).filters.lookup id = some filter
      ∧ ((service.after before).next .askEngine).1 = .ok (.engine engine)
      ∧ (service.after steps).filters.lookup id = some { filter with engine := some engine } := by
  induction steps generalizing service with
  | nil => exact .inl hlookup
  | cons action rest ih =>
      have hrest : ∀ name, Step.addFilter id name ∉ rest :=
        fun name hmem => hkept name (List.mem_cons_of_mem _ hmem)
      rcases next_filter hlookup fun name heq => hkept name (heq ▸ List.mem_cons_self) with
        hsame | ⟨record, engine, rfl, -, hhandles, hanswer, htaken⟩
      · refine (ih hsame hrest).imp (fun hwaits => hwaits) ?_
        rintro ⟨before, record, later, engine, rfl, htook⟩
        exact ⟨action :: before, record, later, engine, rfl, htook⟩
      · exact .inr ⟨[], record, rest, engine, rfl, hhandles, hlookup, hanswer,
          after_keeps htaken rfl hrest⟩

end Service
end Redaction
