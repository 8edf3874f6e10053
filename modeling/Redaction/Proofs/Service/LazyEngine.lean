import Redaction.Proofs.Service.FilterCalls

/-!
# When a filter asks for its engine

A filter that was made without an engine asks the service for one, once.  Two references are set on the way,
the one of the service and the one of the filter, and from then on they part: a reset takes the first and
leaves the second.  Which engine redacts a record therefore depends on when the filter asked, and on nothing
that has happened since.

* `RedactsBy` — a filter redacts with an engine every record that it redacts at all.
* `redactsBy_of_kept`, `next_applyFilter_shared_of_kept` — a filter that has an engine redacts with that one,
  and does not ask for another.
* **`next_applyFilter_asks`** — the record at which a filter asks: both references are set.
* `after_asked` — from that record on, over any run.
* **`lazyEngine_of_run`** — a filter over a whole run.  It asks at no record but one that it redacts; if it
  asks in vain all is as it was and the next such record asks again; and once it has an engine it keeps it,
  whatever becomes of the service, the path and the files.
-/

namespace Redaction.Service

variable {service after : Service} {id : String} {filter : Filter} {record : Record} {text : String}
  {engine : Engine}

/-! ## Redaction by a filter -/

/-- A filter redacts with an engine every record that it redacts at all. -/
def RedactsBy (service : Service) (id name : String) (engine : Engine) : Prop :=
  ∀ record text, Covers name record.logger → record.render = .ok text →
    ∃ final, (service.next (.applyFilter id record)).1 = .ok (.record final)
      ∧ record.Becomes text (engine.redacted text) final

lemma next_applyFilter (service : Service) (id : String) (record : Record) :
    (service.next (.applyFilter id record)).1
        = (exec (applyFilter id record) service.cleared).1.map Answer.record
      ∧ (service.next (.applyFilter id record)).2 = (exec (applyFilter id record) service.cleared).2 :=
  ⟨exec_return_fst _, exec_return_snd _⟩

/-- A record at a filter that has found an engine. -/
lemma exec_applyFilter_becomes (hsound : service.Sound) (hlookup : service.filters.lookup id = some filter)
    (hcovers : Covers filter.name record.logger) (hrender : record.render = .ok text)
    (h : exec (filterEngine id filter) service = (.ok engine, after)) :
    ∃ final done, exec (applyFilter id record) service = (.ok final, done)
      ∧ record.Becomes text (engine.redacted text) final
      ∧ done.shared = after.shared ∧ done.filters = after.filters := by
  have hafter : after.Sound := by
    have hworks := filterEngine_works hsound id filter
    rw [h] at hworks
    exact hworks.sound
  have hknows := knows_of_exec_filterEngine (mem_of_lookup hlookup) h
  obtain ⟨events, hrewrite⟩ := exec_rewrite engine text after
  have hout := (Pool.Serves.rewriteAt hafter after.place hknows text).1
  rw [exec_applyFilter_of_handles hlookup hcovers hrender, h]
  simp only [hrewrite]
  refine ⟨_, _, rfl, ?_, rfl, rfl⟩
  rw [← hout]
  cases (after.pool.rewriteAt after.place engine text).1 with
  | none => exact .refl record text
  | some out => exact .inr rfl

/-- A filter that has an engine redacts with that one. -/
lemma redactsBy_of_kept (hsound : service.Sound) {name : String}
    (hlookup : service.filters.lookup id = some ⟨name, some engine⟩) :
    service.RedactsBy id name engine := by
  intro record text hcovers hrender
  have hclean : service.cleared.Sound := hsound
  have hcleared : service.cleared.filters.lookup id = some ⟨name, some engine⟩ := hlookup
  obtain ⟨final, done, hexec, hbecomes, -⟩ :=
    exec_applyFilter_becomes hclean hcleared hcovers hrender (exec_filterEngine_of_some rfl)
  refine ⟨final, ?_, hbecomes⟩
  rw [(next_applyFilter service id record).1, hexec]
  rfl

/-- A filter that has an engine has no need for the one of the service. -/
lemma next_applyFilter_shared_of_kept (hsound : service.Sound) {name : String}
    (hlookup : service.filters.lookup id = some ⟨name, some engine⟩) (record : Record) :
    (service.next (.applyFilter id record)).2.shared = service.shared := by
  have hclean : service.cleared.Sound := hsound
  have hcleared : service.cleared.filters.lookup id = some ⟨name, some engine⟩ := hlookup
  rw [(next_applyFilter service id record).2]
  by_cases hhandles : Handles name record
  · obtain ⟨hcovers, text, hrender⟩ := hhandles
    obtain ⟨final, done, hexec, -, hdone, -⟩ :=
      exec_applyFilter_becomes hclean hcleared hcovers hrender (exec_filterEngine_of_some rfl)
    rw [hexec]
    exact hdone
  · rw [exec_applyFilter_of_not_handles hcleared hhandles]
    exact cleared_shared service

/-- **The record at which a filter asks for its engine.**  The record is redacted with what the service
answers, and that engine is then both the one of the service and the one of the filter. -/
theorem next_applyFilter_asks (hsound : service.Sound) {name : String}
    (hlookup : service.filters.lookup id = some ⟨name, none⟩)
    (hanswer : (service.next .askEngine).1 = .ok (.engine engine))
    (hcovers : Covers name record.logger) (hrender : record.render = .ok text) :
    (∃ final, (service.next (.applyFilter id record)).1 = .ok (.record final)
        ∧ record.Becomes text (engine.redacted text) final)
      ∧ (service.next (.applyFilter id record)).2.shared = some engine
      ∧ (service.next (.applyFilter id record)).2.filters.lookup id = some ⟨name, some engine⟩ := by
  have hengine := exec_engine_of_next hanswer
  have hshared := shared_of_exec_engine hengine
  have hclean : service.cleared.Sound := hsound
  have hcleared : service.cleared.filters.lookup id = some ⟨name, none⟩ := hlookup
  have hasks : exec (filterEngine id ⟨name, none⟩) service.cleared
      = (.ok engine, (service.next .askEngine).2.put id ⟨name, some engine⟩) := by
    rw [exec_filterEngine_of_none rfl, hengine]
  obtain ⟨final, done, hexec, hbecomes, hdone, hfilters⟩ :=
    exec_applyFilter_becomes hclean hcleared hcovers hrender hasks
  rw [(next_applyFilter service id record).1, (next_applyFilter service id record).2, hexec]
  refine ⟨⟨final, rfl, hbecomes⟩, hdone.trans hshared, ?_⟩
  rw [hfilters, lookup_put]

/-! ## After the filter has asked -/

/-- A filter that has asked redacts with what it was answered from then on, and does not ask again.  For as
long as there is no reset, the service redacts with the same engine. -/
lemma after_asked (hsound : service.Sound) {name : String} (hshared : service.shared = some engine)
    (hlookup : service.filters.lookup id = some ⟨name, some engine⟩) {later : List Step}
    (hkept : ∀ other, Step.addFilter id other ∉ later) :
    (service.after later).filters.lookup id = some ⟨name, some engine⟩
      ∧ (service.after later).RedactsBy id name engine
      ∧ (∀ record, ((service.after later).next (.applyFilter id record)).2.shared
        = (service.after later).shared)
      ∧ (Step.reset ∉ later → ∀ message,
        ((service.after later).next (.redact message)).1 = .ok (.text (engine.redacted message))) := by
  have hlater := after_keeps hlookup rfl hkept
  have hafter := after_sound hsound later
  refine ⟨hlater, redactsBy_of_kept hafter hlater, next_applyFilter_shared_of_kept hafter hlater,
    fun hreset message => ?_⟩
  have hheld := after_held hsound hshared hreset
  exact next_redact_of_askEngine hafter (next_askEngine_of_shared hheld) message

/-! ## One record -/

/-- A record that a filter does not redact goes through it as it is. -/
lemma next_applyFilter_of_not_handles (hlookup : service.filters.lookup id = some filter)
    (h : ¬ Handles filter.name record) :
    service.next (.applyFilter id record) = (.ok (.record record), service.cleared) := by
  have hcleared : service.cleared.filters.lookup id = some filter := hlookup
  rw [next_eq, step, exec_bind_ok (exec_applyFilter_of_not_handles hcleared h), exec_pure]

/-- A record that fails to go through a filter leaves everything as it was. -/
lemma next_applyFilter_error (hlookup : service.filters.lookup id = some filter) {failure : Failure}
    (h : (service.next (.applyFilter id record)).1 = .error failure) :
    (∃ cause, service.Lacks filter record cause ∧ failure = .ofLoading cause)
      ∧ ∃ events, (service.next (.applyFilter id record)).2 = { service with events }
        ∧ exec (callFilter id filter) ⟨service.cleared, record⟩
          = (.error (.lookup failure), ⟨{ service with events }, record⟩) := by
  have hcleared : service.cleared.filters.lookup id = some filter := hlookup
  rw [(next_applyFilter service id record).1] at h
  rcases hexec : exec (applyFilter id record) service.cleared with ⟨found | final, after⟩
  · rw [hexec] at h
    cases h
    obtain ⟨⟨cause, hlacks, hcause⟩, events, rfl⟩ := exec_applyFilter_error hcleared hexec
    refine ⟨⟨cause, Lacks.cleared.mp hlacks, hcause⟩, events, ?_, exec_callFilter_of_error hcleared hexec⟩
    rw [(next_applyFilter service id record).2, hexec]
    rfl
  · rw [hexec] at h
    cases h

/-- A filter that lacks an engine for a record lets the cause through. -/
lemma next_applyFilter_of_lacks (hlookup : service.filters.lookup id = some filter)
    {cause : Policy.Failure} (h : service.Lacks filter record cause) :
    (service.next (.applyFilter id record)).1 = .error (.ofLoading cause) := by
  have hcleared : service.cleared.filters.lookup id = some filter := hlookup
  obtain ⟨events, hexec⟩ := exec_applyFilter_of_lacks hcleared (Lacks.cleared.mpr h)
  rw [(next_applyFilter service id record).1, hexec]
  rfl

/-- Either nobody can be answered an engine, or the answer is the one that is shared, or one made of what the
path leads to now. -/
lemma unloadable_or_answers (service : Service) :
    (∃ cause, service.shared = none ∧ service.loadStore.1 = .error cause)
    ∨ ∃ engine, (service.next .askEngine).1 = .ok (.engine engine)
      ∧ (service.shared = some engine
        ∨ service.shared = none ∧ service.loadStore.1 = .ok engine.store) := by
  rcases Option.eq_none_or_eq_some service.shared with hnone | ⟨held, hheld⟩
  · cases hload : service.loadStore.1 with
    | error cause => exact .inl ⟨cause, hnone, rfl⟩
    | ok store => exact .inr ⟨_, next_askEngine_of_loadStore hnone hload, .inr ⟨hnone, rfl⟩⟩
  · exact .inr ⟨held, next_askEngine_of_shared hheld, .inl hheld⟩

/-! ## A whole run -/

/-- **A filter that was made without an engine**, over any run.  Let it be made after some history, and not be
made anew since.

* It still waits, or it took what the service had for anybody at one of the records that it redacts.
* A record that it does not redact goes through it as it is, and the service has nothing to do: it reports no
  event, and so it reads no policy.
* If a record fails to go through it, then it waits, the record is one that it redacts, and there is no engine
  and none to be had.  The record, the filter and the service are what they were.
* If it waits, then a record that it redacts makes it ask.  Either there is no engine and what the path leads
  to now cannot be loaded, or the answer is the engine of the service, made of what the path leads to now if
  there was none.  From then on it keeps that engine, whatever is done to the service, redacts with it, and
  does not ask again; and until a reset the service redacts with the same one. -/
theorem lazyEngine_of_run {begin service : Service} (h : begin.Sound) {history since : List Step}
    {id name : String} (hkept : ∀ other, Step.addFilter id other ∉ since)
    (hrun : begin.after (history ++ .addFilter id name :: since) = service) :
    (service.filters.lookup id = some ⟨name, none⟩
      ∨ ∃ before record later engine, since = before ++ .applyFilter id record :: later
        ∧ Handles name record
        ∧ (begin.after (history ++ .addFilter id name :: before)).filters.lookup id = some ⟨name, none⟩
        ∧ ((begin.after (history ++ .addFilter id name :: before)).next .askEngine).1
          = .ok (.engine engine)
        ∧ service.filters.lookup id = some ⟨name, some engine⟩)
    ∧ (∀ record, ¬ Handles name record →
      service.next (.applyFilter id record) = (.ok (.record record), service.cleared))
    ∧ (∀ record failure, (service.next (.applyFilter id record)).1 = .error failure →
      service.filters.lookup id = some ⟨name, none⟩
      ∧ (∃ cause, service.Lacks ⟨name, none⟩ record cause ∧ failure = .ofLoading cause)
      ∧ ∃ events, (service.next (.applyFilter id record)).2 = { service with events }
        ∧ exec (callFilter id ⟨name, none⟩) ⟨service.cleared, record⟩
          = (.error (.lookup failure), ⟨{ service with events }, record⟩))
    ∧ (service.filters.lookup id = some ⟨name, none⟩ → ∀ record, Handles name record →
      (∃ cause, service.shared = none ∧ service.loadStore.1 = .error cause
        ∧ (service.next (.applyFilter id record)).1 = .error (.ofLoading cause))
      ∨ ∃ engine, (service.next .askEngine).1 = .ok (.engine engine)
        ∧ (service.shared = some engine ∨ service.shared = none ∧ service.loadStore.1 = .ok engine.store)
        ∧ service.RedactsBy id name engine
        ∧ ∀ later, (∀ other, Step.addFilter id other ∉ later) →
          (service.after (.applyFilter id record :: later)).filters.lookup id = some ⟨name, some engine⟩
          ∧ (service.after (.applyFilter id record :: later)).RedactsBy id name engine
          ∧ (∀ record', ((service.after (.applyFilter id record :: later)).next
              (.applyFilter id record')).2.shared
            = (service.after (.applyFilter id record :: later)).shared)
          ∧ (Step.reset ∉ later → ∀ message,
            ((service.after (.applyFilter id record :: later)).next (.redact message)).1
              = .ok (.text (engine.redacted message)))) := by
  have hmade : (begin.after (history ++ [.addFilter id name])).filters.lookup id = some ⟨name, none⟩ := by
    rw [after_append]
    exact lookup_put (begin.after history).cleared id ⟨name, none⟩
  have hsplit : ∀ steps, begin.after (history ++ .addFilter id name :: steps)
      = (begin.after (history ++ [.addFilter id name])).after steps := by
    intro steps
    rw [← after_append, List.append_assoc, List.singleton_append]
  have hsound : service.Sound := hrun ▸ after_sound h _
  have hwaits := after_waits_or_took hmade hkept
  rw [← hsplit, hrun] at hwaits
  obtain ⟨kept, hlookup⟩ : ∃ kept, service.filters.lookup id = some ⟨name, kept⟩ := by
    rcases hwaits with hsame | ⟨_, _, _, engine, _, _, _, _, htook⟩
    · exact ⟨_, hsame⟩
    · exact ⟨_, htook⟩
  refine ⟨hwaits.imp_right ?_, fun record hhandles => next_applyFilter_of_not_handles hlookup hhandles,
    fun record failure hfailure => ?_, fun hnone record hhandles => ?_⟩
  · rintro ⟨before, record, later, engine, rfl, hhandles, hbefore, hanswer, htook⟩
    rw [← hsplit] at hbefore hanswer
    exact ⟨before, record, later, engine, rfl, hhandles, hbefore, hanswer, htook⟩
  · obtain ⟨⟨cause, hlacks, hcause⟩, hleft⟩ := next_applyFilter_error hlookup hfailure
    obtain rfl : kept = none := hlacks.waits
    exact ⟨hlookup, ⟨cause, hlacks, hcause⟩, hleft⟩
  · rcases unloadable_or_answers service with ⟨cause, hshared, hload⟩ | ⟨engine, hanswer, hfrom⟩
    · exact .inl ⟨cause, hshared, hload,
        next_applyFilter_of_lacks hnone ⟨rfl, hhandles, hshared, hload⟩⟩
    · obtain ⟨hcovers, text, hrender⟩ := hhandles
      obtain ⟨-, hshared, htook⟩ := next_applyFilter_asks hsound hnone hanswer hcovers hrender
      refine .inr ⟨engine, hanswer, hfrom, fun record text hcovers hrender =>
        (next_applyFilter_asks hsound hnone hanswer hcovers hrender).1, fun later hlater => ?_⟩
      rw [after_cons]
      exact after_asked (next_sound hsound _) hshared htook hlater

/-- A record comes too early, and so does somebody else; then the policy is written. -/
def earlyRecord : List Step :=
  .applyFilter "late" Log.greeting :: policyArrives

/-- The record that came too early does no harm, and what the filter found in the end it keeps, though the
service is reset and the policy is gone. -/
theorem lazyEngine_of_policyArrives :
    expectant.Sound ∧ (∀ other, Step.addFilter "late" other ∉ earlyRecord)
      ∧ Handles "app" Log.greeting
      ∧ ∃ final, (((expectant.after ([.askEngine] ++ .addFilter "late" "app" :: earlyRecord)).after
          (.applyFilter "late" Log.greeting :: .reset :: policyGoes)).next
            (.applyFilter "late" Log.greeting)).1 = .ok (.record final)
        ∧ final.render = .ok "***b, 50%" := by
  have hsound : expectant.Sound := Unused.sound ⟨rfl, rfl, rfl⟩
  have hkept : ∀ other, Step.addFilter "late" other ∉ earlyRecord := by
    simp [earlyRecord, policyArrives]
  have hcovers : Covers "app" Log.greeting.logger := by decide
  have hrender : Log.greeting.render = .ok "ab, 50%" := by decide
  generalize hrun : expectant.after ([.askEngine] ++ .addFilter "late" "app" :: earlyRecord) = service
  have hcomputed : service.shared.isNone
      ∧ ((service.filters.lookup "late").bind (·.engine)).isNone
      ∧ service.loadStore.1.toOption.map (fun store => Engine.redacted ⟨0, store⟩ "ab, 50%")
        = some "***b, 50%" := by
    subst hrun
    decide +kernel
  obtain ⟨hshared, hengine, hmade⟩ := hcomputed
  obtain ⟨store, hstore, hredacted⟩ := exists_of_toOption_map hmade
  obtain ⟨hstate, -, -, hasks⟩ := lazyEngine_of_run hsound hkept hrun
  have hwaits : service.filters.lookup "late" = some ⟨"app", none⟩ := by
    refine hstate.resolve_right ?_
    rintro ⟨_, _, _, engine, -, -, -, -, htook⟩
    simp [htook] at hengine
  refine ⟨hsound, hkept, ⟨hcovers, _, hrender⟩, ?_⟩
  rcases hasks hwaits Log.greeting ⟨hcovers, _, hrender⟩ with ⟨cause, -, hload, -⟩
    | ⟨engine, -, hfrom, -, hlater⟩
  · cases hstore.symm.trans hload
  · rcases hfrom with hheld | ⟨-, hload⟩
    · simp [hheld] at hshared
    · obtain rfl : store = engine.store := Except.ok.inj (hstore.symm.trans hload)
      obtain ⟨-, hby, -, -⟩ := hlater (.reset :: policyGoes) (by simp [policyGoes])
      obtain ⟨final, hanswer, hbecomes⟩ := hby Log.greeting _ hcovers hrender
      exact ⟨final, hanswer, (hbecomes.render hrender).trans (congrArg Except.ok hredacted)⟩

end Redaction.Service
