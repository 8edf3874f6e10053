import Redaction.Proofs.Service.Actions

/-!
# One engine for everybody

The path of the policy and the files may change at any time; the engine must not, until the service is
reset.  And when it is made, it is made from the path and the files of that moment, which may be long after
the service came to be and after any number of attempts that failed.

* `Service.Sound` — what holds of every service that steps can lead to: the pool serves the engine that is
  shared and those that filters have kept.
* `Service.Advances` — what a step other than a reset does: an engine that is shared stays, and one that
  was not there before is made of what the path leads to, under an identity that is new.
* `Service.Works` — the same for the actions that steps are made of, which leave the path and the files
  alone.  This is what makes one action after another do no more than a step may do.
* `next_advances`, `after_held` — one step, and any run without a reset.
* **`loaded_of_shared`** — the moment at which the engine that is shared now was made.
* **`engine_of_run`** — what an answer to the question for the engine says about the run before it, and
  what it promises for the run after it; and what a failure leaves behind.
-/

namespace Redaction.Service

variable {service : Service}

/-- An engine that is still referred to: the shared one, or one that a filter has kept. -/
def Knows (service : Service) (engine : Engine) : Prop :=
  service.shared = some engine
    ∨ ∃ id filter, (id, filter) ∈ service.filters ∧ filter.engine = some engine

/-- What holds of a service at any time. -/
def Sound (service : Service) : Prop :=
  service.pool.Serves service.Knows service.nextIdentity

/-- What a step other than a reset does. -/
structure Advances (before after : Service) : Prop where
  sound : after.Sound
  identities : before.nextIdentity ≤ after.nextIdentity
  held : ∀ {engine}, before.shared = some engine → after.shared = some engine
  loaded : ∀ {engine}, before.shared = none → after.shared = some engine →
    before.loadStore.1 = .ok engine.store ∧ before.nextIdentity ≤ engine.identity

/-- What an action does that leaves the library, the path and the files alone. -/
structure Works (before after : Service) : Prop extends Advances before after where
  reader : after.reader = before.reader
  path : after.policyPath = before.policyPath
  tree : after.tree = before.tree

/-! ## What actions are made of -/

lemma Works.trans {first second third : Service} (h : first.Works second) (h' : second.Works third) :
    first.Works third := by
  have hload : second.loadStore = first.loadStore := loadStore_congr h.reader h.path h.tree
  refine ⟨⟨h'.sound, Nat.le_trans h.identities h'.identities, fun he => h'.held (h.held he),
    fun {engine} hnone he => ?_⟩, h'.reader.trans h.reader, h'.path.trans h.path,
    h'.tree.trans h.tree⟩
  -- the engine was made by the first action or by the second one
  cases hshared : second.shared with
  | none =>
      obtain ⟨hstore, hid⟩ := h'.loaded hshared he
      exact ⟨hload ▸ hstore, Nat.le_trans h.identities hid⟩
  | some made =>
      have hsame : some made = some engine := (h'.held hshared).symm.trans he
      exact h.loaded hnone (hshared.trans hsame)

/-- An action that makes no engine and forgets none that is shared. -/
lemma Sound.works_of_same {after : Service} (hreader : after.reader = service.reader)
    (hpath : after.policyPath = service.policyPath) (htree : after.tree = service.tree)
    (hshared : after.shared = service.shared) (hnext : after.nextIdentity = service.nextIdentity)
    (hsound : after.Sound) : service.Works after :=
  ⟨⟨hsound, Nat.le_of_eq hnext.symm, fun he => hshared.trans he,
    fun hnone he => absurd (hnone.symm.trans (hshared.symm.trans he)) (by simp)⟩, hreader, hpath, htree⟩

/-- Events are not read again. -/
lemma Sound.works_events (h : service.Sound) (events : List Event) :
    service.Works { service with events } :=
  Sound.works_of_same rfl rfl rfl rfl rfl h

lemma Sound.works (h : service.Sound) : service.Works service :=
  Sound.works_of_same rfl rfl rfl rfl rfl h

/-- An action that changes the pool has to answer for the pool alone. -/
lemma Works.of_pool {place : Place} {pool : Pool} {events : List Event}
    (h : pool.Serves service.Knows service.nextIdentity) :
    service.Works { service with place, pool, events } :=
  Sound.works_of_same rfl rfl rfl rfl rfl h

/-- One action after the other. -/
lemma works_bind {α β : Type} {action : Action α} {further : α → Action β}
    (h : service.Works (exec action service).2)
    (hfurther : ∀ a after, exec action service = (.ok a, after) → service.Works after →
      after.Works (exec (further a) after).2) :
    service.Works (exec (action >>= further) service).2 := by
  rcases hexec : exec action service with ⟨fault | a, after⟩
  · rw [exec_bind_error hexec]
    rw [hexec] at h
    exact h
  · rw [exec_bind_ok hexec]
    rw [hexec] at h
    exact h.trans (hfurther a after hexec h)

/-- An answer that is made from the one of an action. -/
lemma works_return {α β : Type} {action : Action α} {answer : α → β}
    (h : service.Works (exec action service).2) :
    service.Works (exec (do return answer (← action)) service).2 :=
  works_bind h fun _ _ _ hworks => hworks.sound.works

/-! ## One lemma for each action -/

/-- Making the engine. -/
lemma start_works (h : service.Sound) (hnone : service.shared = none) :
    service.Works (exec start service).2 := by
  obtain ⟨events, hexec⟩ := exec_start service
  rw [hexec]
  cases hload : service.loadStore.1 with
  | error cause => exact h.works_events events
  | ok store =>
      refine ⟨⟨?_, Nat.le_succ _, fun he => absurd (hnone.symm.trans he) (by simp), ?_⟩, rfl, rfl, rfl⟩
      · refine Pool.Serves.addEngine h store ?_
        rintro engine (hnew | hkept)
        · exact .inl (Option.some.inj hnew).symm
        · exact .inr (.inr hkept)
      · rintro engine - hnew
        cases hnew
        exact ⟨hload, Nat.le_refl _⟩

lemma engine_works (h : service.Sound) : service.Works (exec engine service).2 := by
  cases hshared : service.shared with
  | none =>
      rw [exec_engine_of_none hshared]
      exact start_works h hshared
  | some held =>
      rw [exec_engine_of_some hshared]
      exact h.works

/-- An engine that was answered is the one that is shared from then on. -/
lemma shared_of_exec_engine {after : Service} {held : Engine}
    (h : exec engine service = (.ok held, after)) : after.shared = some held := by
  cases hshared : service.shared with
  | some other =>
      rw [exec_engine_of_some hshared] at h
      cases h
      exact hshared
  | none =>
      rw [exec_engine_of_none hshared] at h
      obtain ⟨events, hexec⟩ := exec_start service
      rw [hexec] at h
      cases hload : service.loadStore.1 with
      | error cause => simp [hload] at h
      | ok store =>
          simp only [hload, Prod.mk.injEq, Except.ok.injEq] at h
          obtain ⟨rfl, rfl⟩ := h
          rfl

/-- Redaction with an engine that is known. -/
lemma rewrite_works (h : service.Sound) {held : Engine} (hknows : service.Knows held) (text : String) :
    service.Works (exec (rewrite held text) service).2 := by
  obtain ⟨events, hexec⟩ := exec_rewrite held text service
  rw [hexec]
  exact .of_pool (Pool.Serves.rewriteAt h service.place hknows text).2.2

lemma redact_works (h : service.Sound) (message : String) :
    service.Works (exec (redact message) service).2 :=
  works_bind (engine_works h) fun _ _ hexec hworks =>
    works_return (rewrite_works hworks.sound (.inl (shared_of_exec_engine hexec)) message)

lemma reportCache_works (h : service.Sound) (held : Engine) (created : Bool) :
    service.Works (exec (reportCache held created) service).2 := by
  obtain ⟨events, hexec⟩ := exec_reportCache held created service
  rw [hexec]
  exact h.works_events events

lemma summary_works (h : service.Sound) : service.Works (exec summary service).2 := by
  refine works_bind (engine_works h) fun held after hexec hworks => ?_
  have hknows : after.Knows held := .inl (shared_of_exec_engine hexec)
  have hfound : after.Works
      { after with
        pool := (after.pool.lookup after.place held).pool
        place := { after.place with registry := some (after.pool.lookup after.place held).registry } } :=
    .of_pool (Pool.Serves.lookup hworks.sound after.place hknows).1
  rw [exec_bind, exec_get]
  refine works_bind hfound fun _ between hset _ => ?_
  have hbetween : between.Sound := by
    rw [exec_set] at hset
    cases hset
    exact hfound.sound
  refine works_bind (reportCache_works hbetween held _) fun _ _ _ hreported => ?_
  cases (after.pool.lookup after.place held).pool.caches[(after.pool.lookup after.place held).cache]?
    <;> exact hreported.sound.works

/-- A filter may keep an engine that is known, and the one that it kept before may be forgotten. -/
lemma putFilter_works (h : service.Sound) (id : String) {filter : Filter}
    (hknows : ∀ held, filter.engine = some held → service.Knows held) :
    service.Works (exec (putFilter id filter) service).2 := by
  refine Sound.works_of_same rfl rfl rfl rfl rfl (Pool.Serves.forget h ?_)
  rintro held (hshared | ⟨other, kept, hmem, hkept⟩)
  · exact .inl hshared
  · rcases List.mem_cons.mp hmem with hnew | hold
    · cases hnew
      exact hknows held hkept
    · exact .inr ⟨other, kept, (List.mem_filter.mp hold).1, hkept⟩

/-- The engine of a filter. -/
lemma filterEngine_works (h : service.Sound) (id : String) (filter : Filter) :
    service.Works (exec (filterEngine id filter) service).2 := by
  cases hkept : filter.engine with
  | some held => simpa [filterEngine, hkept] using h.works
  | none =>
      simp only [filterEngine, hkept]
      refine works_bind (engine_works h) fun held after hexec hworks => ?_
      refine works_bind (putFilter_works hworks.sound id fun other hother => ?_)
        fun _ _ _ hput => hput.sound.works
      cases hother
      exact .inl (shared_of_exec_engine hexec)

/-- The engine of a filter of the service is known. -/
lemma knows_of_exec_filterEngine {id : String} {filter : Filter} (hmem : (id, filter) ∈ service.filters)
    {held : Engine} {after : Service} (h : exec (filterEngine id filter) service = (.ok held, after)) :
    after.Knows held := by
  cases hkept : filter.engine with
  | some kept =>
      simp only [filterEngine, hkept, exec_pure, Prod.mk.injEq, Except.ok.injEq] at h
      obtain ⟨rfl, rfl⟩ := h
      exact .inr ⟨id, filter, hmem, hkept⟩
  | none =>
      simp only [filterEngine, hkept] at h
      rcases hexec : exec engine service with ⟨fault | made, between⟩
      · simp [exec_bind_error hexec] at h
      · have hshared : between.shared = some made := shared_of_exec_engine hexec
        rw [exec_bind_ok hexec] at h
        simp only [putFilter, exec_bind, exec_modify, exec_pure, Prod.mk.injEq, Except.ok.injEq] at h
        obtain ⟨rfl, rfl⟩ := h
        exact .inl hshared

/-- A filter does no more than its rewriting does. -/
lemma redactRecord_works (h : service.Sound) {rewriting : String → Action (Option String)}
    (hrewriting : ∀ text, service.Works (exec (rewriting text) service).2) (name : String)
    (record : Record) : service.Works (exec (record.redact name rewriting) service).2 := by
  refine works_bind ?_ fun _ _ _ hworks => hworks.sound.works
  rw [Record.filter]
  by_cases hselected : record.isSelectedBy name
  · rw [if_pos hselected]
    cases record.render with
    | error fault => exact h.works
    | ok text =>
        refine works_bind (hrewriting text) fun out _ _ hworks => ?_
        cases out <;> exact hworks.sound.works
  · rw [if_neg hselected]
    exact h.works

lemma applyFilter_works (h : service.Sound) (id : String) (record : Record) :
    service.Works (exec (applyFilter id record) service).2 := by
  rw [applyFilter, exec_bind, exec_get]
  cases hlookup : service.filters.lookup id with
  | none => simpa [hlookup] using h.works
  | some filter =>
      simp only [hlookup]
      refine redactRecord_works h (fun text => ?_) filter.name record
      exact works_bind (filterEngine_works h id filter) fun held after hexec hworks =>
        rewrite_works hworks.sound (knows_of_exec_filterEngine (mem_of_lookup hlookup) hexec) text

/-! ## Steps -/

/-- A change of the path or of the files makes no difference to the engine. -/
lemma Sound.advances_settings (h : service.Sound) (path : Option FilePath) (tree : FileTree)
    (events : List Event) : service.Advances { service with policyPath := path, tree, events } :=
  ⟨h, Nat.le_refl _, id, fun hnone he => absurd (hnone.symm.trans he) (by simp)⟩

/-- **One step** other than a reset, whatever it is and whether or not it fails. -/
theorem next_advances (h : service.Sound) {action : Step} (hreset : action ≠ .reset) :
    service.Advances (service.next action).2 := by
  rw [next_eq]
  have hclean : service.Works service.cleared := h.works_events []
  have hdone : ∀ {after : Service}, service.cleared.Works after →
      service.Advances after := fun hworks => (hclean.trans hworks).toAdvances
  cases action with
  | reset => exact absurd rfl hreset
  | setPath path => exact h.advances_settings path service.tree []
  | write name text => exact h.advances_settings service.policyPath (service.tree.write name text) []
  | delete name => exact h.advances_settings service.policyPath (service.tree.delete name) []
  | askEngine => exact hdone (works_return (engine_works hclean.sound))
  | redact message => exact hdone (works_return (redact_works hclean.sound message))
  | summary => exact hdone (works_return (summary_works hclean.sound))
  | addFilter id name =>
      exact hdone (works_bind (putFilter_works hclean.sound id fun _ hnone => by cases hnone)
        fun _ _ _ hput => hput.sound.works)
  | applyFilter id record => exact hdone (works_return (applyFilter_works hclean.sound id record))

/-- After a reset there is no engine. Its identity is not given again. -/
lemma next_reset (service : Service) :
    (service.next .reset).2 = { service with shared := none, events := [] } := rfl

lemma next_sound (h : service.Sound) (action : Step) : (service.next action).2.Sound := by
  by_cases hreset : action = .reset
  · rw [hreset, next_reset]
    exact Pool.Serves.forget h fun hknows => .inr (hknows.resolve_left (by simp))
  · exact (next_advances h hreset).sound

lemma next_identities (h : service.Sound) (action : Step) :
    service.nextIdentity ≤ (service.next action).2.nextIdentity := by
  by_cases hreset : action = .reset
  · rw [hreset, next_reset]
  · exact (next_advances h hreset).identities

/-! ## Runs -/

/-- The service after some steps. -/
def after (service : Service) (steps : List Step) : Service :=
  steps.foldl (fun service action => (service.next action).2) service

@[simp] lemma after_cons (service : Service) (action : Step) (rest : List Step) :
    service.after (action :: rest) = (service.next action).2.after rest := rfl

@[simp] lemma after_append (service : Service) (first second : List Step) :
    service.after (first ++ second) = (service.after first).after second :=
  List.foldl_append

lemma after_sound (h : service.Sound) (steps : List Step) : (service.after steps).Sound := by
  induction steps generalizing service with
  | nil => exact h
  | cons action rest ih => exact ih (next_sound h action)

lemma after_identities (h : service.Sound) (steps : List Step) :
    service.nextIdentity ≤ (service.after steps).nextIdentity := by
  induction steps generalizing service with
  | nil => exact Nat.le_refl _
  | cons action rest ih => exact Nat.le_trans (next_identities h action) (ih (next_sound h action))

/-- **Any run without a reset** keeps the engine that is shared. -/
theorem after_held (h : service.Sound) {engine : Engine} (hshared : service.shared = some engine)
    {steps : List Step} (hreset : Step.reset ∉ steps) : (service.after steps).shared = some engine := by
  induction steps generalizing service with
  | nil => exact hshared
  | cons action rest ih =>
      have hadvances := next_advances h fun heq => hreset (heq ▸ List.mem_cons_self)
      exact ih hadvances.sound (hadvances.held hshared) fun hmem => hreset (List.mem_cons_of_mem _ hmem)

/-- **The moment at which the shared engine was made.**  Before the step that made it there was none, and
what the path led to then is the store of the engine; there was no reset since.  No service before that
moment has known the engine. -/
theorem loaded_of_shared (h : service.Sound) (hnone : service.shared = none) {engine : Engine}
    {steps : List Step} (hshared : (service.after steps).shared = some engine) :
    ∃ before making later, steps = before ++ making :: later ∧ Step.reset ∉ making :: later
      ∧ (service.after before).shared = none
      ∧ (service.after before).loadStore.1 = .ok engine.store
      ∧ (service.after (before ++ [making])).shared = some engine
      ∧ ∀ earlier, earlier <+: before → ¬ (service.after earlier).Knows engine := by
  -- the last step either found the engine or made it
  induction steps using List.reverseRecOn with
  | nil => exact absurd (hnone.symm.trans hshared) (by simp)
  | append_singleton steps last ih =>
      have hsound := after_sound h steps
      have hlast : last ≠ .reset := by
        rintro rfl
        rw [after_append, after_cons, next_reset] at hshared
        cases hshared
      have hadvances := next_advances hsound hlast
      rw [after_append] at hshared
      cases hbefore : (service.after steps).shared with
      | none =>
          obtain ⟨hstore, hid⟩ := hadvances.loaded hbefore hshared
          refine ⟨steps, last, [], rfl, by simpa using hlast.symm, hbefore, hstore, ?_, ?_⟩
          · rw [after_append]
            exact hshared
          · rintro earlier ⟨between, rfl⟩ hknows
            have hlt := Pool.Serves.below (after_sound h earlier) hknows
            have hle := after_identities (after_sound h earlier) between
            rw [after_append] at hid
            omega
      | some held =>
          have hsame : some held = some engine := (hadvances.held hbefore).symm.trans hshared
          obtain ⟨before, making, later, rfl, hreset, hrest⟩ := ih (hbefore.trans hsame)
          refine ⟨before, making, later ++ [last], by simp, ?_, hrest⟩
          rw [← List.cons_append, List.mem_append, not_or]
          exact ⟨hreset, by simpa using hlast.symm⟩

/-! ## Asking for the engine -/

/-- Steps that ask for the engine, to hand it out or to redact a message with it. -/
inductive Step.Asks : Step → Prop
  | askEngine : Asks .askEngine
  | redact (message : String) : Asks (.redact message)

lemma next_askEngine (service : Service) :
    (service.next .askEngine).1
        = (exec Service.engine service.cleared).1.map Answer.engine
      ∧ (service.next .askEngine).2 = (exec Service.engine service.cleared).2 :=
  ⟨exec_return_fst _, exec_return_snd _⟩

/-- An engine that was answered was answered by `Service.engine`. -/
lemma exec_engine_of_next {engine : Engine} (h : (service.next .askEngine).1 = .ok (.engine engine)) :
    exec Service.engine service.cleared
      = (.ok engine, (service.next .askEngine).2) := by
  obtain ⟨hanswer, hafter⟩ := next_askEngine service
  rw [hanswer] at h
  rw [hafter]
  rcases hexec : exec Service.engine service.cleared with ⟨fault | made, between⟩
  · rw [hexec] at h
    cases h
  · rw [hexec] at h
    cases h
    rfl

lemma next_askEngine_of_shared {engine : Engine} (h : service.shared = some engine) :
    (service.next .askEngine).1 = .ok (.engine engine) := by
  rw [(next_askEngine service).1, exec_engine_of_some ((cleared_shared service).trans h)]
  rfl

/-- What is redacted with an engine that is known. -/
lemma exec_rewrite_getD (h : service.Sound) {engine : Engine} (hknows : service.Knows engine)
    (message : String) :
    (exec (do return (← rewrite engine message).getD message) service).1
      = .ok (engine.redacted message) := by
  obtain ⟨events, hexec⟩ := exec_rewrite engine message service
  rw [exec_return_fst, hexec]
  exact congrArg Except.ok (Pool.Serves.rewriteAt h service.place hknows message).1

/-- Redaction uses the engine that anybody else would be answered. -/
lemma next_redact_of_askEngine (h : service.Sound) {engine : Engine}
    (hanswer : (service.next .askEngine).1 = .ok (.engine engine)) (message : String) :
    (service.next (.redact message)).1 = .ok (.text (engine.redacted message)) := by
  have hexec := exec_engine_of_next hanswer
  have hsound := next_sound h .askEngine
  have hredact : (exec (redact message) service.cleared).1
      = .ok (engine.redacted message) := by
    rw [redact, exec_bind_ok hexec]
    exact exec_rewrite_getD hsound (.inl (shared_of_exec_engine hexec)) message
  show (exec (do return Answer.text (← redact message)) service.cleared).1 = _
  rw [exec_return_fst, hredact]
  rfl

/-- An engine that was asked for is shared afterwards. -/
lemma shared_of_next_asks (h : service.Sound) {engine : Engine}
    (hanswer : (service.next .askEngine).1 = .ok (.engine engine)) {asking : Step} (hasks : asking.Asks) :
    (service.next asking).2.shared = some engine := by
  have hexec := exec_engine_of_next hanswer
  have hshared := shared_of_exec_engine hexec
  cases hasks with
  | askEngine => exact hshared
  | redact message =>
      have hsound := next_sound h .askEngine
      rw [next_eq, step, exec_return_snd, Service.redact, exec_bind_ok hexec]
      exact (works_return (rewrite_works hsound (.inl hshared) message)).held hshared

/-- A failure to make the engine, as the answer to a step. -/
lemma next_askEngine_error {failure : Failure} (h : (service.next .askEngine).1 = .error failure) :
    service.shared = none
      ∧ (∃ cause, service.loadStore.1 = .error cause ∧ failure = .ofLoading cause)
      ∧ ∃ events, (service.next .askEngine).2 = { service with events } := by
  obtain ⟨hanswer, hafter⟩ := next_askEngine service
  rw [hanswer] at h
  rw [hafter]
  rcases hexec : exec Service.engine service.cleared with ⟨found | made, between⟩
  · rw [hexec] at h
    cases h
    obtain ⟨hnone, ⟨cause, hload, hcause⟩, events, hbetween⟩ := exec_engine_error hexec
    exact ⟨hnone, ⟨cause, cleared_loadStore service ▸ hload, hcause⟩, events, hbetween⟩
  · rw [hexec] at h
    cases h

/-- Where there is no engine, what the path leads to now makes one. -/
lemma next_askEngine_of_loadStore (hnone : service.shared = none) {store : RuleStore}
    (hload : service.loadStore.1 = .ok store) :
    (service.next .askEngine).1 = .ok (.engine ⟨service.nextIdentity, store⟩) := by
  obtain ⟨events, hexec⟩ := exec_start service.cleared
  rw [cleared_loadStore, hload] at hexec
  rw [(next_askEngine service).1, exec_engine_of_none ((cleared_shared service).trans hnone), hexec]
  rfl

/-- A service that nobody has used. -/
structure Unused (service : Service) : Prop where
  shared : service.shared = none
  filters : service.filters = []
  pool : service.pool = {}

lemma Unused.sound (h : service.Unused) : service.Sound := by
  have hknows : ∀ {engine}, ¬ service.Knows engine := by
    rintro engine (hshared | ⟨id, filter, hmem, -⟩)
    · simp [h.shared] at hshared
    · simp [h.filters] at hmem
  rw [Sound, h.pool]
  exact .empty (fun he => absurd he hknows) fun he => absurd he hknows

/-- **What an answer says about a run.**  Let a service be used in any way, and then be asked for the
engine.

* An engine that is answered was made at some step of the run, or just now.  There was none before that
  step, its store is what the path led to at that moment, nobody has known it earlier, and there was no
  reset since.  Whoever asked for it, until the next reset the same engine is answered, and messages are
  redacted with it.
* A failure means that there is no engine and that what the path leads to cannot be loaded.  The rejection
  of a policy is reported as it is, anything else as the cause of a failed initialization, and the service
  is the same as before.
* Where there is no engine, as after a reset, all that matters is what the path leads to now. -/
theorem engine_of_run {begin : Service} (h : begin.Unused) (history : List Step) :
    (∀ engine, ((begin.after history).next .askEngine).1 = .ok (.engine engine) →
      (∃ before making later, history ++ [.askEngine] = before ++ making :: later
        ∧ Step.reset ∉ making :: later
        ∧ (begin.after before).shared = none
        ∧ (begin.after before).loadStore.1 = .ok engine.store
        ∧ ((begin.after before).policyPath = none → engine.store = .empty)
        ∧ (begin.after (before ++ [making])).shared = some engine
        ∧ ∀ earlier, earlier <+: before → ¬ (begin.after earlier).Knows engine)
      ∧ ∀ asking later, asking.Asks → Step.reset ∉ later →
        ((begin.after (history ++ asking :: later)).next .askEngine).1 = .ok (.engine engine)
        ∧ ∀ message, ((begin.after (history ++ asking :: later)).next (.redact message)).1
            = .ok (.text (engine.redacted message)))
    ∧ (∀ failure, ((begin.after history).next .askEngine).1 = .error failure →
      (begin.after history).shared = none
      ∧ (∃ cause, (begin.after history).loadStore.1 = .error cause
        ∧ failure = match cause with
          | .rejected rejection => .policy rejection
          | cause => .initialization cause)
      ∧ ∃ events, ((begin.after history).next .askEngine).2 = { begin.after history with events })
    ∧ (∀ store, (begin.after history).shared = none → (begin.after history).loadStore.1 = .ok store →
      ∃ engine, ((begin.after history).next .askEngine).1 = .ok (.engine engine) ∧ engine.store = store)
    ∧ ((begin.after history).next .reset).2.shared = none := by
  have hsound := after_sound h.sound history
  refine ⟨fun engine hanswer => ⟨?_, fun asking later hasks hreset => ?_⟩, fun failure hfailure => ?_,
    fun store hnone hload => ⟨_, next_askEngine_of_loadStore hnone hload, rfl⟩, rfl⟩
  · have hshared : (begin.after (history ++ [.askEngine])).shared = some engine := by
      rw [after_append]
      exact shared_of_next_asks hsound hanswer .askEngine
    obtain ⟨before, making, later, hsplit, hreset, hnone, hload, hmade, hnew⟩ :=
      loaded_of_shared h.sound h.shared hshared
    refine ⟨before, making, later, hsplit, hreset, hnone, hload, fun hpath => ?_, hmade, hnew⟩
    rw [loadStore, hpath] at hload
    exact (Except.ok.inj hload).symm
  · have hshared : (begin.after (history ++ asking :: later)).shared = some engine := by
      rw [after_append]
      exact after_held (next_sound hsound asking) (shared_of_next_asks hsound hanswer hasks) hreset
    have hsame := next_askEngine_of_shared hshared
    exact ⟨hsame, fun message => next_redact_of_askEngine (after_sound h.sound _) hsame message⟩
  · obtain ⟨hnone, ⟨cause, hload, hcause⟩, hafter⟩ := next_askEngine_error hfailure
    refine ⟨hnone, ⟨cause, hload, hcause.trans ?_⟩, hafter⟩
    cases cause <;> rfl

/-- A service whose policy is not there yet. -/
def expectant : Service where
  policyPath := some ⟨"", ["policy.json"]⟩
  tree := ⟨[], []⟩

/-- Somebody asks too early, and then the policy is written. -/
def policyArrives : List Step :=
  [.askEngine, .write "policy.json"
    "\x7b\"version\": 1, \"rules\": [\x7b\"search\": \"a\", \"replace\": \"***\"\x7d]\x7d"]

/-- The policy is spoilt and taken away, and the path leads elsewhere. -/
def policyGoes : List Step :=
  [.write "policy.json" "\x7b", .delete "policy.json", .setPath none, .addFilter "early" ""]

/-- The attempt that came too early does no harm, and the policy that was there once is kept. -/
theorem engine_of_policyArrives :
    expectant.Unused ∧ Step.reset ∉ policyGoes ∧ ∃ engine,
      ((expectant.after policyArrives).next .askEngine).1 = .ok (.engine engine)
        ∧ ((expectant.after (policyArrives ++ .askEngine :: policyGoes)).next (.redact "banana")).1
          = .ok (.text "b***n***n***") := by
  have hunused : expectant.Unused := ⟨rfl, rfl, rfl⟩
  have hreset : Step.reset ∉ policyGoes := by simp [policyGoes]
  have hnone : (expectant.after policyArrives).shared = none :=
    Option.isNone_iff_eq_none.mp (by decide +kernel)
  have hredacted : (expectant.after policyArrives).loadStore.1.toOption.map
      (fun store => Engine.redacted ⟨0, store⟩ "banana") = some "b***n***n***" := by decide +kernel
  obtain ⟨store, hload, hbanana⟩ := exists_of_toOption_map hredacted
  obtain ⟨hanswered, -, hmade, -⟩ := engine_of_run hunused policyArrives
  obtain ⟨engine, hanswer, rfl⟩ := hmade store hnone hload
  have hlater := (hanswered engine hanswer).2 .askEngine policyGoes .askEngine hreset
  exact ⟨hunused, hreset, engine, hanswer, (hlater.2 "banana").trans (congrArg _ (congrArg _ hbanana))⟩

end Redaction.Service
