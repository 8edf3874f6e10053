import Redaction.Proofs.Log.Feedback
import Redaction.Proofs.Service.Filters
import Redaction.Proofs.Session.LastingCaches
import Redaction.Service.Delivery

/-!
# What stops a record

As long as the service has no engine, a record that is handed to the log may be stopped on its way.  A filter
wants an engine that is not there, or the engine of a filter wants a cache, and making one is reported to the
log before it is noted, so that the report may be stopped in turn.  All of this can be told from the filters and
the caches beforehand, without handing on anything.

* `Want` — what a filter may want; `Service.firstWant` is the first want on a way through stations.
* `Service.reportWant` — what stops reports of caches.
* **`Service.snag`** — what stops a record.
* `Installation.Steady` — what handling records leaves as it was, so that no snag comes or goes.
* `Installation.Unwaiting` — work that never waits once the service has its engine.
* **`handle_of_no_snag`**, **`handle_of_cache_snag`**, **`handle_of_engine_snag`** — a record without a snag is
  handled; one that is stopped for want of a cache overflows any room; one that is stopped for want of an
  engine goes as far as making it.
-/

namespace Redaction

/-! ## Caches at hand -/

namespace Pool

variable {pool : Pool} {place : Place} {engine : Engine}

lemma atHand_congr {pool' : Pool} (h : pool'.registries = pool.registries) :
    pool'.AtHand place engine ↔ pool.AtHand place engine := by
  have hfst : (pool'.registryAt place).1 = (pool.registryAt place).1 := by
    simp only [registryAt, addRegistry, h]
    cases place.registry with
    | none => rfl
    | some held =>
        cases hr : pool.registries[held]? with
        | none => simp only [hr]
        | some r => by_cases howner : r.owner = place.thread <;> simp [hr, howner]
  simp only [AtHand, registryAt_cacheIn?, hfst, cacheIn?_congr h]

/-- A cache that is at hand stays so, whatever is noted. -/
lemma AtHand.note (h : pool.AtHand place engine) (target identity number : Nat) :
    (pool.note target identity number).AtHand place engine := by
  obtain ⟨thread, held⟩ := place
  by_cases hown : ∃ registry ∈ held, pool.ownerOf registry = some thread
  · obtain ⟨registry, rfl, howner⟩ := hown
    have hafter : (pool.note target identity number).ownerOf registry = some thread := by
      rw [note_owner, howner]
    rw [AtHand, registryAt_of_owner howner] at h
    rw [AtHand, registryAt_of_owner hafter]
    by_cases hsame : registry = target ∧ engine.identity = identity
    · obtain ⟨r, hr, -⟩ := Option.map_eq_some_iff.mp howner
      rw [← hsame.1, ← hsame.2]
      exact ⟨number, note_cacheIn?_self (List.getElem?_eq_some_iff.mp hr).1 _ _⟩
    · simpa only [note_cacheIn?_of_ne fun hregistry hidentity => hsame ⟨hregistry, hidentity⟩] using h
  · -- a registry that is yet to be made notes nothing
    obtain ⟨cache, hcache⟩ := h
    rw [registryAt_of_foreign fun number hheld howner => hown ⟨number, hheld, howner⟩, addRegistry_cacheIn?,
      cacheIn?] at hcache
    simp [addRegistry] at hcache

end Pool

/-! ## Records at filters -/

section
variable {ε σ : Type} {name : String} {record : Record} {text : String}
  {rewrite : String → ExceptT ε (StateM σ) (Option String)}

lemma exec_redact_of_not_handles (h : ¬ Handles name record) (state : σ) :
    exec (record.redact name rewrite) state = (.ok record, state) := by
  have hpass : exec (record.filter name rewrite) state = (.ok (true, record), state) := by
    rw [Record.filter]
    by_cases hcovers : Covers name record.logger
    · rw [if_pos (Record.isSelectedBy_iff.mpr hcovers)]
      cases hrender : record.render with
      | error fault => rfl
      | ok text => exact absurd ⟨hcovers, text, hrender⟩ h
    · rw [if_neg (mt Record.isSelectedBy_iff.mp hcovers)]
      rfl
  rw [Record.redact, exec_bind_ok hpass, exec_pure]

lemma exec_redact_of_handles (hcovers : Covers name record.logger) (hrender : record.render = .ok text)
    (state : σ) :
    exec (record.redact name rewrite) state
      = exec (do return (← rewrite text).elim record record.withText) state := by
  rw [Record.redact, Record.filter, if_pos (Record.isSelectedBy_iff.mpr hcovers)]
  simp only [hrender, exec_bind]
  rcases exec (rewrite text) state with ⟨fault | _ | out, after⟩ <;> rfl

end

lemma isSelected_iff_handles {name : String} {record : Record} :
    (record.isSelectedBy name && record.render.isOk) = true ↔ Handles name record := by
  rw [Bool.and_eq_true, Record.isSelectedBy_iff, Handles]
  cases record.render <;> simp [Except.isOk, Except.toBool]

instance (name : String) (record : Record) : Decidable (Handles name record) :=
  decidable_of_iff _ isSelected_iff_handles

/-- Two records are handled by the same filters. -/
def Record.Alike (record other : Record) : Prop :=
  ∀ name, Handles name other ↔ Handles name record

namespace Record

variable {record other : Record} {text : String}

lemma Alike.refl (record : Record) : record.Alike record :=
  fun _ => Iff.rfl

lemma Alike.trans {third : Record} (h : record.Alike other) (h' : other.Alike third) : record.Alike third :=
  fun name => (h' name).trans (h name)

/-- A record that can be rendered is handled by the same filters when its message is replaced. -/
lemma alike_elim (hrender : record.render = .ok text) (out : Option String) :
    record.Alike (out.elim record record.withText) := by
  cases out with
  | none => exact .refl record
  | some out =>
      intro name
      exact and_congr Iff.rfl ⟨fun _ => ⟨text, hrender⟩, fun _ => ⟨out, render_withText record out⟩⟩

end Record

/-- The message of an event is rendered as it stands. -/
@[simp] lemma Event.render_record (event : Event) : event.record.render = .ok event.message := by
  simp [Record.render, Event.record, Record.givenArguments?, Value.text, Percent.shown, Except.map]

/-- A filter handles the record of an event if it is meant for the part that reports it. -/
lemma Event.handles_record {event : Event} {name : String} :
    Handles name event.record ↔ Covers name event.channel.logger :=
  and_iff_left ⟨event.message, event.render_record⟩

/-- The report of a cache is like the record of the event that it reports. -/
lemma Cache.alike_report (cache : Cache) : (Event.cacheCreated 0).record.Alike cache.report :=
  fun _ => and_congr Iff.rfl ⟨fun _ => ⟨_, Event.render_record _⟩, fun _ => ⟨_, rfl⟩⟩

/-! ## Wants -/

/-- What a filter may want before it can redact. -/
inductive Want
  /-- The engine of the service. -/
  | engine
  /-- A cache for its engine, which is made and reported. -/
  | cache
deriving Repr, DecidableEq

namespace Service

/-- An engine can redact where the service is at work without making a cache. -/
def Prepared (service : Service) (engine : Engine) : Prop :=
  engine.store.isEmpty ∨ service.pool.AtHand service.place engine

instance (service : Service) (engine : Engine) : Decidable (service.Prepared engine) :=
  inferInstanceAs (Decidable (_ ∨ _))

/-- What stops a record at a station, if `reports` is what stops the reports of caches. -/
def want (reports : Option Want) (service : Service) (record : Record) : Station → Option Want
  | .output _ => none
  | .filter id =>
    match service.filters.lookup id with
    | none => none
    | some filter =>
      if Handles filter.name record then
        match filter.engine with
        | none => some .engine
        | some engine => if service.Prepared engine then none else reports
      else none

/-- What stops a record first on its way through stations. -/
def firstWant (reports : Option Want) (service : Service) (record : Record) (stations : List Station) :
    Option Want :=
  stations.findSome? (service.want reports record)

/-- What stops the reports of caches.  One that leads to another report goes on like this without end. -/
def reportWant (routing : Routing) (service : Service) : Option Want :=
  service.firstWant (some .cache) (Event.cacheCreated 0).record (routing Channel.cache.logger Severity.debug.level)

/-- What stops a record that is handed to the log. -/
def snag (routing : Routing) (service : Service) (record : Record) : Option Want :=
  service.firstWant (service.reportWant routing) record (routing record.logger record.level)

variable {service : Service} {reports : Option Want} {record other : Record} {id : String} {filter : Filter}

lemma want_filter (hlookup : service.filters.lookup id = some filter) :
    service.want reports record (.filter id)
      = if Handles filter.name record then
          match filter.engine with
          | none => some .engine
          | some engine => if service.Prepared engine then none else reports
        else none := by
  rw [want, hlookup]

/-- What it says that a filter does not stop a record. -/
lemma want_filter_eq_none_iff (hlookup : service.filters.lookup id = some filter) :
    service.want reports record (.filter id) = none ↔
      (Handles filter.name record →
        ∃ engine, filter.engine = some engine ∧ (service.Prepared engine ∨ reports = none)) := by
  rw [want_filter hlookup]
  by_cases hhandles : Handles filter.name record
  · cases filter.engine with
    | none => simp [hhandles]
    | some engine => by_cases hprepared : service.Prepared engine <;> simp [hhandles, hprepared]
  · simp [hhandles]

/-- **What a want at a station says.** -/
lemma want_eq_some {station : Station} {want : Want} (h : service.want reports record station = some want) :
    ∃ id filter, station = .filter id ∧ service.filters.lookup id = some filter ∧ Handles filter.name record
      ∧ ((filter.engine = none ∧ want = .engine)
        ∨ ∃ engine, filter.engine = some engine ∧ ¬ service.Prepared engine ∧ reports = some want) := by
  cases station with
  | output layout => cases h
  | filter id =>
      cases hlookup : service.filters.lookup id with
      | none => simp [Service.want, hlookup] at h
      | some filter =>
          rw [want_filter hlookup] at h
          by_cases hhandles : Handles filter.name record
          · refine ⟨id, filter, rfl, hlookup, hhandles, ?_⟩
            rw [if_pos hhandles] at h
            cases hengine : filter.engine with
            | none => exact .inl ⟨rfl, by simpa [hengine, eq_comm] using h⟩
            | some engine => exact .inr ⟨engine, rfl, by simpa [hengine] using h⟩
          · simp [hhandles] at h

/-- Stations stop records by the filters that handle them. -/
lemma want_congr (h : record.Alike other) (reports : Option Want) (service : Service) :
    service.want reports other = service.want reports record := by
  funext station
  simp only [want, h _]

lemma firstWant_congr (h : record.Alike other) (reports : Option Want) (service : Service)
    (stations : List Station) :
    service.firstWant reports other stations = service.firstWant reports record stations := by
  rw [firstWant, firstWant, want_congr h]

end Service

namespace Installation

variable {state : Installation} {reports : Option Want} {record : Record} {engine : Engine} {text time : String}
  {make : Action Engine} {announce : Cache → Action Unit} {stations : List Station} {routing : Routing}

/-! ## What handling leaves as it was -/

/-- Texts were printed and caches were made, and nothing else was done.  No cache was noted unless reports get
through. -/
structure Steady (reports : Option Want) (before after : Installation) : Prop where
  locked : after.locked = before.locked
  service : after.service = { before.service with pool := after.service.pool, place := after.service.place }
  kept : ∀ engine, before.service.Prepared engine → after.service.Prepared engine
  noted : reports ≠ none → ∀ engine, after.service.Prepared engine → before.service.Prepared engine

namespace Steady

variable {before between after : Installation}

lemma refl (reports : Option Want) (state : Installation) : Steady reports state state :=
  ⟨rfl, rfl, fun _ => id, fun _ _ => id⟩

lemma trans (h : Steady reports before between) (h' : Steady reports between after) :
    Steady reports before after where
  locked := h'.locked.trans h.locked
  service := by rw [h'.service, h.service]
  kept engine := h'.kept engine ∘ h.kept engine
  noted hreports engine := h.noted hreports engine ∘ h'.noted hreports engine

/-- Where no cache was noted, nothing more was done than may be done in any case. -/
lemma weaken {want : Want} (h : Steady (some want) before after) (reports : Option Want) :
    Steady reports before after :=
  ⟨h.locked, h.service, h.kept, fun _ => h.noted (by simp)⟩

lemma filters (h : Steady reports before after) : after.service.filters = before.service.filters := by
  rw [h.service]

lemma shared (h : Steady reports before after) : after.service.shared = before.service.shared := by
  rw [h.service]

lemma loadStore (h : Steady reports before after) : after.service.loadStore = before.service.loadStore :=
  Service.loadStore_congr (by rw [h.service]) (by rw [h.service]) (by rw [h.service])

lemma want (h : Steady reports before after) (record : Record) (station : Station) :
    after.service.want reports record station = before.service.want reports record station := by
  cases reports with
  | none => simp only [Service.want, h.filters, ite_self]
  | some want =>
      have hprepared : ∀ engine, after.service.Prepared engine ↔ before.service.Prepared engine :=
        fun engine => ⟨h.noted (by simp) engine, h.kept engine⟩
      simp only [Service.want, h.filters, hprepared]

lemma firstWant (h : Steady reports before after) (record : Record) (stations : List Station) :
    after.service.firstWant reports record stations = before.service.firstWant reports record stations :=
  congrArg stations.findSome? (funext fun station => h.want record station)

/-- A way without wants stays so. -/
lemma firstWant_eq_none (h : Steady reports before after) {others : Option Want}
    (hnone : before.service.firstWant others record stations = none) :
    after.service.firstWant others record stations = none := by
  refine List.findSome?_eq_none_iff.mpr fun station hmem => ?_
  have hstation := List.findSome?_eq_none_iff.mp hnone station hmem
  cases station with
  | output layout => rfl
  | filter id =>
      cases hlookup : before.service.filters.lookup id with
      | none => simp [Service.want, h.filters, hlookup]
      | some filter =>
          rw [Service.want_filter_eq_none_iff (by rw [h.filters, hlookup])]
          intro hhandles
          obtain ⟨engine, hengine, hprepared⟩ := (Service.want_filter_eq_none_iff hlookup).mp hstation hhandles
          exact ⟨engine, hengine, hprepared.imp_left (h.kept engine)⟩

/-- What stops reports goes on stopping them. -/
lemma reportWant (h : Steady reports before after) (hreports : before.service.reportWant routing = reports) :
    after.service.reportWant routing = reports := by
  cases reports with
  | none => exact h.firstWant_eq_none hreports
  | some want => exact ((h.weaken (some .cache)).firstWant _ _).trans hreports

lemma snag (h : Steady reports before after) (hreports : before.service.reportWant routing = reports)
    (record : Record) : after.service.snag routing record = before.service.snag routing record := by
  rw [Service.snag, Service.snag, h.reportWant hreports, hreports, h.firstWant]

end Steady

/-! ## Redaction -/

/-- The installation whose context holds the registry that it uses, with another pool. -/
def holding (state : Installation) (pool : Pool) : Installation :=
  { state with service := { state.service with
      pool
      place := { state.service.place with registry := some (state.service.pool.registryAt state.service.place).1 } } }

lemma steady_holding {pool : Pool}
    (h : pool.registries = (state.service.pool.registryAt state.service.place).2.registries)
    (reports : Option Want) : Steady reports state (state.holding pool) := by
  have hprepared : ∀ engine, (state.holding pool).service.Prepared engine ↔ state.service.Prepared engine :=
    fun engine => or_congr Iff.rfl (Pool.atHand_registryAt state.service.place engine h)
  exact ⟨rfl, rfl, fun engine => (hprepared engine).mpr, fun _ engine => (hprepared engine).mp⟩

lemma steady_print (texts : List String) (reports : Option Want) (state : Installation) :
    Steady reports state { state with printed := state.printed ++ texts } :=
  ⟨rfl, rfl, fun _ => id, fun _ _ => id⟩

/-- An engine that is prepared redacts without a report. -/
lemma exec_rewrite_of_prepared (h : state.service.Prepared engine) (reports : Option Want) :
    ∃ out after, exec (rewrite announce engine text) state = (.ok out, after) ∧ Steady reports state after := by
  rw [rewrite]
  by_cases hempty : engine.store.isEmpty
  · exact ⟨none, state, by rw [if_pos hempty, exec_pure], .refl reports state⟩
  · obtain ⟨number, hcache⟩ := h.resolve_left hempty
    have hcontext : exec (contextCache announce engine) state
        = (.ok number, state.holding (state.service.pool.registryAt state.service.place).2) := by
      rw [contextCache, exec_bind_ok (exec_get state)]
      simp only [hcache]
      rfl
    rw [if_neg hempty, exec_bind_ok hcontext]
    exact ⟨_, state.holding _, rfl, steady_holding (Logging.rewriteWith_registries _ _ _ _) reports⟩

/-- What is left to do when a new cache has been announced. -/
def noteAndRewrite (registry number : Nat) (engine : Engine) (text : String) : Action (Option String) := do
  modify fun state => state.withPool (state.service.pool.note registry engine.identity number)
  let (out, pool) := (← get).service.pool.rewriteWith engine number text
  modify (·.withPool pool)
  return out

lemma exec_noteAndRewrite (registry number : Nat) (engine : Engine) (text : String) (state : Installation) :
    ∃ out after, exec (noteAndRewrite registry number engine text) state = (.ok out, after)
      ∧ Steady none state after := by
  refine ⟨_, _, rfl, rfl, rfl, fun other => ?_, fun hnone => absurd rfl hnone⟩
  refine Or.imp_right fun hat => ?_
  exact (Pool.atHand_congr (Logging.rewriteWith_registries _ _ _ _)).mpr (hat.note _ _ _)

/-- An engine that is not prepared makes a cache, and the report of it comes before anything else. -/
lemma exec_rewrite_of_not_prepared (h : ¬ state.service.Prepared engine) (announce : Cache → Action Unit)
    (text : String) :
    ∃ cache registry number after, Steady (some .cache) state after
      ∧ exec (rewrite announce engine text) state
        = exec (announce cache >>= fun _ => noteAndRewrite registry number engine text) after := by
  rw [Service.Prepared, not_or, Pool.AtHand, ← Option.isSome_iff_exists, Option.not_isSome_iff_eq_none] at h
  refine ⟨Cache.ofStore engine.store state.service.place.thread,
    (state.service.pool.registryAt state.service.place).1,
    (state.service.pool.registryAt state.service.place).2.caches.length,
    state.holding ((state.service.pool.registryAt state.service.place).2.addCache
      (Cache.ofStore engine.store state.service.place.thread)).2, steady_holding (by rfl) _, ?_⟩
  rw [rewrite, if_neg h.1, contextCache]
  simp only [exec_bind, exec_get, exec_modify, h.2, withPool, holding, noteAndRewrite, Pool.addCache]
  rcases exec (announce _) _ with ⟨halt | _, after⟩ <;> rfl

/-! ## What work keeps -/

/-- Work keeps a property of installations, and halts in some ways only. -/
def Keeps {α : Type} (holds : Installation → Prop) (fine : Halt → Prop) (action : Action α) : Prop :=
  ∀ state, holds state →
    (∀ halt, (exec action state).1 = .error halt → fine halt) ∧ holds (exec action state).2

namespace Keeps

variable {α β : Type} {holds : Installation → Prop} {fine : Halt → Prop}

/-- Work that succeeds does not halt. -/
lemma of_ok {action : Action α}
    (h : ∀ state, holds state → ∃ a after, exec action state = (.ok a, after) ∧ holds after) :
    Keeps holds fine action := by
  intro state hstate
  obtain ⟨a, after, hexec, hafter⟩ := h state hstate
  rw [hexec]
  refine ⟨?_, hafter⟩
  rintro halt ⟨⟩

lemma pure (a : α) : Keeps holds fine (pure a) :=
  .of_ok fun state h => ⟨a, state, rfl, h⟩

lemma throw {halt : Halt} (hhalt : fine halt) : Keeps holds fine (throw halt : Action α) := by
  refine fun _ h => ⟨?_, h⟩
  rintro other ⟨⟩
  exact hhalt

lemma bind {action : Action α} {further : α → Action β} (h : Keeps holds fine action)
    (hfurther : ∀ a, Keeps holds fine (further a)) : Keeps holds fine (action >>= further) := by
  intro state hstate
  obtain ⟨hhalts, hafter⟩ := h state hstate
  rw [exec_bind]
  rcases hexec : exec action state with ⟨halt | a, after⟩ <;> rw [hexec] at hhalts hafter
  · refine ⟨?_, hafter⟩
    rintro other ⟨⟩
    exact hhalts halt rfl
  · exact hfurther a after hafter

lemma modify {change : Installation → Installation} (h : ∀ state, holds state → holds (change state)) :
    Keeps holds fine (modify change) :=
  .of_ok fun state hstate => ⟨⟨⟩, change state, rfl, h state hstate⟩

/-- What an action reads has the property as well. -/
lemma get_bind {further : Installation → Action α}
    (h : ∀ state, holds state → Keeps holds fine (further state)) : Keeps holds fine (get >>= further) :=
  fun state hstate => h state hstate state hstate

lemma redact {rewrite : String → Action (Option String)} (h : ∀ text, Keeps holds fine (rewrite text))
    (name : String) (record : Record) : Keeps holds fine (record.redact name rewrite) := by
  by_cases hhandles : Handles name record
  · obtain ⟨hcovers, text, hrender⟩ := hhandles
    intro state hstate
    rw [exec_redact_of_handles hcovers hrender]
    exact (h text).bind (fun _ => .pure _) state hstate
  · exact .of_ok fun state hstate => ⟨record, state, exec_redact_of_not_handles hhandles state, hstate⟩

end Keeps

/-- A property of installations that records do not disturb on their way: neither by caches nor by texts that are
printed, nor because a filter gets an engine. -/
structure Undisturbed (holds : Installation → Prop) : Prop where
  redacted : ∀ before state pool place, holds before → holds state →
    holds { state with service := { before.service with pool, place } }
  printed : ∀ state printed, holds state → holds { state with printed }
  furnished : ∀ before state id filter engine, holds before → before.service.filters.lookup id = some filter →
    holds state → holds { state with service := { state.service with
      filters := (id, { filter with engine := some engine }) ::
        state.service.filters.filter fun (other, _) => other ≠ id } }

namespace Undisturbed

variable {holds : Installation → Prop} {fine : Halt → Prop} {announce : Cache → Action Unit}
  {make : Action Engine}

lemma rewrite (hholds : Undisturbed holds) (h : ∀ cache, Keeps holds fine (announce cache)) (engine : Engine)
    (text : String) : Keeps holds fine (rewrite announce engine text) := by
  have hpool : ∀ change : Installation → Pool,
      Keeps holds fine (modify fun state => state.withPool (change state)) :=
    fun change => .modify fun state hstate => hholds.redacted state state (change state) _ hstate hstate
  have hcontext : Keeps holds fine (contextCache announce engine) := by
    rw [contextCache]
    refine .get_bind fun before hbefore => ?_
    dsimp only
    obtain ⟨registry, pool⟩ := before.service.pool.registryAt before.service.place
    refine .bind (.modify fun state hstate => hholds.redacted before state pool _ hbefore hstate) fun _ => ?_
    dsimp only
    cases pool.cacheIn? registry engine.identity with
    | some number => exact .pure number
    | none => exact (hpool _).bind fun _ => (h _).bind fun _ => (hpool _).bind fun _ => .pure _
  rw [Installation.rewrite]
  by_cases hempty : engine.store.isEmpty
  · rw [if_pos hempty]
    exact .pure none
  · rw [if_neg hempty]
    exact hcontext.bind fun _ => .get_bind fun _ _ => (hpool _).bind fun _ => .pure _

lemma passFilter (hholds : Undisturbed holds) (h : ∀ cache, Keeps holds fine (announce cache))
    (hmake : Keeps holds fine (sharedEngine make)) (id : String) (record : Record) :
    Keeps holds fine (passFilter make announce id record) := by
  rw [Installation.passFilter]
  refine .get_bind fun before hbefore => ?_
  cases hlookup : before.service.filters.lookup id with
  | none => exact .pure record
  | some filter =>
      have hengine : Keeps holds fine (filterEngine make id filter) := by
        rw [filterEngine]
        cases filter.engine with
        | some engine => exact .pure engine
        | none =>
            refine hmake.bind fun engine => .bind (.modify fun state hstate => ?_) fun _ => .pure engine
            exact hholds.furnished before state id filter engine hbefore hlookup hstate
      exact .redact (fun text => hengine.bind fun engine => hholds.rewrite h engine text) _ _

lemma pass (hholds : Undisturbed holds) (h : ∀ cache, Keeps holds fine (announce cache))
    (hmake : Keeps holds fine (sharedEngine make)) (time : String) (stations : List Station) (record : Record) :
    Keeps holds fine (pass make announce time stations record) := by
  induction stations generalizing record with
  | nil => exact .pure ()
  | cons station rest ih =>
      cases station with
      | filter id => exact (hholds.passFilter h hmake id record).bind fun passed => ih passed
      | output layout =>
          exact .bind (.modify fun state hstate => hholds.printed state _ hstate) fun _ => ih record

end Undisturbed

/-! ## Where the engine is there -/

/-- The service has its engine, and nobody holds its lock. -/
structure Ready (state : Installation) : Prop where
  free : state.locked = false
  shared : state.service.shared.isSome

lemma undisturbed_ready : Undisturbed Ready where
  redacted _ _ _ _ hbefore hstate := ⟨hstate.free, hbefore.shared⟩
  printed _ _ hstate := ⟨hstate.free, hstate.shared⟩
  furnished _ _ _ _ _ _ _ hstate := ⟨hstate.free, hstate.shared⟩

/-- Work that never waits where the service has its engine, which it has afterwards too. -/
abbrev Unwaiting {α : Type} (action : Action α) : Prop :=
  Keeps Ready (· ≠ .waiting) action

/-- An engine that is there is not made. -/
lemma unwaiting_sharedEngine (make : Action Engine) : Unwaiting (sharedEngine make) := by
  refine .get_bind fun before hbefore => ?_
  obtain ⟨engine, hengine⟩ := Option.isSome_iff_exists.mp hbefore.shared
  rw [hengine]
  exact .pure engine

lemma unwaiting_pass (make : Action Engine) (h : ∀ cache, Unwaiting (announce cache)) (time : String)
    (stations : List Station) (record : Record) : Unwaiting (pass make announce time stations record) :=
  undisturbed_ready.pass h (unwaiting_sharedEngine make) time stations record

/-- **Once the service has its engine no record waits**, however many lead to one another. -/
theorem unwaiting_handle (routing : Routing) (time : String) (room : Nat) (record : Record) :
    Unwaiting (handle routing time room record) := by
  induction room generalizing record with
  | zero => exact .throw nofun
  | succ room ih => exact unwaiting_pass _ (fun cache => ih cache.report) time _ record

/-! ## Records on their way -/

/-- Reports of caches come to their end, and nothing else is done. -/
def Announces (announce : Cache → Action Unit) (state : Installation) : Prop :=
  ∀ before, Steady none state before → ∀ cache, ∃ after,
    exec (announce cache) before = (.ok (), after) ∧ Steady none before after

lemma Announces.of_steady {after : Installation} (h : Announces announce state) (hsteady : Steady none state after) :
    Announces announce after :=
  fun before hbefore => h before (hsteady.trans hbefore)

/-- A filter that has an engine and does not stop a record redacts it. -/
lemma exec_rewrite_of_unstopped (h : state.service.Prepared engine ∨ reports = none)
    (hannounces : reports = none → Announces announce state) (text : String) :
    ∃ out after, exec (rewrite announce engine text) state = (.ok out, after) ∧ Steady reports state after := by
  by_cases hprepared : state.service.Prepared engine
  · exact exec_rewrite_of_prepared hprepared reports
  · obtain rfl := h.resolve_left hprepared
    obtain ⟨cache, registry, number, made, hmade, hexec⟩ := exec_rewrite_of_not_prepared hprepared announce text
    obtain ⟨told, htold, hsteady⟩ := hannounces rfl made (hmade.weaken none) cache
    obtain ⟨out, after, hnoted, hafter⟩ := exec_noteAndRewrite registry number engine text told
    exact ⟨out, after, hexec.trans ((exec_bind_ok htold).trans hnoted),
      ((hmade.weaken none).trans hsteady).trans hafter⟩

lemma exec_passFilter {id : String} {filter : Service.Filter}
    (hlookup : state.service.filters.lookup id = some filter) (hcovers : Covers filter.name record.logger)
    (hrender : record.render = .ok text) :
    exec (passFilter make announce id record) state
      = exec (do
          let engine ← filterEngine make id filter
          let out ← rewrite announce engine text
          return out.elim record record.withText) state := by
  rw [passFilter, exec_bind_ok (exec_get state), hlookup, exec_redact_of_handles hcovers hrender, bind_assoc]

/-- A station that does not stop a record hands it on. -/
lemma exec_pass_cons {station : Station} (h : state.service.want reports record station = none)
    (hannounces : reports = none → Announces announce state) (make : Action Engine) (time : String)
    (stations : List Station) :
    ∃ passed after, exec (pass make announce time (station :: stations) record) state
        = exec (pass make announce time stations passed) after
      ∧ Steady reports state after ∧ record.Alike passed := by
  cases station with
  | output layout => exact ⟨record, _, rfl, steady_print _ reports state, .refl record⟩
  | filter id =>
      suffices hfilter : ∃ passed after, exec (passFilter make announce id record) state = (.ok passed, after)
          ∧ Steady reports state after ∧ record.Alike passed by
        obtain ⟨passed, after, hexec, hafter⟩ := hfilter
        exact ⟨passed, after, exec_bind_ok hexec, hafter⟩
      cases hlookup : state.service.filters.lookup id with
      | none =>
          refine ⟨record, state, ?_, .refl reports state, .refl record⟩
          rw [passFilter, exec_bind_ok (exec_get state), hlookup, exec_pure]
      | some filter =>
          by_cases hhandles : Handles filter.name record
          · obtain ⟨engine, hengine, hprepared⟩ := (Service.want_filter_eq_none_iff hlookup).mp h hhandles
            obtain ⟨hcovers, text, hrender⟩ := hhandles
            obtain ⟨out, after, hexec, hafter⟩ := exec_rewrite_of_unstopped hprepared hannounces text
            refine ⟨out.elim record record.withText, after, ?_, hafter, Record.alike_elim hrender out⟩
            have hkept : exec (filterEngine make id filter) state = (.ok engine, state) := by
              rw [filterEngine, hengine, exec_pure]
            rw [exec_passFilter hlookup hcovers hrender, exec_bind_ok hkept, exec_bind_ok hexec, exec_pure]
          · refine ⟨record, state, ?_, .refl reports state, .refl record⟩
            rw [passFilter, exec_bind_ok (exec_get state), hlookup, exec_redact_of_not_handles hhandles]

/-- Stations that do not stop a record hand it on to those that come after them. -/
lemma exec_pass_append {before : List Station}
    (h : ∀ station ∈ before, state.service.want reports record station = none)
    (hannounces : reports = none → Announces announce state) (make : Action Engine) (time : String)
    (stations : List Station) :
    ∃ passed after, exec (pass make announce time (before ++ stations) record) state
        = exec (pass make announce time stations passed) after
      ∧ Steady reports state after ∧ record.Alike passed := by
  induction before generalizing state record with
  | nil => exact ⟨record, state, rfl, .refl reports state, .refl record⟩
  | cons station rest ih =>
      obtain ⟨passed, between, hexec, hsteady, halike⟩ :=
        exec_pass_cons (h station List.mem_cons_self) hannounces make time (rest ++ stations)
      have hrest : ∀ station ∈ rest, between.service.want reports passed station = none := fun station hmem => by
        rw [hsteady.want, Service.want_congr halike, h station (List.mem_cons_of_mem _ hmem)]
      obtain ⟨final, after, hexec', hsteady', halike'⟩ := ih hrest fun hnone => by
        subst hnone
        exact (hannounces rfl).of_steady hsteady
      exact ⟨final, after, hexec.trans hexec', hsteady.trans hsteady', halike.trans halike'⟩

/-- A record that nothing stops passes all stations. -/
lemma exec_pass_of_none (h : state.service.firstWant reports record stations = none)
    (hannounces : reports = none → Announces announce state) :
    ∃ after, exec (pass make announce time stations record) state = (.ok (), after)
      ∧ Steady reports state after := by
  obtain ⟨passed, after, hexec, hsteady, -⟩ :=
    exec_pass_append (List.findSome?_eq_none_iff.mp h) hannounces make time []
  rw [List.append_nil] at hexec
  exact ⟨after, hexec, hsteady⟩

/-! ## Records that are stopped -/

/-- An action comes to another one, before which nothing is done that matters and after which nothing waits. -/
def Leads {α β : Type} (reports : Option Want) (state : Installation) (action : Action α)
    (other : Action β) : Prop :=
  ∃ (after : Installation) (further : β → Action α), Steady reports state after ∧ (∀ b, Unwaiting (further b))
    ∧ exec action state = exec (other >>= further) after

namespace Leads

variable {α β γ : Type} {action : Action α} {other : Action β}

lemma refl (reports : Option Want) (state : Installation) (action : Action α) :
    Leads reports state action action :=
  ⟨state, Pure.pure, .refl reports state, .pure, by rw [bind_pure]⟩

lemma weaken {want : Want} (h : Leads (some want) state action other) (reports : Option Want) :
    Leads reports state action other := by
  obtain ⟨after, further, hsteady, hfurther, hexec⟩ := h
  exact ⟨after, further, hsteady.weaken reports, hfurther, hexec⟩

/-- An action may do something else first. -/
lemma of_exec {before : Action α} {between : Installation} (h : Leads reports between action other)
    (hsteady : Steady reports state between) (hexec : exec before state = exec action between) :
    Leads reports state before other := by
  obtain ⟨after, further, hsteady', hfurther, hexec'⟩ := h
  exact ⟨after, further, hsteady.trans hsteady', hfurther, hexec.trans hexec'⟩

/-- An action may do something else afterwards. -/
lemma bind {further : α → Action γ} (h : Leads reports state action other)
    (hfurther : ∀ a, Unwaiting (further a)) : Leads reports state (action >>= further) other := by
  obtain ⟨after, further', hsteady, hfurther', hexec⟩ := h
  refine ⟨after, fun b => further' b >>= further, hsteady, fun b => (hfurther' b).bind hfurther, ?_⟩
  rw [exec_bind_congr hexec, bind_assoc]

lemma trans {third : Action γ} (h : Leads reports state action other)
    (h' : ∀ after, Steady reports state after → Leads reports after other third) :
    Leads reports state action third := by
  obtain ⟨between, further, hsteady, hfurther, hexec⟩ := h
  exact ((h' between hsteady).bind hfurther).of_exec hsteady hexec

/-- What halts the one action halts the other. -/
lemma halts {halt : Halt} (h : Leads reports state action other)
    (hother : ∀ after, Steady reports state after → (exec other after).1 = .error halt) :
    ∃ after, Steady reports state after ∧ exec action state = (.error halt, (exec other after).2) := by
  obtain ⟨after, further, hsteady, -, hexec⟩ := h
  have hhalts : exec other after = (.error halt, (exec other after).2) := Prod.ext (hother after hsteady) rfl
  exact ⟨after, hsteady, hexec.trans (exec_bind_error hhalts)⟩

end Leads

/-- A filter in want of an engine has it made, if the service has none. -/
lemma leads_filterEngine {filter : Service.Filter} (hengine : filter.engine = none)
    (hshared : state.service.shared = none) (reports : Option Want) (make : Action Engine) (id : String) :
    Leads reports state (filterEngine make id filter) make := by
  have hmade : exec (sharedEngine make) state = exec make state := by
    rw [sharedEngine, exec_bind_ok (exec_get state), hshared]
  rw [filterEngine, hengine]
  refine .bind (.of_exec (.refl reports state make) (.refl reports state) hmade) fun engine => ?_
  exact .bind (.modify fun _ hready => ⟨hready.free, hready.shared⟩) fun _ => .pure engine

/-- A filter in want of a cache has it reported. -/
lemma leads_rewrite (h : ¬ state.service.Prepared engine) (reports : Option Want) (announce : Cache → Action Unit)
    (text : String) : ∃ cache, Leads reports state (rewrite announce engine text) (announce cache) := by
  obtain ⟨cache, registry, number, after, hmade, hexec⟩ := exec_rewrite_of_not_prepared h announce text
  refine ⟨cache, after, _, hmade.weaken reports, fun _ => ?_, hexec⟩
  exact .bind (.modify fun _ hready => ⟨hready.free, hready.shared⟩) fun _ =>
    .get_bind fun _ _ => .bind (.modify fun _ hready => ⟨hready.free, hready.shared⟩) fun _ => .pure _

/-- **A record that is stopped** has come to the making of the engine, or to the report of a cache. -/
lemma leads_of_firstWant {want : Want} (h : state.service.firstWant reports record stations = some want)
    (hshared : state.service.shared = none) (hannounces : reports = none → Announces announce state)
    (hunwaiting : ∀ cache, Unwaiting (announce cache)) :
    (want = .engine ∧ Leads reports state (pass make announce time stations record) make)
    ∨ (reports = some want
      ∧ ∃ cache, Leads reports state (pass make announce time stations record) (announce cache)) := by
  obtain ⟨before, station, rest, rfl, hstation, hbefore⟩ := List.findSome?_eq_some_iff.mp h
  obtain ⟨passed, between, hexec, hsteady, halike⟩ :=
    exec_pass_append hbefore hannounces make time (station :: rest)
  rw [← Service.want_congr halike, ← hsteady.want] at hstation
  obtain ⟨id, filter, rfl, hlookup, ⟨hcovers, text, hrender⟩, hcases⟩ := Service.want_eq_some hstation
  have hrest : ∀ passed, Unwaiting (pass make announce time rest passed) :=
    unwaiting_pass make hunwaiting time rest
  rw [pass, exec_bind_congr (exec_passFilter hlookup hcovers hrender)] at hexec
  rcases hcases with ⟨hengine, rfl⟩ | ⟨engine, hengine, hfresh, rfl⟩
  · refine .inl ⟨rfl, .of_exec (.bind (.bind ?_ fun engine => ?_) hrest) hsteady hexec⟩
    · exact leads_filterEngine hengine (hsteady.shared.trans hshared) reports make id
    · exact (undisturbed_ready.rewrite hunwaiting engine text).bind fun _ => .pure _
  · obtain ⟨cache, hleads⟩ := leads_rewrite hfresh (some want) announce text
    have hkept : filterEngine make id filter = pure engine := by
      rw [filterEngine, hengine]
    rw [hkept, pure_bind] at hexec
    exact .inr ⟨rfl, cache, .of_exec ((hleads.bind fun _ => .pure _).bind hrest) hsteady hexec⟩

/-! ## Reports of caches -/

/-- Reports that nothing stops come to their end. -/
lemma announces_of_reportWant (h : state.service.reportWant routing = none) (time : String) (room : Nat) :
    Announces (fun cache => handle routing time (room + 1) cache.report) state := by
  intro before hbefore cache
  have hnone := hbefore.reportWant h
  rw [Service.reportWant, ← Service.firstWant_congr cache.alike_report] at hnone
  obtain ⟨after, hexec, hsteady⟩ := exec_pass_of_none hnone nofun
  exact ⟨after, hexec, hsteady.weaken none⟩

/-- Where reports are stopped, one of them has come to what stops them. -/
lemma leads_report {want : Want} (h : state.service.reportWant routing = some want)
    (hshared : state.service.shared = none) (time : String) (room : Nat) (cache : Cache) :
    (want = .engine ∧ Leads (some want) state (handle routing time (room + 1) cache.report)
        (start (handle routing time room)))
    ∨ (want = .cache ∧ ∃ other : Cache, Leads (some want) state (handle routing time (room + 1) cache.report)
        (handle routing time room other.report)) := by
  rw [Service.reportWant, ← Service.firstWant_congr cache.alike_report] at h
  rcases leads_of_firstWant h hshared nofun fun cache => unwaiting_handle routing time room cache.report
    with ⟨hwant, hleads⟩ | ⟨hwant, other, hleads⟩
  · exact .inl ⟨hwant, hleads.weaken _⟩
  · exact .inr ⟨(Option.some.inj hwant).symm, other, hleads.weaken _⟩

/-- **A report that leads to another one** overflows any room. -/
lemma handle_report_of_cache_want (h : state.service.reportWant routing = some .cache)
    (hshared : state.service.shared = none) (time : String) (room : Nat) (cache : Cache) :
    ∃ after, exec (handle routing time room cache.report) state = (.error .tooDeep, after)
      ∧ Steady (some .cache) state after := by
  induction room generalizing state cache with
  | zero => exact ⟨state, rfl, .refl _ state⟩
  | succ room ih =>
      obtain ⟨hwant, -⟩ | ⟨-, other, between, further, hsteady, -, hexec⟩ := leads_report h hshared time room cache
      · cases hwant
      · obtain ⟨after, hother, hafter⟩ := ih (hsteady.reportWant h) (hsteady.shared.trans hshared) other
        exact ⟨after, hexec.trans (exec_bind_error hother), hsteady.trans hafter⟩

/-! ## Records that are handed to the log -/

/-- **A record without a snag is handled.** -/
theorem handle_of_no_snag (h : state.service.snag routing record = none) (time : String) (room : Nat) :
    ∃ after, exec (handle routing time (room + 2) record) state = (.ok (), after)
      ∧ Steady (state.service.reportWant routing) state after :=
  exec_pass_of_none h fun hreports => announces_of_reportWant hreports time room

/-- **A record that is stopped for want of a cache** overflows any room. -/
theorem handle_of_cache_snag (h : state.service.snag routing record = some .cache)
    (hshared : state.service.shared = none) (time : String) (room : Nat) :
    ∃ after, exec (handle routing time room record) state = (.error .tooDeep, after)
      ∧ Steady (state.service.reportWant routing) state after := by
  cases room with
  | zero => exact ⟨state, rfl, .refl _ state⟩
  | succ room =>
      have hreports : state.service.reportWant routing = some .cache := by
        obtain ⟨-, station, -, -, hstation, -⟩ := List.findSome?_eq_some_iff.mp h
        obtain ⟨-, -, -, -, -, ⟨-, hwant⟩ | ⟨-, -, -, hreports⟩⟩ := Service.want_eq_some hstation
        · cases hwant
        · exact hreports
      rw [Service.snag, hreports] at h
      rcases leads_of_firstWant h hshared nofun fun cache => unwaiting_handle routing time room cache.report
        with ⟨hwant, -⟩ | ⟨-, cache, between, further, hsteady, -, hexec⟩
      · cases hwant
      · obtain ⟨after, hreport, hafter⟩ := handle_report_of_cache_want (hsteady.reportWant hreports)
          (hsteady.shared.trans hshared) time room cache
        rw [hreports]
        exact ⟨after, hexec.trans (exec_bind_error hreport), hsteady.trans hafter⟩

/-- **A record that is stopped for want of an engine** comes to the making of it. -/
theorem handle_of_engine_snag (h : state.service.snag routing record = some .engine)
    (hshared : state.service.shared = none) (time : String) (room : Nat) :
    ∃ inner, room ≤ inner ∧ Leads (state.service.reportWant routing) state
      (handle routing time (room + 2) record) (start (handle routing time inner)) := by
  rcases leads_of_firstWant h hshared (fun hreports => announces_of_reportWant hreports time room)
      fun cache => unwaiting_handle routing time (room + 1) cache.report
    with ⟨-, hleads⟩ | ⟨hreports, cache, hleads⟩
  · exact ⟨room + 1, Nat.le_succ room, hleads⟩
  · refine ⟨room, le_refl room, hleads.trans fun after hsteady => ?_⟩
    rw [hreports] at hsteady ⊢
    obtain ⟨-, hstart⟩ | ⟨hwant, -⟩ := leads_report (hsteady.reportWant hreports)
      (hsteady.shared.trans hshared) time room cache
    · exact hstart
    · cases hwant

end Installation
end Redaction
