import Redaction.Proofs.Service.StartUp

/-!
# Who waits for the engine

A thread that asks for the engine, or logs a record, while nobody holds the lock of the service waits for ever just
if the making of the engine waits for itself.  Whether it does hangs on which filters handle the records of the
library itself.

* `Leads.waits_iff`, **`exec_handle_of_free`** — which records wait.
* `Service.Apart` — filters that want an engine handle no record of the library; **`Apart.not_entangled`** says that
  then nothing waits.
* **`Service.entangled_root`** — the usual set-up, where everything waits.
* `Calm` — what a step preserves where filters keep apart: **`Calm.step`**, and **`Calm.after`** for whole runs.
* **`engine_or_waits`** — all that comes of asking for the engine or of a record.
-/

namespace Redaction
namespace Installation

variable {state : Installation} {routing : Routing} {time : String}

/-! ## Records where nobody holds the lock -/

/-- An action that comes to the making of the engine waits just if that waits, and gives the lock back otherwise. -/
lemma Leads.waits_iff {action : Action Unit} {inner : Nat} (hinner : 2 ≤ inner)
    (h : Leads (state.service.reportWant routing) state action (start (handle routing time inner)))
    (hfree : state.locked = false) (hshared : state.service.shared = none) :
    ((exec action state).1 = .error .waiting ↔ state.service.Entangled routing)
      ∧ ((exec action state).1 ≠ .error .waiting → (exec action state).2.locked = false) := by
  obtain ⟨between, further, hsteady, hfurther, hexec⟩ := h
  obtain ⟨room, rfl⟩ := Nat.exists_eq_add_of_le' hinner
  obtain ⟨made, hstart, hmade⟩ :=
    exec_start (hsteady.locked.trans hfree) (hsteady.shared.trans hshared) routing time room
  rw [hsteady.verdict rfl] at hstart hmade
  rw [← Service.verdict_eq_waiting_iff, hexec, exec_bind, hstart]
  cases hverdict : state.service.verdict routing with
  | error halt =>
      rw [hverdict] at hmade
      exact ⟨by simp, fun hwaits => (hmade (by simpa using hwaits)).1⟩
  | ok engine =>
      rw [hverdict] at hmade
      obtain ⟨hfree', hshared'⟩ := hmade nofun
      have hready : Ready made := ⟨hfree', by rw [hshared']; rfl⟩
      obtain ⟨hhalts, hafter⟩ := hfurther engine made hready
      refine ⟨⟨fun hwaits => absurd rfl (hhalts _ hwaits), nofun⟩, fun _ => hafter.free⟩

/-- **A record waits** just if it comes to a filter in want of an engine while the service has none, and the making
of that comes to such a filter too. -/
theorem exec_handle_of_free (hfree : state.locked = false) (routing : Routing) (time : String) (room : Nat)
    (record : Record) :
    ((exec (handle routing time (room + 4) record) state).1 = .error .waiting ↔
        state.service.shared = none ∧ state.service.snag routing record = some .engine
          ∧ state.service.Entangled routing)
      ∧ ((exec (handle routing time (room + 4) record) state).1 ≠ .error .waiting →
        (exec (handle routing time (room + 4) record) state).2.locked = false) := by
  rcases Option.eq_none_or_eq_some state.service.shared with hshared | ⟨held, hshared⟩
  · cases hsnag : state.service.snag routing record with
    | none =>
        obtain ⟨after, hexec, hsteady⟩ := handle_of_no_snag hsnag time (room + 2)
        rw [hexec]
        exact ⟨by simp, fun _ => hsteady.locked.trans hfree⟩
    | some want =>
        cases want with
        | cache =>
            obtain ⟨after, hexec, hsteady⟩ := handle_of_cache_snag hsnag hshared time (room + 4)
            rw [hexec]
            exact ⟨by simp, fun _ => hsteady.locked.trans hfree⟩
        | engine =>
            obtain ⟨inner, hinner, hleads⟩ := handle_of_engine_snag hsnag hshared time (room + 2)
            obtain ⟨hwaits, hlock⟩ := hleads.waits_iff (Nat.le_trans (Nat.le_add_left 2 room) hinner) hfree hshared
            exact ⟨hwaits.trans (by simp [hshared]), hlock⟩
  · have hready : Ready state := ⟨hfree, by rw [hshared]; rfl⟩
    obtain ⟨hhalts, hafter⟩ := unwaiting_handle routing time (room + 4) record state hready
    refine ⟨⟨fun hwaits => absurd rfl (hhalts _ hwaits), fun h => ?_⟩, fun _ => hafter.free⟩
    rw [hshared] at h
    cases h.1

end Installation

/-! ## Filters apart from the library -/

namespace Service

variable {routing : Routing} {service : Service}

/-- No filter that wants an engine handles a record of the library itself. -/
def Apart (routing : Routing) (service : Service) : Prop :=
  ∀ (event : Event) id filter, .filter id ∈ routing event.record.logger event.record.level →
    service.filters.lookup id = some filter → Handles filter.name event.record → filter.engine.isSome

lemma Apart.firstWant_ne (h : service.Apart routing) {reports : Option Want} (hreports : reports ≠ some .engine)
    (event : Event) :
    service.firstWant reports event.record (routing event.record.logger event.record.level) ≠ some .engine := by
  intro hwant
  obtain ⟨station, hmem, hstation⟩ := List.exists_of_findSome?_eq_some hwant
  obtain ⟨id, filter, rfl, hlookup, hhandles, ⟨hengine, -⟩ | ⟨-, -, -, hreport⟩⟩ := want_eq_some hstation
  · simpa [hengine] using h event id filter hmem hlookup hhandles
  · exact hreports hreport

lemma Apart.snag_ne (h : service.Apart routing) (event : Event) :
    service.snag routing event.record ≠ some .engine :=
  h.firstWant_ne (h.firstWant_ne (by simp) (.cacheCreated 0)) event

/-- **Where filters keep apart**, making the engine does not come to one that wants it. -/
theorem Apart.not_entangled (h : service.Apart routing) : ¬ service.Entangled routing := by
  rintro (hfirst | ⟨hfailed, -⟩)
  · obtain ⟨event, -, hevent⟩ := List.exists_of_findSome?_eq_some hfirst
    exact h.snag_ne event hevent
  · exact h.snag_ne _ hfailed

/-- Where the first report of the service comes to a filter that wants its engine, nothing else matters. -/
lemma entangled_of_starting
    (h : service.snag routing (Event.serviceStarting (service.policyPath.map FilePath.toString)).record
      = some .engine) : service.Entangled routing := by
  refine .inl ?_
  rw [firstSnag, announcements, openings, List.cons_append, List.findSome?_cons, h]

/-- **The usual set-up:** where a handler of the root logger prints what the service reports, and its first filter
has no name and no engine yet, the making of the engine comes to that filter, whatever the policy. -/
theorem entangled_root {id : String} {filter : Filter} (hlookup : service.filters.lookup id = some filter)
    (hname : filter.name = "") (hengine : filter.engine = none) {level least : Int}
    (hlevel : level ≤ Severity.info.level) (hleast : least ≤ Severity.info.level) (rest : List Station)
    (others : List (Int × List Station)) :
    service.Entangled (.root level ((least, .filter id :: rest) :: others)) := by
  refine entangled_of_starting ?_
  have hstations : ∀ logger, Routing.root level ((least, .filter id :: rest) :: others) logger Severity.info.level
      = .filter id :: (rest ++ Routing.root level others logger Severity.info.level) := by
    intro logger
    simp [Routing.root, hlevel, hleast, (by decide : 0 < Severity.info.level)]
  have hhandles : Handles filter.name
      (Event.serviceStarting (service.policyPath.map FilePath.toString)).record :=
    Event.handles_record.mpr (.inl hname)
  have hwant : ∀ reports, service.want reports
      (Event.serviceStarting (service.policyPath.map FilePath.toString)).record (.filter id) = some .engine := by
    intro reports
    rw [want_filter hlookup, if_pos hhandles, hengine]
  exact (congrArg (service.firstWant _ _) (hstations _)).trans (by rw [firstWant, List.findSome?_cons, hwant])

end Service

namespace Installation

variable {state : Installation} {routing : Routing}

/-! ## Whole runs -/

/-- Nobody holds the lock, and filters that want an engine keep apart. -/
structure Calm (routing : Routing) (state : Installation) : Prop where
  free : state.locked = false
  apart : state.service.Apart routing

lemma undisturbed_apart (routing : Routing) : Undisturbed fun state => state.service.Apart routing where
  redacted _ _ _ _ hbefore _ := hbefore
  printed _ _ hstate := hstate
  furnished before state id filter engine _ _ hstate := by
    intro event other found hmem hlookup hhandles
    have hput : (state.service.put id { filter with engine := some engine }).filters.lookup other = some found :=
      hlookup
    by_cases hother : other = id
    · rw [hother, Service.lookup_put] at hput
      cases hput
      rfl
    · rw [Service.lookup_put_of_ne hother] at hput
      exact hstate event other found hmem hput hhandles

/-- Work during which filters keep apart, whatever comes of it. -/
abbrev Parting {α : Type} (routing : Routing) (action : Action α) : Prop :=
  Keeps (fun state => state.service.Apart routing) (fun _ => True) action

lemma Keeps.tryCatch {α : Type} {holds : Installation → Prop} {fine : Halt → Prop} {action : Action α}
    {handler : Halt → Action α} (h : Keeps holds fine action) (hhandler : ∀ halt, Keeps holds fine (handler halt)) :
    Keeps holds fine (tryCatch action handler) := by
  intro state hstate
  obtain ⟨-, hafter⟩ := h state hstate
  rw [exec_tryCatch]
  rcases hexec : exec action state with ⟨halt | a, after⟩ <;> rw [hexec] at hafter
  · exact hhandler halt after hafter
  · refine ⟨?_, hafter⟩
    rintro halt ⟨⟩

lemma parting_tell {handle : Record → Action Unit} (h : ∀ record, Parting routing (handle record))
    (events : List Event) : Parting routing (tell handle events) := by
  induction events with
  | nil => exact .pure ()
  | cons event rest ih => exact (h event.record).bind fun _ => ih

lemma parting_underLock {α : Type} {action : Action α} (h : Parting routing action) :
    Parting routing (underLock action) := by
  have hlock : ∀ locked, Parting routing (setLock locked) := fun _ => .modify fun _ hstate => hstate
  refine .get_bind fun before _ => ?_
  by_cases hlocked : before.locked
  · rw [if_pos hlocked]
    exact .throw trivial
  · rw [if_neg hlocked]
    refine (hlock true).bind fun _ => .bind (h.tryCatch fun halt => ?_) fun a => (hlock false).bind fun _ => .pure a
    by_cases hhalt : halt ≠ .waiting
    · rw [if_pos hhalt]
      exact (hlock false).bind fun _ => .throw trivial
    · rw [if_neg hhalt]
      exact .throw trivial

lemma parting_start {handle : Record → Action Unit} (h : ∀ record, Parting routing (handle record)) :
    Parting routing (start handle) := by
  have hinstall : ∀ store, Parting routing (install handle store) := fun store =>
    .get_bind fun _ _ => .bind (.modify fun _ hstate => hstate) fun _ => (parting_tell h _).bind fun _ =>
      .bind (.modify fun _ hstate => hstate) fun _ => (parting_tell h _).bind fun _ => .pure _
  refine parting_underLock (.tryCatch (.get_bind fun before _ => (parting_tell h _).bind fun _ => ?_) fun halt => ?_)
  · cases before.service.loadStore.1 with
    | error cause => exact .throw trivial
    | ok store => exact hinstall store
  · rw [giveUp]
    by_cases hhalt : halt = .waiting
    · rw [if_pos hhalt]
      exact .throw trivial
    · rw [if_neg hhalt]
      exact (parting_tell h _).bind fun _ => .throw trivial

lemma parting_sharedEngine {make : Action Engine} (h : Parting routing make) : Parting routing (sharedEngine make) := by
  refine .get_bind fun before _ => ?_
  cases before.service.shared with
  | some engine => exact .pure engine
  | none => exact h

/-- Handling a record hands out engines, and takes none away. -/
theorem parting_handle (routing : Routing) (time : String) (room : Nat) (record : Record) :
    Parting routing (handle routing time room record) := by
  induction room generalizing record with
  | zero => exact .throw trivial
  | succ room ih =>
      exact (undisturbed_apart routing).pass (fun cache => ih cache.report)
        (parting_sharedEngine (parting_start ih)) time _ record

lemma parting_step (routing : Routing) (time : String) (room : Nat) (action : Step) :
    Parting routing (step routing time room action) := by
  cases action with
  | ask => exact .bind (parting_sharedEngine (parting_start (parting_handle routing time room))) fun _ => .pure _
  | log record => exact parting_handle routing time room record
  | reset => exact parting_underLock (.modify fun _ hstate => hstate)
  | setPath path => exact .modify fun _ hstate => hstate
  | write name text => exact .modify fun _ hstate => hstate
  | delete name => exact .modify fun _ hstate => hstate

/-- **A step of a calm installation does not wait**, and leaves it calm. -/
theorem Calm.step (h : state.Calm routing) (time : String) (room : Nat) (action : Step) :
    (exec (step routing time (room + 4) action) state).1 ≠ .error .waiting
      ∧ (exec (step routing time (room + 4) action) state).2.Calm routing := by
  have hentangled := h.apart.not_entangled
  obtain ⟨-, hapart⟩ := parting_step routing time (room + 4) action state h.apart
  suffices hlock : (exec (Installation.step routing time (room + 4) action) state).1 ≠ .error .waiting
      ∧ (exec (Installation.step routing time (room + 4) action) state).2.locked = false from
    ⟨hlock.1, hlock.2, hapart⟩
  cases action with
  | ask =>
      rw [Installation.step, exec_bind]
      rcases Option.eq_none_or_eq_some state.service.shared with hshared | ⟨held, hshared⟩
      · obtain ⟨made, hstart, hmade⟩ := exec_start h.free hshared routing time (room + 2)
        rw [exec_engine_of_none hshared, hstart]
        have hwaits := mt Service.verdict_eq_waiting_iff.mp hentangled
        cases hverdict : state.service.verdict routing with
        | ok engine => exact ⟨nofun, (hmade hwaits).1⟩
        | error halt => exact ⟨fun hwaiting => hwaits (hverdict.trans (congrArg _ (Except.error.inj hwaiting))),
            (hmade hwaits).1⟩
      · rw [exec_engine_of_some hshared]
        exact ⟨nofun, h.free⟩
  | log record =>
      obtain ⟨hwaits, hlock⟩ := exec_handle_of_free h.free routing time room record
      have hgoes := fun hwaiting => hentangled (hwaits.mp hwaiting).2.2
      exact ⟨hgoes, hlock hgoes⟩
  | reset =>
      rw [Installation.step, reset, exec_underLock h.free]
      exact ⟨nofun, rfl⟩
  | setPath path => exact ⟨nofun, h.free⟩
  | write name text => exact ⟨nofun, h.free⟩
  | delete name => exact ⟨nofun, h.free⟩

/-- The installation after steps, each done at its time, whatever came of those before it. -/
def after (routing : Routing) (room : Nat) (steps : List (String × Step)) (state : Installation) : Installation :=
  steps.foldl (fun state (time, action) => (exec (step routing time room action) state).2) state

/-- **A calm installation never waits**, whatever is done with it and in whichever order. -/
theorem Calm.after (h : state.Calm routing) (room : Nat) (steps : List (String × Step)) :
    (state.after routing (room + 4) steps).Calm routing ∧
      ∀ before time action rest, steps = before ++ (time, action) :: rest →
        (exec (Installation.step routing time (room + 4) action) (state.after routing (room + 4) before)).1
          ≠ .error .waiting := by
  induction steps generalizing state with
  | nil => exact ⟨h, fun before time action rest hsplit => by simp at hsplit⟩
  | cons first rest ih =>
      obtain ⟨hgoes, hcalm⟩ := h.step first.1 room first.2
      obtain ⟨hafter, hrest⟩ := ih hcalm
      refine ⟨hafter, fun before time action rest' hsplit => ?_⟩
      cases before with
      | nil =>
          cases hsplit
          exact hgoes
      | cons second before =>
          rw [List.cons_append, List.cons.injEq] at hsplit
          obtain ⟨rfl, hsplit⟩ := hsplit
          exact hrest before time action rest' hsplit

/-! ## The engine, or waiting for ever -/

/-- **The engine, or waiting for ever.**  Where nobody holds the lock, an engine that is there is handed out as it
is.  Otherwise making it comes to what the verdict says, and this is waiting for ever just if the service is
entangled with the log: the first of its records that is stopped is stopped by a filter that wants the engine, or
the report of a failure is.  Where no record of the service is stopped, it is what making the engine comes to
without a log, and where filters that want an engine keep apart from these records it is never waiting.  A record
waits just if it comes to a filter that wants the engine, and making that waits.  What does not wait leaves the lock
free. -/
theorem engine_or_waits (routing : Routing) (time : String) {state : Installation} (hfree : state.locked = false) :
    (∀ held, state.service.shared = some held → ∀ room,
      exec (engine routing time room) state = (.ok held, state))
    ∧ (state.service.shared = none → ∀ room, ∃ after,
      exec (engine routing time (room + 2)) state = (state.service.verdict routing, after)
        ∧ (¬ state.service.Entangled routing →
          after.locked = false ∧ after.service.shared = (state.service.verdict routing).toOption))
    ∧ (state.service.verdict routing = .error .waiting ↔ state.service.Entangled routing)
    ∧ (state.service.firstSnag routing state.service.announcements = none →
      state.service.snag routing Event.serviceFailed.record = none → state.service.shared = none →
        state.service.verdict routing = (exec Service.engine state.service).1.mapError .failed)
    ∧ (state.service.Apart routing → ¬ state.service.Entangled routing)
    ∧ ∀ record room,
      ((exec (handle routing time (room + 4) record) state).1 = .error .waiting ↔
        state.service.shared = none ∧ state.service.snag routing record = some .engine
          ∧ state.service.Entangled routing)
      ∧ ((exec (handle routing time (room + 4) record) state).1 ≠ .error .waiting →
        (exec (handle routing time (room + 4) record) state).2.locked = false) := by
  refine ⟨fun held hshared room => exec_engine_of_some hshared routing time room, fun hshared room => ?_,
    Service.verdict_eq_waiting_iff, Service.verdict_of_clear, Service.Apart.not_entangled,
    fun record room => exec_handle_of_free hfree routing time room record⟩
  obtain ⟨after, hstart, hmade⟩ := exec_start hfree hshared routing time room
  exact ⟨after, (exec_engine_of_none hshared routing time (room + 2)).trans hstart,
    fun hentangled => hmade (mt Service.verdict_eq_waiting_iff.mp hentangled)⟩

/-- The set-up where a handler of the root logger prints records through one filter. -/
def filteredRouting : Routing :=
  .root Severity.info.level [(0, [.filter "late", .output .plain])]

/-- A service without a policy, and a filter of some name that has no engine yet. -/
def lateFilter (name : String) : Installation where
  service := { tree := ⟨[], []⟩, filters := [("late", { name })] }

/-- A filter that is meant for the records of another logger gets its engine.  One that is meant for all records
waits for ever. -/
theorem engine_or_waits_late :
    (lateFilter "app").locked = false ∧ (lateFilter "app").service.shared = none
      ∧ (lateFilter "app").service.Apart filteredRouting
      ∧ (∃ after, exec (engine filteredRouting "" 2) (lateFilter "app") = (.ok ⟨0, .empty⟩, after)
        ∧ after.locked = false)
      ∧ (exec (handle filteredRouting "" 4 Log.greeting) (lateFilter "app")).1 ≠ .error .waiting
      ∧ (lateFilter "").locked = false ∧ (lateFilter "").service.shared = none
      ∧ (exec (engine filteredRouting "" 2) (lateFilter "")).1 = .error .waiting := by
  have hforeign : ∀ channel : Channel, ¬ Covers "app" channel.logger := by
    intro channel
    cases channel <;> decide +kernel
  have happ : (lateFilter "app").service.Apart filteredRouting := by
    intro event id filter _ hlookup hhandles
    obtain ⟨rfl, rfl⟩ := Prod.mk.inj (List.mem_singleton.mp (mem_of_lookup hlookup))
    exact absurd (Event.handles_record.mp hhandles) (hforeign event.channel)
  obtain ⟨-, hasked, -, hclear, hapart, hrecord⟩ :=
    engine_or_waits filteredRouting "" (by rfl : (lateFilter "app").locked = false)
  obtain ⟨-, hasked', hiff', -, -, -⟩ := engine_or_waits filteredRouting "" (by rfl : (lateFilter "").locked = false)
  have hverdict : (lateFilter "app").service.verdict filteredRouting = .ok ⟨0, .empty⟩ :=
    hclear (by decide +kernel) (by decide +kernel) rfl
  have hentangled : (lateFilter "").service.Entangled filteredRouting :=
    .inl (by decide +kernel)
  refine ⟨rfl, rfl, happ, ?_, fun hwaits => ?_, rfl, rfl, ?_⟩
  · obtain ⟨after, hexec, hafter⟩ := hasked rfl 0
    exact ⟨after, hexec.trans (by rw [hverdict]), (hafter (hapart happ)).1⟩
  · exact hapart happ ((hrecord Log.greeting 0).1.mp hwaits).2.2
  · obtain ⟨after, hexec, -⟩ := hasked' rfl 0
    rw [hexec]
    exact hiff'.mpr hentangled

/-- In the usual set-up no room is large enough for the making of the engine, so it does not always come to an
end. -/
theorem not_engine_answers :
    (lateFilter "").locked = false
    ∧ (∀ time room, (exec (engine filteredRouting time (room + 2)) (lateFilter "")).1 = .error .waiting)
    ∧ ¬ ∀ routing time (state : Installation), state.locked = false →
        ∃ least, ∀ room, least ≤ room → (exec (engine routing time room) state).1 ≠ .error .waiting := by
  have hlookup : (lateFilter "").service.filters.lookup "late" = some { name := "" } := rfl
  have hentangled : (lateFilter "").service.Entangled filteredRouting :=
    Service.entangled_root hlookup rfl rfl (by decide) (by decide) _ _
  have hwaits : ∀ time room,
      (exec (engine filteredRouting time (room + 2)) (lateFilter "")).1 = .error .waiting := by
    intro time room
    have hfree : (lateFilter "").locked = false := rfl
    have hshared : (lateFilter "").service.shared = none := rfl
    obtain ⟨after, hstart, -⟩ := exec_start hfree hshared filteredRouting time room
    rw [exec_engine_of_none hshared, hstart]
    exact Service.verdict_eq_waiting_iff.mpr hentangled
  refine ⟨rfl, hwaits, fun hall => ?_⟩
  obtain ⟨least, hleast⟩ := hall filteredRouting "" (lateFilter "") rfl
  exact hleast (least + 2) (Nat.le_add_right least 2) (hwaits "" least)

end Installation
end Redaction
