import Redaction.Proofs.Service.Snags

/-!
# Making the engine in view of the log

The service makes its engine under a lock, and all that it reports on the way is handed to the log.  A filter in
want of an engine that one of these records comes to asks the service for it, that is, for the lock that its own
thread holds.  Whether this happens can be told beforehand.

* `Service.announcements` — what is reported until the engine is there.
* **`Service.verdict`** — what comes of making the engine.
* **`Service.Entangled`** — when that is waiting for ever.
* `exec_tell` — what is told under the lock is told up to the first record that is stopped.
* `Leaves` — what an answer leaves behind: the engine is shared, or nothing has come of it.
* `exec_install`, `exec_build`, `exec_giveUp`, **`exec_start`** — making the engine comes to what the verdict says,
  and gives the lock back unless it waits.
-/

namespace Redaction
namespace Service

/-! ## What can be told beforehand -/

variable {routing : Routing} {service : Service}

/-- Events of one part and one level meet the same filters. -/
lemma snag_congr {event other : Event} (hchannel : other.channel = event.channel)
    (hseverity : other.severity = event.severity) :
    service.snag routing other.record = service.snag routing event.record := by
  have halike : event.record.Alike other.record := fun name => by
    rw [Event.handles_record, Event.handles_record, hchannel]
  have hlogger : other.record.logger = event.record.logger := congrArg Channel.logger hchannel
  have hlevel : other.record.level = event.record.level := congrArg Severity.level hseverity
  rw [snag, snag, firstWant_congr halike, hlogger, hlevel]

/-- The events that are reported until the service has its engine, or fails to make it. -/
def announcements (service : Service) : List Event :=
  service.openings ++ match service.loadStore.1 with
    | .error _ => []
    | .ok store => [.engineReady store.ruleCount store.size]

/-- What stops the first of some events that is stopped. -/
def firstSnag (routing : Routing) (service : Service) (events : List Event) : Option Want :=
  events.findSome? fun event => service.snag routing event.record

end Service

/-- How a want halts work under the lock. -/
def Want.halt : Want → Installation.Halt
  | engine => .waiting
  | cache => .tooDeep

/-- Work under the lock that does not wait was not stopped for want of an engine. -/
lemma Want.ne_engine {want : Want} (h : want.halt ≠ .waiting) : some want ≠ some .engine := by
  rintro ⟨⟩
  exact h rfl

namespace Service
open Installation

variable {routing : Routing} {service : Service}

/-- What comes of building the engine, before anybody sees what went wrong. -/
def built (routing : Routing) (service : Service) : Except Halt Engine :=
  match service.firstSnag routing service.announcements with
  | some want => .error want.halt
  | none =>
    match service.loadStore.1 with
    | .error cause => .error (.failed (.ofLoading cause))
    | .ok store => .ok ⟨service.nextIdentity, store⟩

/-- The events of the loading come before those of the engine. -/
lemma built_eq (routing : Routing) (service : Service) :
    service.built routing = match service.firstSnag routing service.openings, service.loadStore.1 with
      | some want, _ => .error want.halt
      | none, .error cause => .error (.failed (.ofLoading cause))
      | none, .ok store => (service.firstSnag routing [.engineReady store.ruleCount store.size]).elim
        (.ok ⟨service.nextIdentity, store⟩) fun want => .error want.halt := by
  have hsplit : ∀ events, service.firstSnag routing (service.openings ++ events)
      = (service.firstSnag routing service.openings).or (service.firstSnag routing events) :=
    fun events => List.findSome?_append
  rw [built, announcements, hsplit]
  cases service.firstSnag routing service.openings with
  | some want => rfl
  | none =>
      cases service.loadStore.1 with
      | error cause => rfl
      | ok store =>
          dsimp only
          cases service.firstSnag routing [.engineReady store.ruleCount store.size] <;> rfl

/-- What comes of a halt, which is reported. -/
def failing (routing : Routing) (service : Service) (halt : Halt) : Halt :=
  if halt = .waiting then .waiting
  else (service.snag routing Event.serviceFailed.record).elim halt.raised Want.halt

/-- What comes of making the engine. -/
def verdict (routing : Routing) (service : Service) : Except Halt Engine :=
  (service.built routing).mapError (service.failing routing)

/-- Making the engine comes to a filter that wants it: with the first record that is stopped, or with the report
that something went wrong. -/
def Entangled (routing : Routing) (service : Service) : Prop :=
  service.firstSnag routing service.announcements = some .engine
    ∨ (service.snag routing Event.serviceFailed.record = some .engine
      ∧ (service.firstSnag routing service.announcements = some .cache
        ∨ service.firstSnag routing service.announcements = none ∧ ∃ cause, service.loadStore.1 = .error cause))

lemma failing_eq_waiting_iff {halt : Halt} :
    service.failing routing halt = .waiting ↔
      halt = .waiting ∨ service.snag routing Event.serviceFailed.record = some .engine := by
  rw [failing]
  by_cases hhalt : halt = .waiting
  · simp [hhalt]
  · have hraised : halt.raised ≠ .waiting := by
      cases halt <;> simp_all [Halt.raised]
    cases service.snag routing Event.serviceFailed.record with
    | none => simp [hhalt, hraised]
    | some want => cases want <;> simp [hhalt, Want.halt]

lemma verdict_eq_waiting_iff : service.verdict routing = .error .waiting ↔ service.Entangled routing := by
  have hverdict : service.verdict routing = .error .waiting ↔
      ∃ halt, service.built routing = .error halt ∧ service.failing routing halt = .waiting := by
    rw [verdict]
    cases service.built routing <;> simp [Except.mapError]
  simp only [hverdict, failing_eq_waiting_iff, Entangled, built]
  cases service.firstSnag routing service.announcements with
  | some want => cases want <;> simp [Want.halt]
  | none => cases service.loadStore.1 <;> simp

/-- Where no record of the service is stopped, making the engine comes to what it comes to without a log. -/
lemma verdict_of_clear (h : service.firstSnag routing service.announcements = none)
    (hfailed : service.snag routing Event.serviceFailed.record = none) (hshared : service.shared = none) :
    service.verdict routing = (exec Service.engine service).1.mapError .failed := by
  obtain ⟨events, hstart⟩ := exec_start service
  rw [verdict, built, h, exec_engine_of_none hshared, hstart]
  cases service.loadStore.1 with
  | error cause => simp [failing, hfailed, Halt.raised, Except.mapError]
  | ok store => simp [Except.mapError]

end Service

namespace Installation

variable {state before after : Installation} {reports : Option Want} {routing : Routing}

/-! ## What is told -/

lemma Steady.firstSnag (h : Steady reports before after) (hreports : before.service.reportWant routing = reports)
    (events : List Event) :
    after.service.firstSnag routing events = before.service.firstSnag routing events :=
  congrArg events.findSome? (funext fun event => h.snag hreports event.record)

lemma Steady.verdict (h : Steady reports before after) (hreports : before.service.reportWant routing = reports) :
    after.service.verdict routing = before.service.verdict routing := by
  have hannouncements : after.service.announcements = before.service.announcements := by
    have hpath : after.service.policyPath = before.service.policyPath := by rw [h.service]
    rw [Service.announcements, Service.announcements, Service.openings, Service.openings, h.loadStore, hpath]
  have hidentity : after.service.nextIdentity = before.service.nextIdentity := by rw [h.service]
  have hfailing : after.service.failing routing = before.service.failing routing := by
    funext halt
    rw [Service.failing, Service.failing, h.snag hreports]
  rw [Service.verdict, Service.verdict, hfailing, Service.built, Service.built, hannouncements, h.firstSnag hreports,
    h.loadStore, hidentity]

/-- Nothing has come of work under the lock, but for texts, caches and numbers. -/
structure Undone (routing : Routing) (before after : Installation) : Prop where
  locked : after.locked = before.locked
  shared : after.service.shared = before.service.shared
  snag : ∀ record, after.service.snag routing record = before.service.snag routing record

lemma Steady.undone (h : Steady reports before after) (hreports : before.service.reportWant routing = reports) :
    Undone routing before after :=
  ⟨h.locked, h.shared, h.snag hreports⟩

/-- A thread waits for a lock that it holds. -/
lemma exec_underLock_of_locked {α : Type} (h : state.locked = true) (action : Action α) :
    exec (underLock action) state = (.error .waiting, state) := by
  rw [underLock, exec_bind_ok (exec_get state), if_pos h, exec_throw]

/-- **What is told under the lock** is told up to the first record that is stopped. -/
lemma exec_tell (hlocked : state.locked = true) (hshared : state.service.shared = none) (routing : Routing)
    (time : String) (room : Nat) (events : List Event) :
    ∃ after, exec (tell (handle routing time (room + 2)) events) state
        = ((state.service.firstSnag routing events).elim (.ok ()) fun want => .error want.halt, after)
      ∧ (state.service.firstSnag routing events ≠ some .engine →
        Steady (state.service.reportWant routing) state after) := by
  induction events generalizing state with
  | nil => exact ⟨state, rfl, fun _ => .refl _ state⟩
  | cons event rest ih =>
      rw [Service.firstSnag, List.findSome?_cons, tell]
      cases hsnag : state.service.snag routing event.record with
      | none =>
          obtain ⟨between, hexec, hsteady⟩ := handle_of_no_snag hsnag time room
          obtain ⟨after, hrest, hafter⟩ := ih (hsteady.locked.trans hlocked) (hsteady.shared.trans hshared)
          rw [hsteady.firstSnag rfl] at hrest hafter
          rw [hsteady.reportWant rfl] at hafter
          exact ⟨after, (exec_bind_ok hexec).trans hrest, fun hwant => hsteady.trans (hafter hwant)⟩
      | some want =>
          cases want with
          | cache =>
              obtain ⟨after, hexec, hsteady⟩ := handle_of_cache_snag hsnag hshared time (room + 2)
              exact ⟨after, exec_bind_error hexec, fun _ => hsteady⟩
          | engine =>
              obtain ⟨inner, -, hleads⟩ := handle_of_engine_snag hsnag hshared time room
              obtain ⟨after, -, hexec⟩ := hleads.halts fun after hsteady =>
                congrArg Prod.fst (exec_underLock_of_locked (hsteady.locked.trans hlocked) _)
              exact ⟨_, exec_bind_error hexec, fun hwant => absurd rfl hwant⟩

/-! ## Making the engine -/

lemma Undone.trans (h : Undone routing before state) (h' : Undone routing state after) : Undone routing before after :=
  ⟨h'.locked.trans h.locked, h'.shared.trans h.shared, fun record => (h'.snag record).trans (h.snag record)⟩

lemma Undone.firstSnag (h : Undone routing before after) (events : List Event) :
    after.service.firstSnag routing events = before.service.firstSnag routing events :=
  congrArg events.findSome? (funext fun event => h.snag event.record)

/-- What an answer to making the engine leaves: nothing has come of it, or the service has the engine. -/
def Leaves (routing : Routing) (before : Installation) (answer : Except Halt Engine) (after : Installation) : Prop :=
  match answer with
  | .error halt => halt ≠ .waiting → Undone routing before after
  | .ok engine => after.locked = before.locked ∧ after.service.shared = some engine

lemma Undone.leaves (h : Undone routing before state) {answer : Except Halt Engine}
    (hleaves : Leaves routing state answer after) : Leaves routing before answer after := by
  cases answer with
  | error halt => exact fun hwaiting => h.trans (hleaves hwaiting)
  | ok engine => exact ⟨hleaves.1.trans h.locked, hleaves.2⟩

/-- The end of making the engine is reported like the start, and meets the same filters. -/
lemma snag_serviceReady {service : Service} (h : service.firstSnag routing service.openings = none) :
    service.snag routing Event.serviceReady.record = none :=
  (Service.snag_congr (by rfl) (by rfl)).trans (List.findSome?_eq_none_iff.mp h _ List.mem_cons_self)

/-- The engine of a store is made and shared, unless the record that says so is stopped. -/
lemma exec_install (hlocked : state.locked = true) (hshared : state.service.shared = none)
    (hready : state.service.snag routing Event.serviceReady.record = none) (store : RuleStore) (time : String)
    (room : Nat) :
    ∃ after, exec (install (handle routing time (room + 2)) store) state
        = ((state.service.firstSnag routing [.engineReady store.ruleCount store.size]).elim
          (.ok ⟨state.service.nextIdentity, store⟩) fun want => .error want.halt, after)
      ∧ Leaves routing state ((state.service.firstSnag routing [.engineReady store.ruleCount store.size]).elim
          (.ok ⟨state.service.nextIdentity, store⟩) fun want => .error want.halt) after := by
  -- counting engines changes nothing that a record meets
  have hcounted : Undone routing state state.counted := ⟨rfl, rfl, fun _ => rfl⟩
  obtain ⟨told, htold, hsteady⟩ := exec_tell (hcounted.locked.trans hlocked) (hcounted.shared.trans hshared) routing
    time room [.engineReady store.ruleCount store.size]
  rw [hcounted.firstSnag] at htold hsteady
  rw [install, exec_bind_ok (exec_get state)]
  dsimp only
  rw [exec_bind_ok (exec_modify counted state)]
  cases hengine : state.service.firstSnag routing [.engineReady store.ruleCount store.size] with
  | some want =>
      rw [hengine] at htold hsteady
      exact ⟨told, exec_bind_error htold, fun hhalt => hcounted.trans ((hsteady (Want.ne_engine hhalt)).undone rfl)⟩
  | none =>
      rw [hengine] at htold hsteady
      have hundone := hcounted.trans ((hsteady nofun).undone rfl)
      rw [exec_bind_ok htold, exec_bind_ok (exec_modify _ told)]
      have hnone : (told.sharing ⟨state.service.nextIdentity, store⟩).service.snag routing
          Event.serviceReady.record = none := (hundone.snag _).trans hready
      obtain ⟨after, hafter, hsteady'⟩ := handle_of_no_snag hnone time room
      refine ⟨after, ?_, hsteady'.locked.trans hundone.locked, hsteady'.shared⟩
      exact exec_bind_ok (exec_bind_ok hafter)

/-- **Building the engine** halts with the first record that is stopped, or with what is wrong with the policy. -/
lemma exec_build (hlocked : state.locked = true) (hshared : state.service.shared = none) (routing : Routing)
    (time : String) (room : Nat) :
    ∃ after, exec (build (handle routing time (room + 2))) state = (state.service.built routing, after)
      ∧ Leaves routing state (state.service.built routing) after := by
  obtain ⟨told, htold, hsteady⟩ := exec_tell hlocked hshared routing time room state.service.openings
  rw [build, exec_bind_ok (exec_get state), Service.built_eq]
  dsimp only
  cases hopenings : state.service.firstSnag routing state.service.openings with
  | some want =>
      rw [hopenings] at htold hsteady
      exact ⟨told, exec_bind_error htold, fun hhalt => (hsteady (Want.ne_engine hhalt)).undone rfl⟩
  | none =>
      rw [hopenings] at htold hsteady
      rw [exec_bind_ok htold]
      have hundone := (hsteady nofun).undone rfl
      cases state.service.loadStore.1 with
      | error cause => exact ⟨told, rfl, fun _ => hundone⟩
      | ok store =>
          obtain ⟨after, hexec, hleaves⟩ := exec_install (hundone.locked.trans hlocked) (hundone.shared.trans hshared)
            ((hundone.snag _).trans (snag_serviceReady hopenings)) store time room
          have hidentity : told.service.nextIdentity = state.service.nextIdentity := by
            rw [(hsteady nofun).service]
          rw [hundone.firstSnag, hidentity] at hexec hleaves
          exact ⟨after, hexec, hundone.leaves hleaves⟩

/-- What went wrong is reported and passed on, if the report is not stopped. -/
lemma exec_giveUp {halt : Halt} (hhalt : halt ≠ .waiting) (hlocked : state.locked = true)
    (hshared : state.service.shared = none) (routing : Routing) (time : String) (room : Nat) :
    ∃ after, exec (giveUp (handle routing time (room + 2)) halt) state
        = (.error (state.service.failing routing halt), after)
      ∧ Leaves routing state (.error (state.service.failing routing halt)) after := by
  obtain ⟨after, hexec, hsteady⟩ := exec_tell hlocked hshared routing time room [.serviceFailed]
  have hfirst : state.service.firstSnag routing [.serviceFailed]
      = state.service.snag routing Event.serviceFailed.record := List.findSome?_singleton
  rw [hfirst] at hexec hsteady
  rw [giveUp, if_neg hhalt, Service.failing, if_neg hhalt]
  cases hsnag : state.service.snag routing Event.serviceFailed.record with
  | none =>
      rw [hsnag] at hexec hsteady
      exact ⟨after, exec_bind_ok hexec, fun _ => (hsteady nofun).undone rfl⟩
  | some want =>
      rw [hsnag] at hexec hsteady
      exact ⟨after, exec_bind_error hexec, fun hhalt => (hsteady (Want.ne_engine hhalt)).undone rfl⟩

lemma exec_make (hlocked : state.locked = true) (hshared : state.service.shared = none) (routing : Routing)
    (time : String) (room : Nat) :
    ∃ after, exec (tryCatch (build (handle routing time (room + 2))) (giveUp (handle routing time (room + 2)))) state
        = (state.service.verdict routing, after)
      ∧ Leaves routing state (state.service.verdict routing) after := by
  obtain ⟨between, hbuild, hleaves⟩ := exec_build hlocked hshared routing time room
  rw [exec_tryCatch, hbuild, Service.verdict]
  cases hbuilt : state.service.built routing with
  | ok engine =>
      rw [hbuilt] at hleaves
      exact ⟨between, rfl, hleaves⟩
  | error halt =>
      rw [hbuilt] at hleaves
      by_cases hhalt : halt = .waiting
      · subst hhalt
        exact ⟨between, rfl, fun hwaiting => absurd rfl hwaiting⟩
      · have hundone : Undone routing state between := hleaves hhalt
        obtain ⟨after, hexec, hafter⟩ := exec_giveUp hhalt (hundone.locked.trans hlocked)
          (hundone.shared.trans hshared) routing time room
        have hfailing : between.service.failing routing halt = state.service.failing routing halt := by
          rw [Service.failing, Service.failing, hundone.snag]
        rw [hfailing] at hexec hafter
        exact ⟨after, hexec, hundone.leaves hafter⟩

/-- What is done under the lock is done while it is taken, and the lock is given back unless that waits. -/
lemma exec_underLock {α : Type} (h : state.locked = false) (action : Action α) :
    exec (underLock action) state
      = match exec action { state with locked := true } with
        | (.ok a, after) => (.ok a, { after with locked := false })
        | (.error halt, after) =>
          (.error halt, if halt = .waiting then after else { after with locked := false }) := by
  rw [underLock, exec_bind_ok (exec_get state), h, if_neg Bool.false_ne_true, setLock,
    exec_bind_ok (exec_modify _ state), exec_bind, exec_tryCatch]
  rcases exec action { state with locked := true } with ⟨halt | a, after⟩
  · by_cases hhalt : halt = .waiting
    · subst hhalt
      rfl
    · simp only [hhalt, ne_eq, not_false_eq_true, if_true, if_false, exec_bind, setLock, exec_modify, exec_throw]
  · rfl

/-- **Making the engine** comes to what the verdict says, and gives the lock back unless it waits. -/
theorem exec_start (hfree : state.locked = false) (hshared : state.service.shared = none) (routing : Routing)
    (time : String) (room : Nat) :
    ∃ after, exec (start (handle routing time (room + 2))) state = (state.service.verdict routing, after)
      ∧ (state.service.verdict routing ≠ .error .waiting →
        after.locked = false ∧ after.service.shared = (state.service.verdict routing).toOption) := by
  have hlocked : ({ state with locked := true } : Installation).locked = true := rfl
  obtain ⟨after, hmake, hleaves⟩ := exec_make hlocked hshared routing time room
  rw [start, exec_underLock hfree, hmake]
  cases hverdict : state.service.verdict routing with
  | ok engine =>
      rw [hverdict] at hleaves
      exact ⟨_, rfl, fun _ => ⟨rfl, hleaves.2⟩⟩
  | error halt =>
      rw [hverdict] at hleaves
      refine ⟨_, rfl, fun hwaits => ?_⟩
      have hhalt : halt ≠ .waiting := fun hhalt => hwaits (congrArg Except.error hhalt)
      rw [if_neg hhalt]
      exact ⟨rfl, (hleaves hhalt).shared.trans hshared⟩

/-- Who asks for the engine gets the one that is there, or has it made. -/
lemma exec_engine_of_some {held : Engine} (h : state.service.shared = some held) (routing : Routing) (time : String)
    (room : Nat) : exec (engine routing time room) state = (.ok held, state) := by
  rw [engine, sharedEngine, exec_bind_ok (exec_get state), h, exec_pure]

lemma exec_engine_of_none (h : state.service.shared = none) (routing : Routing) (time : String) (room : Nat) :
    exec (engine routing time room) state = exec (start (handle routing time room)) state := by
  rw [engine, sharedEngine, exec_bind_ok (exec_get state), h]

end Installation
end Redaction
