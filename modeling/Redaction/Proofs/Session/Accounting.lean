import Redaction.Proofs.Engine.Applications
import Redaction.Proofs.Session.ContextCaches

/-!
# What the counts of a cache account for

Every cache counts how often its rules were applied.  Caches are reached in many ways: through a context,
which may be a copy and may be run by another thread; under a name, and then also by engines that the
cache was not made for; or handle by handle.  The counts have to come out right in all of these.

To say what is right, each step of a session is given a *booking*: the cache that it selects to work on,
and how many times it applies a rule there.  The number is that of the trace of the message, or of the
calls that were asked for, and so does not depend on what any handle has counted.

* `booked`, `bookings` — the booking of a step, and all bookings of a run.
* `Books` — what a step may do to the caches of a session; **`next_books`** says that every step, in any
  context and on any thread, does just this.
* **`appliedCount_eq_bookedOn`** — a cache counts what was booked on it since it was made; what is booked
  on others leaves it as it is, handle by handle; no count ever goes down, and none is lost.
-/

namespace Redaction.Session

/-! ## Bookings -/

/-- How many times redacting a message with a cache applies a rule.  An engine without rules does not
look at the cache. -/
def applications (engine : Engine) (cache : Cache) (message : String) : Nat :=
  if engine.store.isEmpty then 0 else (cache.trace message).length

/-- The handle that an index means, with its place. -/
def handleAt? (cache : Cache) (index : Int) : Option (Nat × Handle) :=
  (placeOf cache.handles.length index).bind fun place =>
    (cache.handles[place]?).map fun handle => (place, handle)

/-- How many times some calls on a handle apply its rule. -/
def replacements (cache : Cache) (index : Int) (calls : List Call) : Nat :=
  if (handleAt? cache index).isSome then calls.count .replaceAll else 0

/-- The number of the cache that a redaction selects, if it uses one. -/
def selected (spot : Spot) (engine : Engine) : Option String → Action (Option Nat)
  | some name => return some (← cacheNamed name)
  | none => if engine.store.isEmpty then pure none else return some (← contextCache spot engine)

/-- The cache that a step works on, and how many times it applies a rule there. -/
def booking (spot : Spot) : Step → Action (Option (Nat × Nat))
  | .redact engine message cache => do
    let engine ← engineNamed engine
    match ← selected spot engine cache with
    | none => return none
    | some number =>
      return ((← get).pool.caches[number]?).map fun cache => (number, applications engine cache message)
  | .callHandle cache index calls => do
    let number ← cacheNumber spot cache
    return ((← get).pool.caches[number]?).map fun cache => (number, replacements cache index calls)
  | _ => return none

/-- What a step books in a session.  A step that cannot be done books nothing. -/
def booked (session : Session) (spot : Spot) (action : Step) : Option (Nat × Nat) :=
  match (exec (booking spot action) session).1 with
  | .ok entry => entry
  | .error _ => none

/-- What the steps of a run book, in their order. -/
def bookings (session : Session) : List (Spot × Step) → List (Nat × Nat)
  | [] => []
  | (spot, action) :: rest =>
    (session.booked spot action).toList ++ bookings (session.next spot action).2 rest

/-- What bookings come to on a cache. -/
def bookedOn (number : Nat) (entries : List (Nat × Nat)) : Nat :=
  ((entries.filter (·.1 = number)).map (·.2)).sum

lemma bookedOn_append (number : Nat) (first second : List (Nat × Nat)) :
    bookedOn number (first ++ second) = bookedOn number first + bookedOn number second := by
  simp [bookedOn]

lemma bookedOn_eq_zero {number : Nat} {entries : List (Nat × Nat)}
    (h : number ∉ entries.map (·.1)) : bookedOn number entries = 0 := by
  have hnone : entries.filter (·.1 = number) = [] := by
    rw [List.filter_eq_nil_iff]
    intro entry hentry heq
    exact h (List.mem_map.mpr ⟨entry, hentry, of_decide_eq_true heq⟩)
  rw [bookedOn, hnone]
  rfl

/-! ## What a step may do to caches -/

/-- Caches are added that have not counted anything. -/
def Adds (before after : List Cache) : Prop :=
  ∃ fresh, (∀ cache ∈ fresh, cache.appliedCount = 0) ∧ after = before ++ fresh

/-- Caches are added, and the cache of the booking, if there is one, has counted what was booked. -/
def Books (before after : List Cache) : Option (Nat × Nat) → Prop
  | none => Adds before after
  | some (number, count) => ∃ between old new, Adds before between ∧ between[number]? = some old
      ∧ after = between.set number new ∧ new.appliedCount = old.appliedCount + count ∧ old.Grown new

lemma Adds.refl (caches : List Cache) : Adds caches caches :=
  ⟨[], by simp, by simp⟩

lemma Adds.getElem? {before after : List Cache} (h : Adds before after) {number : Nat} {cache : Cache}
    (hcache : before[number]? = some cache) : after[number]? = some cache := by
  obtain ⟨fresh, -, rfl⟩ := h
  rwa [List.getElem?_append_left (List.getElem?_eq_some_iff.mp hcache).1]

/-- The count of the cache with a number; a cache that is not there has counted nothing. -/
def countAt (caches : List Cache) (number : Nat) : Nat :=
  (caches[number]?.map Cache.appliedCount).getD 0

lemma countAt_of_getElem? {caches : List Cache} {number : Nat} {cache : Cache}
    (h : caches[number]? = some cache) : countAt caches number = cache.appliedCount := by
  rw [countAt, h]
  rfl

lemma Adds.countAt {before after : List Cache} (h : Adds before after) (number : Nat) :
    countAt after number = countAt before number := by
  obtain ⟨fresh, hfresh, rfl⟩ := h
  by_cases hlt : number < before.length
  · rw [Session.countAt, Session.countAt, List.getElem?_append_left hlt]
  · have hbefore : before[number]? = none := List.getElem?_eq_none (by omega)
    rw [Session.countAt, Session.countAt, List.getElem?_append_right (by omega), hbefore]
    cases hcache : fresh[number - before.length]? with
    | none => rfl
    | some cache => exact hfresh cache (List.mem_of_getElem? hcache)

lemma Adds.total {before after : List Cache} (h : Adds before after) :
    (after.map Cache.appliedCount).sum = (before.map Cache.appliedCount).sum := by
  obtain ⟨fresh, hfresh, rfl⟩ := h
  have hzero : (fresh.map Cache.appliedCount).sum = 0 :=
    List.sum_eq_zero fun count hcount => by
      obtain ⟨cache, hcache, rfl⟩ := List.mem_map.mp hcount
      exact hfresh cache hcache
  rw [List.map_append, List.sum_append, hzero, Nat.add_zero]

section
variable {before after : List Cache} {entry : Option (Nat × Nat)}

/-- The count of each cache goes up by what is booked on it. -/
lemma Books.countAt (h : Books before after entry) (number : Nat) :
    countAt after number = countAt before number + bookedOn number entry.toList := by
  cases entry with
  | none =>
      rw [show Session.countAt after number = Session.countAt before number from Adds.countAt h number]
      rfl
  | some entry =>
      obtain ⟨target, count⟩ := entry
      obtain ⟨between, old, new, hadds, hold, rfl, hcount, -⟩ := h
      rw [← hadds.countAt number]
      by_cases heq : target = number
      · subst heq
        have hlt : target < between.length := (List.getElem?_eq_some_iff.mp hold).1
        rw [countAt_of_getElem? hold, countAt_of_getElem? (List.getElem?_set_self hlt), hcount]
        simp [bookedOn]
      · have hsame : (between.set target new)[number]? = between[number]? :=
          List.getElem?_set_ne heq
        simp [Session.countAt, hsame, bookedOn, heq]

/-- All counts together go up by what is booked. -/
lemma Books.total (h : Books before after entry) :
    (after.map Cache.appliedCount).sum
      = (before.map Cache.appliedCount).sum + (entry.toList.map (·.2)).sum := by
  cases entry with
  | none => exact Adds.total h
  | some entry =>
      obtain ⟨target, count⟩ := entry
      obtain ⟨between, old, new, hadds, hold, rfl, hcount, -⟩ := h
      rw [sum_map_set Cache.appliedCount hold hcount, hadds.total]
      simp

/-- A cache on which nothing is booked is left as it is. -/
lemma Books.getElem?_other (h : Books before after entry) {number : Nat} {cache : Cache}
    (hcache : before[number]? = some cache) (hother : number ∉ entry.toList.map (·.1)) :
    after[number]? = some cache := by
  cases entry with
  | none => exact Adds.getElem? h hcache
  | some entry =>
      obtain ⟨target, count⟩ := entry
      obtain ⟨between, old, new, hadds, -, rfl, -, -⟩ := h
      have hne : target ≠ number := fun heq => hother (by simp [heq])
      rw [List.getElem?_set_ne hne]
      exact hadds.getElem? hcache

/-- A cache stays, under its number, and none of its counts goes down. -/
lemma Books.grown (h : Books before after entry) {number : Nat} {cache : Cache}
    (hcache : before[number]? = some cache) :
    ∃ later, after[number]? = some later ∧ cache.Grown later := by
  by_cases hother : number ∈ entry.toList.map (·.1)
  · cases entry with
    | none => simp at hother
    | some entry =>
        obtain ⟨target, count⟩ := entry
        obtain ⟨between, old, new, hadds, hold, rfl, -, hgrown⟩ := h
        have heq : number = target := by simpa using hother
        subst heq
        have hsame : old = cache := Option.some.inj (hold.symm.trans (hadds.getElem? hcache))
        have hlt : number < between.length := (List.getElem?_eq_some_iff.mp hold).1
        exact ⟨new, List.getElem?_set_self hlt, hsame ▸ hgrown⟩
  · exact ⟨cache, h.getElem?_other hcache hother, .refl cache⟩

/-- Only a cache that is there is worked on. -/
lemma Books.lt (h : Books before after entry) {number : Nat} (hmem : number ∈ entry.toList.map (·.1)) :
    number < after.length := by
  cases entry with
  | none => simp at hmem
  | some entry =>
      obtain ⟨target, count⟩ := entry
      obtain ⟨between, old, new, -, hold, rfl, -, -⟩ := h
      have heq : number = target := by simpa using hmem
      rw [heq, List.length_set]
      exact (List.getElem?_eq_some_iff.mp hold).1

end

/-! ## What the actions do to caches -/

lemma contextCache_adds (spot : Spot) (engine : Engine) (session : Session) :
    Adds session.pool.caches (exec (contextCache spot engine) session).2.pool.caches := by
  rw [exec_contextCache]
  cases registryOf session spot with
  | error fault => exact .refl _
  | ok registry =>
      obtain ⟨-, -, -, hcases⟩ := Pool.lookup_spec session.pool ⟨spot.thread, registry⟩ engine
      rw [holding_pool]
      rcases hcases with ⟨hcaches, -⟩ | ⟨-, hcaches, -⟩
      · exact ⟨[], by simp, by simp [hcaches]⟩
      · exact ⟨_, by simpa using Cache.appliedCount_ofStore engine.store spot.thread, hcaches⟩

/-- An action that is followed only by what leaves the caches alone does to them what it does on its
own. -/
lemma exec_bind_pool {α β : Type} {action : Action α} {further : α → Action β}
    (h : ∀ a after, (exec (further a) after).2.pool = after.pool) (session : Session) :
    (exec (action >>= further) session).2.pool = (exec action session).2.pool :=
  exec_bind_part Session.pool h session

lemma shown_pool (number : Nat) (session : Session) :
    (exec (shown number) session).2.pool = session.pool := by
  rw [shown, exec_bind, exec_get]
  cases hcache : session.pool.caches[number]? <;> simp only [hcache, exec_pure]

lemma cacheNumber_adds (spot : Spot) (cache : CacheName) (session : Session) :
    Adds session.pool.caches (exec (cacheNumber spot cache) session).2.pool.caches := by
  cases cache with
  | kept name =>
      show Adds _ (exec (named session.kept name) session).2.pool.caches
      rw [exec_named_state]
      exact .refl _
  | ofEngine name =>
      rw [cacheNumber, exec_bind, exec_engineNamed, exec_named]
      cases session.engines.lookup name with
      | none => exact .refl _
      | some engine => exact contextCache_adds spot engine session

lemma selected_adds (spot : Spot) (engine : Engine) (cache : Option String) (session : Session) :
    Adds session.pool.caches (exec (selected spot engine cache) session).2.pool.caches := by
  cases cache with
  | some name =>
      rw [selected, exec_bind, exec_cacheNamed, exec_named]
      cases session.kept.lookup name <;> exact .refl _
  | none =>
      rw [selected]
      by_cases hempty : engine.store.isEmpty
      · rw [if_pos hempty]
        exact .refl _
      · rw [if_neg hempty, exec_bind]
        have hadds := contextCache_adds spot engine session
        rcases hexec : exec (contextCache spot engine) session with ⟨fault | number, after⟩
        · rw [hexec] at hadds
          exact hadds
        · rw [hexec] at hadds
          exact hadds

/-- A redaction selects its cache first, and then works on that. -/
lemma redact_eq_selected (spot : Spot) (engine : Engine) (message : String) (cache : Option String) :
    redact spot engine message cache
      = selected spot engine cache >>= fun
        | none => pure message
        | some number => redactWith engine number message := by
  cases cache with
  | some name => rw [redact, selected, bind_assoc]; rfl
  | none =>
      rw [redact, selected]
      by_cases hempty : engine.store.isEmpty
      · rw [if_pos hempty, if_pos hempty]; rfl
      · rw [if_neg hempty, if_neg hempty, bind_assoc]; rfl

/-- Redaction with a cache applies rules as the trace of the message says. -/
lemma redactWith_books (engine : Engine) (number : Nat) (message : String) {caches : List Cache}
    (session : Session) (hadds : Adds caches session.pool.caches) :
    Books caches (exec (redactWith engine number message) session).2.pool.caches
      ((session.pool.caches[number]?).map fun cache =>
        (number, applications engine cache message)) := by
  show Books caches (session.pool.redactWith engine number message).2.caches _
  rw [Pool.redactWith]
  cases hold : session.pool.caches[number]? with
  | none => exact hadds
  | some old =>
      refine ⟨_, old, (engine.redact old message).2, hadds, hold, rfl, ?_, ?_⟩
      · rw [Engine.redact, applications]
        by_cases hempty : engine.store.isEmpty
        · simp [hempty]
        · simp only [hempty, Bool.false_eq_true, if_false]
          exact old.redact_appliedCount message
      · rw [Engine.redact]
        split
        · exact .refl old
        · exact old.redact_grown message

/-- Each call to replace all matches is counted, and no other call is. -/
lemma runCalls_matchCount (handle : Handle) (calls : List Call) :
    (runCalls handle calls).2.matchCount = handle.matchCount + calls.count .replaceAll := by
  induction calls generalizing handle with
  | nil => rfl
  | cons call rest ih =>
      cases call with
      | reset text => exact (ih (handle.reset text)).trans (by simp [Handle.reset])
      | find => exact (ih handle.find.2).trans (by simp [Handle.find])
      | replaceAll =>
          have hone : handle.replaceAll.2.matchCount = handle.matchCount + 1 := rfl
          refine (ih handle.replaceAll.2).trans ?_
          rw [hone, List.count_cons_self]
          omega

/-- Writing back what is there changes nothing. -/
lemma set_of_getElem? {α : Type} {items : List α} {index : Nat} {item : α}
    (h : items[index]? = some item) : items = items.set index item := by
  obtain ⟨hlt, rfl⟩ := List.getElem?_eq_some_iff.mp h
  exact (List.set_getElem_self hlt).symm

lemma callHandle_books (number : Nat) (index : Int) (calls : List Call) {caches : List Cache}
    (session : Session) (hadds : Adds caches session.pool.caches) :
    Books caches (exec (callHandle number index calls) session).2.pool.caches
      ((session.pool.caches[number]?).map fun cache => (number, replacements cache index calls)) := by
  rw [callHandle, exec_bind, exec_get]
  cases hold : session.pool.caches[number]? with
  | none =>
      simp only [hold, exec_throw]
      exact hadds
  | some old =>
      cases hhandle : handleAt? old index with
      | none =>
          have hlookup := hhandle
          rw [handleAt?] at hlookup
          simp only [hold, hlookup]
          exact ⟨_, old, old, hadds, hold, set_of_getElem? hold, by
            simp [replacements, hhandle], .refl old⟩
      | some found =>
          obtain ⟨place, handle⟩ := found
          have hlookup := hhandle
          rw [handleAt?] at hlookup
          have hat : old.handles[place]? = some handle := by
            obtain ⟨place', -, hmap⟩ := Option.bind_eq_some_iff.mp hlookup
            obtain ⟨handle', hhandle', heq⟩ := Option.map_eq_some_iff.mp hmap
            cases heq
            exact hhandle'
          simp only [hold, hlookup]
          rw [exec_bind, exec_set]
          refine ⟨_, old, old.setHandle place (runCalls handle calls).2, hadds, hold, rfl, ?_, ?_⟩
          · rw [Cache.setHandle_appliedCount hat (runCalls_matchCount handle calls)]
            simp [replacements, hhandle]
          · refine Cache.setHandle_grown hat ?_
            rw [Handle.Grown, runCalls_matchCount]
            exact Nat.le_add_right _ _

/-! ## Steps and runs -/

/-- **One step** does to the caches what is booked, wherever it runs and whether or not it fails. -/
theorem next_books (session : Session) (spot : Spot) (action : Step) :
    Books session.pool.caches (session.next spot action).2.pool.caches
      (session.booked spot action) := by
  show Books _ (exec (step spot action) session).2.pool.caches _
  cases action with
  | addEngine name store => exact Adds.refl _
  | shareStore name other =>
      rw [step, exec_bind, exec_engineNamed, exec_named]
      cases session.engines.lookup other <;> exact Adds.refl _
  | dropEngine name => exact Adds.refl _
  | newCache name engine =>
      rw [step, exec_bind, exec_engineNamed, exec_named]
      cases session.engines.lookup engine with
      | none => exact Adds.refl _
      | some engine =>
          have hfresh := Cache.appliedCount_ofStore engine.store spot.thread
          show Adds _ (exec (keep name _ >>= fun _ => shown _) _).2.pool.caches
          rw [exec_bind_pool fun _ _ => shown_pool _ _]
          exact ⟨[.ofStore engine.store spot.thread], by simpa using hfresh, rfl⟩
  | keepCache name engine =>
      rw [step, exec_bind, exec_engineNamed, exec_named]
      cases session.engines.lookup engine with
      | none => exact Adds.refl _
      | some engine =>
          show Adds _ (exec (contextCache spot engine >>= fun _ => keep name _ >>= fun _ => shown _)
            session).2.pool.caches
          rw [exec_bind_pool fun number after =>
            (exec_bind_pool (fun _ _ => shown_pool number _) after).trans rfl]
          exact contextCache_adds spot engine session
  | same first second =>
      rw [step, exec_bind, exec_cacheNamed, exec_named]
      cases session.kept.lookup first with
      | none => exact Adds.refl _
      | some number =>
          show Adds _ (exec (cacheNamed second >>= fun _ => pure _) session).2.pool.caches
          rw [exec_bind_pool fun _ _ => rfl, exec_cacheNamed, exec_named_state]
          exact .refl _
  | redact engine message cache =>
      rw [step, booked, booking, exec_bind, exec_bind, exec_engineNamed, exec_named]
      cases session.engines.lookup engine with
      | none => exact Adds.refl _
      | some engine =>
          simp only
          rw [exec_bind_pool fun _ _ => rfl, redact_eq_selected, exec_bind, exec_bind]
          have hadds := selected_adds spot engine cache session
          rcases hselected : exec (selected spot engine cache) session with ⟨fault | _ | number, after⟩
          · rw [hselected] at hadds
            exact hadds
          · rw [hselected] at hadds
            exact hadds
          · rw [hselected] at hadds
            exact redactWith_books engine number message after hadds
  | look cache =>
      show Adds _ (exec (cacheNumber spot cache >>= shown) session).2.pool.caches
      rw [exec_bind_pool shown_pool]
      exact cacheNumber_adds spot cache session
  | callHandle cache index calls =>
      rw [step, booked, booking, exec_bind, exec_bind]
      have hadds := cacheNumber_adds spot cache session
      rcases hnumber : exec (cacheNumber spot cache) session with ⟨fault | number, after⟩
      · rw [hnumber] at hadds
        exact hadds
      · rw [hnumber] at hadds
        exact callHandle_books number index calls after hadds
  | addContext name origin =>
      show Adds _ (exec (registryFrom spot origin >>= fun registry => _) session).2.pool.caches
      rw [exec_bind_pool fun _ _ => rfl]
      cases origin with
      | nothing => exact .refl _
      | current =>
          rw [registryFrom, exec_registryAt]
          exact .refl _
      | context other =>
          show Adds _ (exec (named session.contexts other) session).2.pool.caches
          rw [exec_named_state]
          exact .refl _

lemma bookings_append (session : Session) (first second : List (Spot × Step)) :
    session.bookings (first ++ second)
      = session.bookings first ++ (session.run first).2.bookings second := by
  induction first generalizing session with
  | nil => rfl
  | cons step rest ih =>
      rw [List.cons_append, bookings, bookings, ih, List.append_assoc]
      rfl

/-- **Any run**, by induction on the steps: each count goes up by all that is booked on the cache, and so
do all counts together. -/
theorem run_counts (session : Session) (steps : List (Spot × Step)) :
    (∀ number, countAt (session.run steps).2.pool.caches number
        = countAt session.pool.caches number + bookedOn number (session.bookings steps))
      ∧ ((session.run steps).2.pool.caches.map Cache.appliedCount).sum
        = (session.pool.caches.map Cache.appliedCount).sum
          + ((session.bookings steps).map (·.2)).sum := by
  induction steps generalizing session with
  | nil => exact ⟨fun _ => rfl, rfl⟩
  | cons first rest ih =>
      obtain ⟨spot, action⟩ := first
      have hfirst := session.next_books spot action
      obtain ⟨hcounts, htotal⟩ := ih (session.next spot action).2
      rw [bookings]
      refine ⟨fun number => ?_, ?_⟩
      · rw [bookedOn_append, ← Nat.add_assoc, ← hfirst.countAt number]
        exact hcounts number
      · rw [List.map_append, List.sum_append, ← Nat.add_assoc, ← hfirst.total]
        exact htotal

/-- A cache stays in a run, with counts that do not go down; and if nothing is booked on it, it stays as
it is. -/
lemma run_grown {session : Session} {number : Nat} {cache : Cache}
    (hcache : session.pool.caches[number]? = some cache) (steps : List (Spot × Step)) :
    ∃ later, (session.run steps).2.pool.caches[number]? = some later ∧ cache.Grown later
      ∧ (number ∉ (session.bookings steps).map (·.1) → later = cache) := by
  induction steps generalizing session cache with
  | nil => exact ⟨cache, hcache, .refl cache, fun _ => rfl⟩
  | cons first rest ih =>
      obtain ⟨spot, action⟩ := first
      have hfirst := session.next_books spot action
      obtain ⟨middle, hmiddle, hgrown⟩ := hfirst.grown hcache
      obtain ⟨later, hlater, hgrown', hsame⟩ := ih hmiddle
      refine ⟨later, hlater, hgrown.trans hgrown', fun hother => ?_⟩
      rw [bookings, List.map_append, List.mem_append, not_or] at hother
      rw [hsame hother.2]
      exact Option.some.inj (hmiddle.symm.trans (hfirst.getElem?_other hcache hother.1))

/-- Nothing is booked on a cache before it is made. -/
lemma lt_of_mem_bookings {session : Session} {steps : List (Spot × Step)} {number : Nat}
    (h : number ∈ (session.bookings steps).map (·.1)) :
    number < (session.run steps).2.pool.caches.length := by
  induction steps generalizing session with
  | nil => simp [bookings] at h
  | cons first rest ih =>
      obtain ⟨spot, action⟩ := first
      rw [bookings, List.map_append, List.mem_append] at h
      rcases h with hfirst | hrest
      · have hlt := (session.next_books spot action).lt hfirst
        obtain ⟨later, hlater, -⟩ := run_grown (List.getElem?_eq_getElem hlt) rest
        exact (List.getElem?_eq_some_iff.mp hlater).1
      · exact ih hrest

/-! ## The result -/

/-- **Counts account for what was booked.**  After any steps, the count of a cache is what the steps booked
on it, all of it since the cache was made, and all counts together are all that was booked.  Whatever is
done then, the cache stays, no count of its handles goes down, and steps that book nothing on it leave it
as it is. -/
theorem appliedCount_eq_bookedOn (steps : List (Spot × Step)) (number : Nat) (cache : Cache)
    (hcache : (run {} steps).2.pool.caches[number]? = some cache) :
    cache.appliedCount = bookedOn number (bookings {} steps)
      ∧ (∀ before after, steps = before ++ after → (run {} before).2.pool.caches.length ≤ number →
          cache.appliedCount = bookedOn number (bookings (run {} before).2 after))
      ∧ ((run {} steps).2.pool.caches.map Cache.appliedCount).sum
        = ((bookings {} steps).map (·.2)).sum
      ∧ ∀ further, ∃ later, ((run {} steps).2.run further).2.pool.caches[number]? = some later
          ∧ cache.Grown later
          ∧ later.appliedCount
            = cache.appliedCount + bookedOn number ((run {} steps).2.bookings further)
          ∧ (number ∉ ((run {} steps).2.bookings further).map (·.1) → later = cache) := by
  have hcount : cache.appliedCount = bookedOn number (bookings {} steps) := by
    have hrun := (run_counts {} steps).1 number
    rw [countAt_of_getElem? hcache] at hrun
    exact hrun.trans (Nat.zero_add _)
  refine ⟨hcount, ?_, ((run_counts {} steps).2).trans (Nat.zero_add _), fun further => ?_⟩
  · rintro before after rfl hlength
    have hnone : number ∉ (bookings {} before).map (·.1) := fun hmem =>
      absurd (lt_of_mem_bookings hmem) (by omega)
    rw [hcount, bookings_append, bookedOn_append, bookedOn_eq_zero hnone, Nat.zero_add]
  · obtain ⟨later, hlater, hgrown, hsame⟩ := run_grown hcache further
    refine ⟨later, hlater, hgrown, ?_, hsame⟩
    have hrun := (run_counts (run {} steps).2 further).1 number
    rwa [countAt_of_getElem? hcache, countAt_of_getElem? hlater] at hrun

/-- An engine with two rules, of which the second applies to what the first makes.  It redacts with a cache
of its own name, in the main thread's context, and in that of another thread; and the second handle of
the named cache is called directly, on a text in which its rule finds nothing. -/
def countedSteps : List (Spot × Step) :=
  [({}, .addEngine "rules" (.ofRules [.ofChar "" 'a' "b", .ofChar "" 'b' "c"])),
    ({}, .newCache "own" "rules"), ({}, .redact "rules" "aab" (some "own")),
    ({}, .redact "rules" "ab" none), ({ thread := "worker" }, .redact "rules" "b" none),
    ({}, .callHandle (.kept "own") 1 [.reset "x", .replaceAll, .find])]

/-- The named cache has counted the redaction that it was named in and the call, and a redaction in the
context leaves it as it is. -/
theorem appliedCount_countedSteps :
    bookings {} countedSteps = [(0, 2), (1, 2), (2, 1), (0, 1)]
      ∧ ∃ cache, (run {} countedSteps).2.pool.caches[0]? = some cache
        ∧ cache.appliedCount = 3
        ∧ ((run {} countedSteps).2.run [({}, .redact "rules" "a" none)]).2.pool.caches[0]?
          = some cache := by
  have hsome : ((run {} countedSteps).2.pool.caches[0]?).isSome := by decide +kernel
  obtain ⟨cache, hcache⟩ := Option.isSome_iff_exists.mp hsome
  obtain ⟨hcount, -, -, hlater⟩ := appliedCount_eq_bookedOn countedSteps 0 cache hcache
  have hthree : bookedOn 0 (bookings {} countedSteps) = 3 := by decide +kernel
  have hother : 0 ∉ ((run {} countedSteps).2.bookings [({}, .redact "rules" "a" none)]).map (·.1) := by
    decide +kernel
  obtain ⟨later, hat, -, -, hsame⟩ := hlater [({}, .redact "rules" "a" none)]
  exact ⟨by decide +kernel, cache, hcache, hcount.trans hthree, hsame hother ▸ hat⟩

end Redaction.Session
