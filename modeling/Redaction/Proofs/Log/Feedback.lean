import Redaction.Proofs.Log.Handling
import Redaction.Proofs.Policy.Outcome

/-!
# When redaction stops the log

A log that redacts what it prints makes a cache for the first record that gets as far as its engine.  The
report of that cache is a record too.  If the level of the log lets it through, it gets to the same engine
before the cache is noted, and the engine makes another cache, and reports it.  No room is large enough for
that, and as the cache is never noted, the next record fares no better.

* `Logging.setUp` — a log whose level and output are set and whose sink has the filter of an engine.
* `Record.Reaches` — a record gets as far as the engine.
* `exec_handle_of_not_reaches`, `exec_handle_of_settled`, `exec_handle_of_not_settled` — what handling does
  to a log that is set up: nothing, or a line, or an overflow.
* `Logging.Redacts` — what these steps preserve; `Redacts.after_of_settled` and `Redacts.after_of_not_settled`
  for any number of them.
* **`unfailing_iff`** — which logs handle which records.
-/

namespace Redaction

/-- A record gets as far as the engine of a log: its level is high enough, and its message can be rendered. -/
def Record.Reaches (record : Record) (level : Int) : Prop :=
  0 < record.level ∧ level ≤ record.level ∧ ∃ text, record.render = .ok text

namespace Logging

/-! ## A log that is set up -/

/-- The level of the log and its output are set, and the filter of an engine is added to the sink. -/
def setUp (time version level : String) (structured : Bool) (engine : Engine) (state : Logging) : Logging :=
  { state with log := ((state.log.configure time version level structured).2).addFilter "" engine }

/-- The log after records were handed to it, each at its time, whether or not there was room for it. -/
def after (room : Nat) (records : List (String × Record)) (state : Logging) : Logging :=
  records.foldl (fun state (time, record) => (exec (handle time room record) state).2) state

/-- Room is enough for a log to handle each of some records. -/
def Unfailing (room : Nat) (records : List (String × Record)) (state : Logging) : Prop :=
  ∀ before time record rest, records = before ++ (time, record) :: rest →
    (exec (handle time room record) (state.after room before)).1 = .ok ()

/-- A log has a level and one sink, with a layout and the filter of an engine. -/
structure Redacts (state : Logging) (number : Int) (layout : Layout) (engine : Engine) : Prop where
  level : state.log.level = number
  sinks : state.log.sinks = [⟨number, some layout, [("", engine)]⟩]

variable {state : Logging} {number : Int} {layout : Layout} {engine : Engine} {record : Record}
  {announce : Cache → Action Unit} {time text : String} {room : Nat}

/-- Writing to a sink without filters changes nothing. -/
lemma write_of_no_filters (time : String) (record : Record) {log : Log} {level : Int} {layout : Option Layout}
    (h : log.sinks = [⟨level, layout, []⟩]) : ((Log.write time record).run log).2 = log := by
  rw [Log.run_write, h]
  by_cases henabled : log.isEnabledFor record.level
  · rw [if_pos henabled, Log.emit]
    cases layout with
    | none => rfl
    | some layout =>
        by_cases hlevel : level ≤ record.level
        · simp only [hlevel, if_true]
          rfl
        · simp only [hlevel, if_false]
          rfl
  · rw [if_neg henabled]

lemma configure_of_levelOf {name : String} (h : levelOf name = .ok number) (time version : String)
    (structured : Bool) (log : Log) :
    (log.configure time version name structured).2
      = { log with level := number
                   sinks := [⟨number, some (if structured then .structured else .plain), []⟩] } := by
  rw [Log.configure, h]
  exact write_of_no_filters time (Log.announcement name version) rfl

lemma redacts_setUp {name : String} (h : levelOf name = .ok number) (time version : String)
    (structured : Bool) (engine : Engine) (state : Logging) :
    (state.setUp time version name structured engine).Redacts number
      (if structured then .structured else .plain) engine := by
  rw [setUp, configure_of_levelOf h]
  exact ⟨rfl, rfl⟩

/-! ## Filters and sinks -/

lemma exec_filterAll_single (h : record.render = .ok text) :
    exec (filterAll announce record [("", engine)]) state
      = match exec (rewrite announce engine text) state with
        | (.ok out, after) => (.ok (true, out.elim record record.withText), after)
        | (.error fault, after) => (.error fault, after) := by
  have hselected : record.isSelectedBy "" = true := Record.isSelectedBy_iff.mpr (.inl rfl)
  rw [filterAll, Record.filter, if_pos hselected, h, exec_bind, exec_bind]
  rcases exec (rewrite announce engine text) state with ⟨fault | _ | out, after⟩ <;> rfl

lemma exec_emit_single {level : Int} (hlevel : level ≤ record.level) (h : record.render = .ok text) :
    exec (emit announce time record [⟨level, some layout, [("", engine)]⟩]) state
      = match exec (rewrite announce engine text) state with
        | (.ok out, after) =>
          (.ok (), { after with
            printed := after.printed ++ printout (layout.line time (out.elim record record.withText)) })
        | (.error fault, after) => (.error fault, after) := by
  rw [emit]
  simp only [hlevel, if_true]
  rw [exec_bind, exec_filterAll_single h]
  rcases exec (rewrite announce engine text) state with ⟨fault | out, after⟩ <;> rfl

/-- A record that reaches the engine is redacted and printed, unless redaction fails. -/
lemma Redacts.exec_handle (h : state.Redacts number layout engine) (hpositive : 0 < record.level)
    (hlevel : number ≤ record.level) (hrender : record.render = .ok text) :
    exec (handle time (room + 1) record) state
      = match exec (rewrite (announceTo (handle time room)) engine text) state with
        | (.ok out, after) =>
          (.ok (), { after with
            printed := after.printed ++ printout (layout.line time (out.elim record record.withText)) })
        | (.error fault, after) => (.error fault, after) := by
  have henabled : state.log.isEnabledFor record.level = true := by
    simp [Log.isEnabledFor, h.level, hpositive, hlevel]
  rw [handle, exec_bind_ok (exec_get state), if_pos henabled, h.sinks, exec_emit_single hlevel hrender]

/-! ## What becomes of a record -/

/-- A record that does not get as far as the engine prints nothing. -/
lemma Redacts.exec_handle_of_not_reaches (h : state.Redacts number layout engine)
    (hreaches : ¬ record.Reaches number) :
    exec (handle time (room + 1) record) state = (.ok (), state) := by
  rw [handle, exec_bind_ok (exec_get state)]
  by_cases henabled : state.log.isEnabledFor record.level
  · obtain ⟨hpositive, hlevel⟩ : 0 < record.level ∧ number ≤ record.level := by
      simpa [Log.isEnabledFor, h.level] using henabled
    rw [if_pos henabled, h.sinks]
    cases hrender : record.render with
    | ok text => exact absurd ⟨hpositive, hlevel, text, hrender⟩ hreaches
    | error fault =>
        have hline : layout.line time record = .error (.message fault) := by
          cases layout <;> simp [Layout.line, Record.structured, Record.plain, Record.lineText, hrender,
            Except.mapError, bind, Except.bind]
        have hselected : record.isSelectedBy "" = true := Record.isSelectedBy_iff.mpr (.inl rfl)
        have hfilter : exec (filterAll (announceTo (handle time room)) record [("", engine)]) state
            = (.ok (true, record), state) := by
          rw [filterAll, Record.filter, if_pos hselected, hrender]
          rfl
        rw [emit]
        simp only [hlevel, if_true]
        rw [exec_bind_ok hfilter, hline]
        simp [printout, emit, exec_print]
  · rw [if_neg henabled]
    rfl

/-- **In a settled log** a record that reaches the engine prints a line, if it can be written. -/
lemma Redacts.exec_handle_of_settled (h : state.Redacts number layout engine) (hsettled : state.Settled engine)
    (hpositive : 0 < record.level) (hlevel : number ≤ record.level) (hrender : record.render = .ok text) :
    exec (handle time (room + 2) record) state
      = (.ok (), { state with
          log := ((Log.rewrite engine text).run state.log).2
          printed := state.printed ++ printout (layout.line time
            (((Log.rewrite engine text).run state.log).1.elim record record.withText)) }) := by
  rw [h.exec_handle hpositive hlevel hrender, exec_rewrite hsettled]

lemma rewriteWith_registries (pool : Pool) (engine : Engine) (number : Nat) (text : String) :
    (pool.rewriteWith engine number text).2.registries = pool.registries := by
  rw [Pool.rewriteWith]
  cases pool.caches[number]? <;> rfl

/-- A log that is settled stays so: the cache that was at hand still is. -/
lemma Settled.rewrite (h : state.Settled engine) (text : String) (printed : List String) :
    Settled { state with log := ((Log.rewrite engine text).run state.log).2, printed } engine := by
  rcases h with hquiet | hempty | hat
  · exact .inl hquiet
  · exact .inr (.inl hempty)
  · by_cases hempty : engine.store.isEmpty
    · exact .inr (.inl hempty)
    · refine .inr (.inr ?_)
      rw [Log.run_rewrite, Pool.rewriteAt]
      simp only [hempty, if_false, Bool.false_eq_true]
      obtain ⟨number, hcache⟩ := hat
      have hlookup : state.log.pool.lookup state.log.place engine
          = ⟨number, (state.log.pool.registryAt state.log.place).1, false,
            (state.log.pool.registryAt state.log.place).2⟩ := by
        simp [Pool.lookup, hcache]
      rw [hlookup]
      exact (Pool.atHand_registryAt _ _ (rewriteWith_registries _ _ _ _)).mpr ⟨number, hcache⟩

/-- The report of a cache reaches the engine in a log whose level lets it through. -/
lemma reaches_report (cache : Cache) (h : number ≤ Severity.debug.level) :
    cache.report.Reaches number :=
  ⟨(by decide : 0 < Severity.debug.level), h, _, rfl⟩

/-- **In a log that is not settled** a record that reaches the engine overflows any room.  Nothing is
printed, and the log is as little settled as before. -/
lemma Redacts.exec_handle_of_not_settled (h : state.Redacts number layout engine)
    (hsettled : ¬ state.Settled engine) (hreaches : record.Reaches number) (room : Nat) :
    ∃ after, exec (handle time room record) state = (.error ⟨⟩, after) ∧ after.Redacts number layout engine
      ∧ ¬ after.Settled engine ∧ after.printed = state.printed := by
  induction room generalizing state record with
  | zero => exact ⟨state, rfl, h, hsettled, rfl⟩
  | succ room ih =>
      obtain ⟨hpositive, hlevel, text, hrender⟩ := hreaches
      have hmade : ¬ (state.withMade engine).Settled engine := mt settled_withMade_iff.mp hsettled
      simp only [Settled, Quiet, not_or, Bool.not_eq_false, Int.not_lt] at hsettled
      obtain ⟨⟨hpropagates, hdebug⟩, hempty, hfresh⟩ := hsettled
      have hcache : (state.log.pool.registryAt state.log.place).2.cacheIn?
          (state.log.pool.registryAt state.log.place).1 engine.identity = none := by
        rwa [Pool.AtHand, ← Option.isSome_iff_exists, Option.not_isSome_iff_eq_none] at hfresh
      -- the report meets a log in which the cache is made, but not noted
      have hredacts : (state.withMade engine).Redacts number layout engine := ⟨h.level, h.sinks⟩
      obtain ⟨after, hexec, hafter, hopen, hprinted⟩ :=
        ih hredacts hmade (reaches_report (Cache.ofStore engine.store state.log.place.thread) (h.level ▸ hdebug))
      have hannounce : exec (announceTo (handle time room)
          (Cache.ofStore engine.store state.log.place.thread)) (state.withMade engine) = (.error ⟨⟩, after) := by
        rw [announceTo, exec_bind_ok (exec_get _), if_pos (by simpa [withMade] using hpropagates)]
        exact hexec
      refine ⟨after, ?_, hafter, hopen, hprinted⟩
      rw [h.exec_handle hpositive hlevel hrender, rewrite, if_neg hempty, exec_bind,
        exec_contextCache_of_none hcache, hannounce]

/-! ## Any number of records -/

@[simp] lemma after_nil (state : Logging) : state.after room [] = state := rfl

@[simp] lemma after_cons (time : String) (record : Record) (rest : List (String × Record)) (state : Logging) :
    state.after room ((time, record) :: rest) = ((exec (handle time room record) state).2).after room rest := rfl

/-- A settled log handles every record, and is settled afterwards. -/
lemma Redacts.handle_of_settled (h : state.Redacts number layout engine) (hsettled : state.Settled engine)
    (time : String) (room : Nat) (record : Record) :
    ∃ after, exec (handle time (room + 2) record) state = (.ok (), after)
      ∧ after.Redacts number layout engine ∧ after.Settled engine := by
  by_cases hreaches : record.Reaches number
  · obtain ⟨hpositive, hlevel, text, hrender⟩ := hreaches
    exact ⟨_, h.exec_handle_of_settled hsettled hpositive hlevel hrender, ⟨h.level, h.sinks⟩,
      hsettled.rewrite text _⟩
  · exact ⟨state, h.exec_handle_of_not_reaches hreaches, h, hsettled⟩

/-- A log that is not settled does not become so, whatever is handed to it. -/
lemma Redacts.handle_of_not_settled (h : state.Redacts number layout engine)
    (hsettled : ¬ state.Settled engine) (time : String) (room : Nat) (record : Record) :
    (exec (handle time room record) state).2.Redacts number layout engine
      ∧ ¬ (exec (handle time room record) state).2.Settled engine := by
  by_cases hreaches : record.Reaches number
  · obtain ⟨after, hexec, hredacts, hopen, -⟩ := h.exec_handle_of_not_settled hsettled hreaches room
    rw [hexec]
    exact ⟨hredacts, hopen⟩
  · cases room with
    | zero => exact ⟨h, hsettled⟩
    | succ room =>
        rw [h.exec_handle_of_not_reaches hreaches]
        exact ⟨h, hsettled⟩

lemma Redacts.after_of_settled (h : state.Redacts number layout engine) (hsettled : state.Settled engine)
    (room : Nat) (records : List (String × Record)) :
    (state.after (room + 2) records).Redacts number layout engine
      ∧ (state.after (room + 2) records).Settled engine := by
  induction records generalizing state with
  | nil => exact ⟨h, hsettled⟩
  | cons first rest ih =>
      obtain ⟨time, record⟩ := first
      obtain ⟨after, hexec, hredacts, hafter⟩ := h.handle_of_settled hsettled time room record
      rw [after_cons, hexec]
      exact ih hredacts hafter

lemma Redacts.after_of_not_settled (h : state.Redacts number layout engine)
    (hsettled : ¬ state.Settled engine) (room : Nat) (records : List (String × Record)) :
    (state.after room records).Redacts number layout engine ∧ ¬ (state.after room records).Settled engine := by
  induction records generalizing state with
  | nil => exact ⟨h, hsettled⟩
  | cons first rest ih =>
      obtain ⟨time, record⟩ := first
      obtain ⟨hredacts, hopen⟩ := h.handle_of_not_settled hsettled time room record
      rw [after_cons]
      exact ih hredacts hopen

lemma Redacts.unfailing (h : state.Redacts number layout engine) (hsettled : state.Settled engine)
    (room : Nat) (records : List (String × Record)) : state.Unfailing (room + 2) records := by
  intro before time record rest _
  obtain ⟨hbefore, hstill⟩ := h.after_of_settled hsettled room before
  obtain ⟨after, hexec, -⟩ := hbefore.handle_of_settled hstill time room record
  rw [hexec]

/-- What was handed to a log that is not settled makes no room for the next record. -/
lemma Redacts.overflows (h : state.Redacts number layout engine) (hsettled : ¬ state.Settled engine)
    (time : String) (room : Nat) (before : List (String × Record)) (hreaches : record.Reaches number) :
    ∃ after, exec (handle time room record) (state.after room before) = (.error ⟨⟩, after)
      ∧ after.printed = (state.after room before).printed := by
  obtain ⟨hbefore, hstill⟩ := h.after_of_not_settled hsettled room before
  obtain ⟨after, hexec, -, -, hprinted⟩ := hbefore.exec_handle_of_not_settled hstill hreaches room
  exact ⟨after, hexec, hprinted⟩

/-! ## Which logs handle which records -/

/-- What is settled about a log when it is set up. -/
lemma settled_setUp_iff {name : String} (h : levelOf name = .ok number) (time version : String)
    (structured : Bool) (engine : Engine) (state : Logging) :
    (state.setUp time version name structured engine).Settled engine ↔
      (state.propagates = false ∨ Severity.debug.level < number) ∨ engine.store.isEmpty
        ∨ state.log.pool.AtHand state.log.place engine := by
  rw [setUp, configure_of_levelOf h]
  rfl

/-- **Which logs handle which records.**  A log that is set up is settled if the reports of the library do not
get to it, or its level keeps them out, or the engine has no rules or a cache that is at hand.  There is room
enough for some records if and only if the log is settled or none of them gets as far as the engine.  In a
settled log the room for a record and one report is enough.  In any other one a record that gets as far as the
engine overflows every room, whatever was handed to the log before, and nothing is printed of it. -/
theorem unfailing_iff {name : String} (hname : levelOf name = .ok number) {time version : String}
    {structured : Bool} {engine : Engine} (prior : Logging) {start : Logging}
    (hstart : start = prior.setUp time version name structured engine) (records : List (String × Record)) :
    (start.Settled engine ↔
      (prior.propagates = false ∨ Severity.debug.level < number) ∨ engine.store.isEmpty
        ∨ prior.log.pool.AtHand prior.log.place engine)
    ∧ ((∃ room, start.Unfailing room records) ↔
      start.Settled engine ∨ ∀ entry ∈ records, ¬ entry.2.Reaches number)
    ∧ (start.Settled engine → ∀ room, start.Unfailing (room + 2) records)
    ∧ (¬ start.Settled engine → ∀ room before time record, record.Reaches number →
      ∃ after, exec (handle time room record) (start.after room before) = (.error ⟨⟩, after)
        ∧ after.printed = (start.after room before).printed) := by
  have hredacts := redacts_setUp hname time version structured engine prior
  rw [← hstart] at hredacts
  refine ⟨hstart ▸ settled_setUp_iff hname time version structured engine prior, ⟨?_, ?_⟩,
    fun hsettled room => hredacts.unfailing hsettled room records,
    fun hopen room before time _ hreaches => hredacts.overflows hopen time room before hreaches⟩
  · rintro ⟨room, hroom⟩
    by_contra hneither
    push Not at hneither
    obtain ⟨hopen, ⟨time, record⟩, hmem, hreaches⟩ := hneither
    obtain ⟨before, rest, hsplit⟩ := List.append_of_mem hmem
    obtain ⟨after, hexec, -⟩ := hredacts.overflows hopen time room before hreaches
    have hok := hroom before time record rest hsplit
    rw [hexec] at hok
    cases hok
  · intro hcases
    by_cases hsettled : start.Settled engine
    · exact ⟨2, hredacts.unfailing hsettled 0 records⟩
    · refine ⟨1, fun before time record rest hsplit => ?_⟩
      have hrecord : ¬ record.Reaches number :=
        hcases.resolve_left hsettled (time, record) (hsplit ▸ List.mem_append_right _ List.mem_cons_self)
      obtain ⟨hbefore, -⟩ := hredacts.after_of_not_settled hsettled 1 before
      rw [hbefore.exec_handle_of_not_reaches hrecord]

/-- A log that nothing was done with. -/
def fresh : Logging where
  log := { level := 30, sinks := [] }

/-- A greeting reaches the engine of a log whose level it has. -/
lemma reaches_greeting (h : number ≤ 20) : Log.greeting.Reaches number :=
  ⟨by decide, h, "ab, 50%", by decide⟩

/-- A log that lets no report through handles a record.  One that does overflows. -/
theorem unfailing_info_not_debug :
    levelOf "info" = .ok 20 ∧ levelOf "debug" = .ok 10
      ∧ (fresh.setUp "" "" "info" true ⟨0, .ofRules [.ofChar "" 'a' "b"]⟩).Unfailing 2 [("", Log.greeting)]
      ∧ ¬ ∃ room, (fresh.setUp "" "" "debug" true ⟨0, .ofRules [.ofChar "" 'a' "b"]⟩).Unfailing room
        [("", Log.greeting)] := by
  have hinfo : levelOf "info" = .ok 20 := by decide +kernel
  have hdebug : levelOf "debug" = .ok 10 := by decide +kernel
  refine ⟨hinfo, hdebug, ?_, ?_⟩
  · obtain ⟨hsettled, -, hroom, -⟩ := unfailing_iff hinfo fresh rfl [("", Log.greeting)]
    exact hroom (hsettled.mpr (.inl (.inr (by decide)))) 0
  · obtain ⟨hsettled, hiff, -, -⟩ := unfailing_iff hdebug fresh rfl [("", Log.greeting)]
    rw [hiff, hsettled]
    rintro (hcalm | hnone)
    · revert hcalm
      decide
    · exact hnone _ List.mem_cons_self (reaches_greeting (by decide))

/-- A policy with one rule. -/
def maskingPolicy : String :=
  "\x7b\"version\": 1, \"rules\": [\x7b\"search\": \"a\", \"replace\": \"b\"\x7d]\x7d"

/-- Under a policy with one rule the first record that is printed at the lowest level overflows every room, so
not every log can handle all records. -/
theorem not_unfailing_notset :
    (∃ store, Policy.outcome .standard (.text maskingPolicy) none = .ok store
      ∧ ∀ room, (exec (handle "" room Log.greeting) (fresh.setUp "" "" "NOTSET" false ⟨0, store⟩)).1
        = .error ⟨⟩)
    ∧ ¬ ∀ name number data source store, levelOf name = .ok number →
        Policy.outcome .standard data source = .ok store →
        ∀ identity structured (prior : Logging) records, ∃ room,
          (prior.setUp "" "" name structured ⟨identity, store⟩).Unfailing room records := by
  have hname : levelOf "NOTSET" = .ok 0 := by decide +kernel
  obtain ⟨store, hstore, hrules⟩ : ∃ store, Policy.outcome .standard (.text maskingPolicy) none = .ok store
      ∧ store.isEmpty = false := by
    have hdecides : (Policy.outcome .standard (.text maskingPolicy) none).toOption.map (·.isEmpty)
        = some false := by decide +kernel
    exact exists_of_toOption_map hdecides
  have hoverflows : ∀ room,
      (exec (handle "" room Log.greeting) (fresh.setUp "" "" "NOTSET" false ⟨0, store⟩)).1 = .error ⟨⟩ := by
    intro room
    have hopen : ¬ (fresh.setUp "" "" "NOTSET" false ⟨0, store⟩).Settled ⟨0, store⟩ := by
      rw [settled_setUp_iff hname]
      rintro (hquiet | hempty | hat)
      · revert hquiet
        decide
      · exact absurd hempty (by simp [hrules])
      · obtain ⟨number, hcache⟩ := hat
        cases hcache
    obtain ⟨after, hexec, -⟩ := (redacts_setUp hname "" "" false ⟨0, store⟩ fresh).overflows hopen "" room []
      (reaches_greeting (by decide))
    exact congrArg Prod.fst hexec
  refine ⟨⟨store, hstore, hoverflows⟩, fun hall => ?_⟩
  obtain ⟨room, hroom⟩ := hall "NOTSET" 0 _ none store hname hstore 0 false fresh [("", Log.greeting)]
  have hok := hroom [] "" Log.greeting [] rfl
  rw [after_nil, hoverflows room] at hok
  cases hok

end Logging
end Redaction
