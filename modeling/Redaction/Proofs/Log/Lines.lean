import Redaction.Proofs.Log.Feedback
import Redaction.Proofs.Record.StructuredLine

/-!
# What a log prints

A log that is set up prints a record with the message that its engine makes of the rendered one, and never
with the rendered one itself: the layout sees the record only after the filter.  It prints the same whatever
was handed to it before, even if that failed.

* `Layout.Shows` — a line shows a text as the message of a record.
* `Layout.shows_of_line` — a line shows the message of its record.
* `Redacts.prints_of_reaches`, `Redacts.prints_of_not_reaches` — what is printed of one record.
* **`handle_prints`** — any record, after any number of others.
-/

namespace Redaction

variable {layout : Layout} {record : Record} {time text line : String}

/-! ## Lines -/

/-- A line shows a text as the message of a record.  A structured line is read as an object with one member
that is named like the message and has the text; a plain line has the text after the name of the level, and
nothing but the report of an error after the text. -/
def Layout.Shows (layout : Layout) (time : String) (record : Record) (text line : String) : Prop :=
  match layout with
  | structured => ∃ members, Json.Reads line (.object members)
      ∧ members.filter (·.1 = "message") = [("message", .string text)]
  | plain => line = Record.withReport
      (time ++ " - " ++ record.logger ++ " - " ++ record.levelName ++ " - " ++ text) record.raised

/-- **A line shows the message** of its record. -/
lemma Layout.shows_of_line (h : layout.line time (record.withText text) = .ok line) :
    layout.Shows time record text line := by
  cases layout with
  | structured => exact Record.message_of_structured h (Record.render_withText record text)
  | plain =>
      rw [Layout.line, Record.plain, Record.lineText, Record.render_withText] at h
      exact (Except.ok.inj h).symm

/-- A line says of the message only how it is rendered. -/
lemma Layout.line_withText (h : record.render = .ok text) :
    layout.line time (record.withText text) = layout.line time record := by
  have htext : (record.withText text).lineText = record.lineText := by
    rw [Record.lineText, Record.lineText, Record.render_withText, h]
  cases layout with
  | structured =>
      rw [Layout.line, Layout.line, Record.structured, Record.structured, htext]
      rfl
  | plain =>
      rw [Layout.line, Layout.line, Record.plain, Record.plain, htext]
      rfl

namespace Logging

variable {state : Logging} {number : Int} {engine : Engine} {known : Engine → Prop} {bound room : Nat}

/-! ## One record -/

/-- The texts that are printed while a record is handed to a log. -/
def Prints (state : Logging) (time : String) (room : Nat) (record : Record) (texts : List String) : Prop :=
  (exec (handle time room record) state).2.printed = state.printed ++ texts

/-- A record that reaches the engine of a settled log is printed with the redacted message. -/
lemma Redacts.prints_of_reaches (h : state.Redacts number layout engine) (hsettled : state.Settled engine)
    (hserves : state.log.pool.Serves known bound) (hknown : known engine) (hpositive : 0 < record.level)
    (hlevel : number ≤ record.level) (hrender : record.render = .ok text) :
    state.Prints time (room + 2) record
        (printout (layout.line time (record.withText (engine.redacted text))))
      ∧ (exec (handle time (room + 2) record) state).2.log.pool.Serves known bound := by
  obtain ⟨hout, -, hstill⟩ := hserves.rewriteAt state.log.place hknown text
  rw [Prints, h.exec_handle_of_settled hsettled hpositive hlevel hrender, Log.run_rewrite]
  refine ⟨congrArg (state.printed ++ printout ·) ?_, hstill⟩
  rw [← hout]
  cases (state.log.pool.rewriteAt state.log.place engine text).1 with
  | none => exact (Layout.line_withText hrender).symm
  | some out => rfl

/-- Nothing is printed of any other record. -/
lemma Redacts.prints_of_not_reaches (h : state.Redacts number layout engine)
    (hreaches : ¬ record.Reaches number) : state.Prints time (room + 1) record [] := by
  rw [Prints, h.exec_handle_of_not_reaches hreaches, List.append_nil]

/-! ## Any number of records -/

/-- Whatever is handed to a settled log, its pool goes on serving the same engines. -/
lemma Redacts.serves_after (h : state.Redacts number layout engine) (hsettled : state.Settled engine)
    (hserves : state.log.pool.Serves known bound) (hknown : known engine) (room : Nat)
    (records : List (String × Record)) : (state.after (room + 2) records).log.pool.Serves known bound := by
  induction records generalizing state with
  | nil => exact hserves
  | cons first rest ih =>
      obtain ⟨time, record⟩ := first
      obtain ⟨after, hexec, hredacts, hafter⟩ := h.handle_of_settled hsettled time room record
      have hstill : (exec (handle time (room + 2) record) state).2.log.pool.Serves known bound := by
        by_cases hreaches : record.Reaches number
        · obtain ⟨hpositive, hlevel, text, hrender⟩ := hreaches
          exact (h.prints_of_reaches hsettled hserves hknown hpositive hlevel hrender).2
        · rw [h.exec_handle_of_not_reaches hreaches]
          exact hserves
      rw [after_cons]
      rw [hexec] at hstill ⊢
      exact ih hredacts hafter hstill

/-- **What a log prints** after any number of records were handed to it.  A record whose level is positive and
high enough, and whose message is rendered, is printed on one line, which shows what the engine makes of the
rendered message, provided that it is handled and that such a line can be written.  A record that does not
reach the engine prints nothing.  And whether a record is handled, and what is printed of it, is the same as
if nothing had been handed to the log before.

The log may have been in any state before it was set up, and other engines may have been at work, as long as
what is noted of their caches is right. -/
theorem handle_prints {name : String} (hname : levelOf name = .ok number) {setUpTime version : String}
    {structured : Bool} (hlayout : layout = if structured then .structured else .plain) (prior : Logging)
    {start : Logging} (hstart : start = prior.setUp setUpTime version name structured engine)
    (hserves : prior.log.pool.Serves known bound) (hknown : known engine) (room : Nat)
    (before : List (String × Record)) (time : String) (record : Record) :
    (∀ text line, 0 < record.level → number ≤ record.level → record.render = .ok text →
      (exec (handle time (room + 2) record) (start.after (room + 2) before)).1 = .ok () →
      layout.line time (record.withText (engine.redacted text)) = .ok line →
      (start.after (room + 2) before).Prints time (room + 2) record [line ++ "\n"]
        ∧ layout.Shows time record (engine.redacted text) line)
    ∧ (¬ record.Reaches number → (start.after (room + 2) before).Prints time (room + 2) record [])
    ∧ (exec (handle time (room + 2) record) (start.after (room + 2) before)).1
        = (exec (handle time (room + 2) record) start).1
    ∧ ∃ texts, start.Prints time (room + 2) record texts
        ∧ (start.after (room + 2) before).Prints time (room + 2) record texts := by
  have hredacts := redacts_setUp hname setUpTime version structured engine prior
  have hstarts : start.log.pool.Serves known bound := by
    rw [hstart, setUp, configure_of_levelOf hname]
    exact hserves
  rw [← hstart, ← hlayout] at hredacts
  by_cases hsettled : start.Settled engine
  · obtain ⟨hbefore, hstill⟩ := hredacts.after_of_settled hsettled room before
    have hafter := hredacts.serves_after hsettled hstarts hknown room before
    obtain ⟨_, hexec, -⟩ := hredacts.handle_of_settled hsettled time room record
    obtain ⟨_, hexec', -⟩ := hbefore.handle_of_settled hstill time room record
    refine ⟨fun text line hpositive hlevel hrender _ hline => ⟨?_, Layout.shows_of_line hline⟩,
      fun hreaches => hbefore.prints_of_not_reaches hreaches, by rw [hexec, hexec'], ?_⟩
    · have hprints : (start.after (room + 2) before).Prints time (room + 2) record
          (printout (layout.line time (record.withText (engine.redacted text)))) :=
        (hbefore.prints_of_reaches hstill hafter hknown hpositive hlevel hrender).1
      rwa [hline] at hprints
    · by_cases hreaches : record.Reaches number
      · obtain ⟨hpositive, hlevel, text, hrender⟩ := hreaches
        exact ⟨_, (hredacts.prints_of_reaches hsettled hstarts hknown hpositive hlevel hrender).1,
          (hbefore.prints_of_reaches hstill hafter hknown hpositive hlevel hrender).1⟩
      · exact ⟨[], hredacts.prints_of_not_reaches hreaches, hbefore.prints_of_not_reaches hreaches⟩
  · obtain ⟨hbefore, -⟩ := hredacts.after_of_not_settled hsettled (room + 2) before
    by_cases hreaches : record.Reaches number
    · -- the record overflows every room, before and after the others
      obtain ⟨after, hexec, hprinted⟩ := hredacts.overflows hsettled time (room + 2) [] hreaches
      obtain ⟨after', hexec', hprinted'⟩ := hredacts.overflows hsettled time (room + 2) before hreaches
      rw [after_nil] at hexec hprinted
      have hnothing : start.Prints time (room + 2) record [] := by
        rw [Prints, hexec, hprinted, List.append_nil]
      have hnothing' : (start.after (room + 2) before).Prints time (room + 2) record [] := by
        rw [Prints, hexec', hprinted', List.append_nil]
      refine ⟨fun _ _ _ _ _ hok => ?_, fun _ => hnothing', by rw [hexec, hexec'], [], hnothing, hnothing'⟩
      rw [hexec'] at hok
      cases hok
    · rw [hbefore.exec_handle_of_not_reaches hreaches, hredacts.exec_handle_of_not_reaches hreaches]
      exact ⟨fun text _ hpositive hlevel hrender => absurd ⟨hpositive, hlevel, text, hrender⟩ hreaches,
        fun _ => hbefore.prints_of_not_reaches hreaches, rfl, [], hredacts.prints_of_not_reaches hreaches,
        hbefore.prints_of_not_reaches hreaches⟩

/-- An engine that masks one letter. -/
def maskingEngine : Engine := ⟨0, .ofRules [.ofChar "" 'a' "b"]⟩

/-- A log at a level that lets no report through, with structured lines and this engine. -/
def maskingLog : Logging :=
  fresh.setUp "" "" "info" true maskingEngine

/-- The line for a greeting.  Only its message is masked. -/
def maskedLine : String :=
  "\x7b\"timestamp\": \"now\", \"level\": \"INFO\", \"logger\": \"app.db\", \"message\": \"bb, 50%\", "
    ++ "\"module\": \"db\", \"function\": null, \"line\": 7, \"user\": \"ab\"\x7d"

/-- The second greeting is printed like the first one. -/
theorem handle_prints_greeting :
    levelOf "info" = .ok 20
      ∧ (maskingLog.after 2 [("then", Log.greeting)]).Prints "now" 2 Log.greeting [maskedLine ++ "\n"]
      ∧ Layout.structured.Shows "now" Log.greeting "bb, 50%" maskedLine := by
  have hname : levelOf "info" = .ok 20 := by decide +kernel
  have hserves : Pool.Serves fresh.log.pool (· = maskingEngine) 1 :=
    .empty (fun h => h ▸ Nat.zero_lt_one) fun h h' _ => h.trans h'.symm
  have hredacted : maskingEngine.redacted "ab, 50%" = "bb, 50%" := by decide +kernel
  have hline : Layout.structured.line "now" (Log.greeting.withText "bb, 50%") = .ok maskedLine := by
    decide +kernel
  have hsettled : maskingLog.Settled maskingEngine :=
    (settled_setUp_iff hname "" "" true maskingEngine fresh).mpr (.inl (.inr (by decide)))
  have hok := (redacts_setUp hname "" "" true maskingEngine fresh).unfailing hsettled 0
    [("then", Log.greeting), ("now", Log.greeting)] [("then", Log.greeting)] "now" Log.greeting [] rfl
  have hlayout : Layout.structured = if true then .structured else .plain := rfl
  have hstart : maskingLog = fresh.setUp "" "" "info" true maskingEngine := rfl
  obtain ⟨hprints, -⟩ :=
    handle_prints hname hlayout fresh hstart hserves rfl 0 [("then", Log.greeting)] "now" Log.greeting
  have hprinted := hprints "ab, 50%" maskedLine (by decide) (by decide) (by decide) hok (hredacted ▸ hline)
  rw [hredacted, Nat.zero_add] at hprinted
  exact ⟨hname, hprinted⟩

end Logging
end Redaction
