import Redaction.Log
import Redaction.Proofs.Engine.ContextRedaction

/-!
# Records that pass through filters

A record is a template with arguments until a filter rewrites its message; from then on it is a text that
is complete.  Which of the two a later filter, or whoever prints the record, finds depends on whether any
rule before it has applied.  The message must not depend on that.

* `Record.Becomes` — the two things that may have happened to a record: it was left alone and still reads
  as it did, or its message is a text and there are no arguments.
* `Covers` — when the name of a filter is meant for a logger.
* `Log.filter_becomes` — one filter.
* **`Log.filterAll_redacts`** — any list of filters: the message of the last record is the rendered message
  passed through the engines of just those filters whose name covers the logger.  What stands in it is never
  taken for a template again, and nothing but the message and its arguments changes.
-/

namespace Redaction

/-- The name of a filter is meant for a logger: it is empty, or the logger's own name, or that of a logger
above it. -/
def Covers (name logger : String) : Prop :=
  name = "" ∨ logger = name ∨ (name ++ ".").toList <+: logger.toList

instance (name logger : String) : Decidable (Covers name logger) :=
  inferInstanceAs (Decidable (_ ∨ _ ∨ _))

namespace Record

lemma isSelectedBy_iff {record : Record} {name : String} :
    record.isSelectedBy name = true ↔ Covers name record.logger := by
  have hdotted : (name ++ ".").toList = name.toList ++ ['.'] := String.toList_append
  rw [isSelectedBy, Covers, hdotted]
  simp only [Bool.or_eq_true, String.isEmpty_iff, decide_eq_true_eq, List.isPrefixOf_iff_prefix,
    or_assoc]

/-! ## What may become of a record -/

/-- A message that is complete is rendered as it stands. -/
@[simp] lemma render_withText (record : Record) (text : String) :
    (record.withText text).render = .ok text := by
  simp [render, withText, givenArguments?, Value.text, Percent.shown, Except.map]

@[simp] lemma withText_withText (record : Record) (text text' : String) :
    (record.withText text).withText text' = record.withText text' := rfl

/-- What may become of a record with the message `text` that is to read `out`.  It is left alone only if
it reads so already. -/
def Becomes (record : Record) (text out : String) (final : Record) : Prop :=
  (final = record ∧ out = text) ∨ final = record.withText out

lemma Becomes.refl (record : Record) (text : String) : record.Becomes text text record :=
  .inl ⟨rfl, rfl⟩

lemma Becomes.trans {record mid final : Record} {text between out : String}
    (h : record.Becomes text between mid) (h' : mid.Becomes between out final) :
    record.Becomes text out final := by
  rcases h with ⟨rfl, rfl⟩ | rfl
  · exact h'
  · rcases h' with ⟨rfl, rfl⟩ | rfl
    · exact .inr rfl
    · exact .inr (withText_withText record between out)

lemma Becomes.render {record final : Record} {text out : String} (h : record.Becomes text out final)
    (hrender : record.render = .ok text) : final.render = .ok out := by
  rcases h with ⟨rfl, rfl⟩ | rfl
  · exact hrender
  · exact render_withText record out

/-- Only the message and its arguments may be others. -/
lemma Becomes.frame {record final : Record} {text out : String} (h : record.Becomes text out final) :
    { final with message := record.message, arguments := record.arguments } = record := by
  rcases h with ⟨rfl, -⟩ | rfl <;> rfl

lemma Becomes.logger {record final : Record} {text out : String} (h : record.Becomes text out final) :
    final.logger = record.logger := by
  rcases h with ⟨rfl, -⟩ | rfl <;> rfl

end Record

namespace Log

variable {log : Log} {known : Engine → Prop} {bound : Nat} {record : Record} {text : String}

/-! ## One filter -/

lemma run_rewrite (engine : Engine) (text : String) (log : Log) :
    (rewrite engine text).run log
      = ((log.pool.rewriteAt log.place engine text).1,
          { log with
            place := (log.pool.rewriteAt log.place engine text).2.1
            pool := (log.pool.rewriteAt log.place engine text).2.2.2 }) := rfl

/-- What a text becomes that passes a filter on a record of some logger. -/
def through (logger text : String) (filter : String × Engine) : String :=
  if Covers filter.1 logger then filter.2.redacted text else text

/-- A filter that is not meant for a logger lets the record pass as it is. -/
lemma run_filter_of_not_covers {name : String} (hcovers : ¬ Covers name record.logger)
    (engine : Engine) (log : Log) :
    (record.filter name (rewrite engine)).run log = ((true, record), log) := by
  rw [Record.filter, if_neg (mt Record.isSelectedBy_iff.mp hcovers)]
  rfl

/-- A filter that is meant for a logger puts the new text in place, if there is one. -/
lemma run_filter_of_covers {name : String} (hcovers : Covers name record.logger)
    (hrender : record.render = .ok text) (engine : Engine) (log : Log) :
    (record.filter name (rewrite engine)).run log
      = ((true, match (log.pool.rewriteAt log.place engine text).1 with
          | none => record
          | some out => record.withText out),
        ((rewrite engine text).run log).2) := by
  rw [Record.filter, if_pos (Record.isSelectedBy_iff.mpr hcovers)]
  simp only [hrender, StateT.run_bind, run_rewrite]
  cases (log.pool.rewriteAt log.place engine text).1 <;> rfl

/-- **One filter** lets the record go on with the message that its engine makes of the one before, or
with the very same one if the filter is not meant for the logger.  Where no rule applies it leaves the
record as it is. -/
theorem filter_becomes (h : log.pool.Serves known bound) (hrender : record.render = .ok text)
    (filter : String × Engine) (hknown : known filter.2) :
    ∃ final after, (record.filter filter.1 (rewrite filter.2)).run log = ((true, final), after)
      ∧ record.Becomes text (through record.logger text filter) final
      ∧ ((Covers filter.1 record.logger → filter.2.store.trace text = []) → final = record)
      ∧ after.pool.Serves known bound := by
  obtain ⟨name, engine⟩ := filter
  by_cases hcovers : Covers name record.logger
  · obtain ⟨hout, hsame, hserves⟩ := h.rewriteAt log.place hknown text
    refine ⟨_, _, run_filter_of_covers hcovers hrender engine log, ?_, fun htrace => ?_, hserves⟩
    · rw [through, if_pos hcovers, ← hout]
      cases (log.pool.rewriteAt log.place engine text).1 with
      | none => exact .refl record text
      | some out => exact .inr rfl
    · rw [hsame (htrace hcovers)]
  · refine ⟨_, _, run_filter_of_not_covers hcovers engine log, ?_, fun _ => rfl, h⟩
    rw [through, if_neg hcovers]
    exact .refl record text

/-! ## A list of filters -/

/-- A record that a filter lets go on passes to the next one. -/
lemma run_filterAll_cons {filter : String × Engine} {mid : Record} {between : Log}
    (h : (record.filter filter.1 (rewrite filter.2)).run log = ((true, mid), between))
    (rest : List (String × Engine)) :
    (filterAll record (filter :: rest)).run log = (filterAll mid rest).run between := by
  rw [filterAll, StateT.run_bind, h]
  rfl

/-- Where nothing is applied, a text stays what it is. -/
lemma through_of_trace_eq_nil {logger : String} {filter : String × Engine}
    (h : Covers filter.1 logger → filter.2.store.trace text = []) : through logger text filter = text := by
  rw [through]
  split
  · next hcovers => exact Engine.redacted_of_trace_eq_nil (h hcovers)
  · rfl

/-- **A record that passes through filters** goes on after all of them.  Its message then is the rendered
message passed through the engines of those filters that are meant for its logger, in their order: a text
that was put in place is rendered as it stands, whatever percent signs it has.  Nothing else about the
record changes, and where no rule applies nothing at all does. -/
theorem filterAll_redacts (h : log.pool.Serves known bound) (hrender : record.render = .ok text)
    (filters : List (String × Engine)) (hknown : ∀ filter ∈ filters, known filter.2) :
    ∃ final after, (filterAll record filters).run log = ((true, final), after)
      ∧ final.render = .ok ((filters.filter fun filter => Covers filter.1 record.logger).foldl
          (fun text filter => filter.2.redacted text) text)
      ∧ { final with message := record.message, arguments := record.arguments } = record
      ∧ (final = record ∨ ∃ out, final = record.withText out)
      ∧ ((∀ filter ∈ filters, Covers filter.1 record.logger → filter.2.store.trace text = []) →
          final = record)
      ∧ after.pool.Serves known bound := by
  -- the record that a filter leaves may be either of two; `Becomes` is what lets the list go on
  suffices hchain : ∃ final after, (filterAll record filters).run log = ((true, final), after)
      ∧ record.Becomes text (filters.foldl (through record.logger) text) final
      ∧ ((∀ filter ∈ filters, Covers filter.1 record.logger → filter.2.store.trace text = []) →
          final = record)
      ∧ after.pool.Serves known bound by
    obtain ⟨final, after, hrun, hbecomes, hsame, hserves⟩ := hchain
    refine ⟨final, after, hrun, ?_, hbecomes.frame, hbecomes.imp And.left fun hfinal => ⟨_, hfinal⟩,
      hsame, hserves⟩
    rw [hbecomes.render hrender, List.foldl_filter]
    simp only [decide_eq_true_eq]
    rfl
  induction filters generalizing log record text with
  | nil => exact ⟨record, log, rfl, .refl record text, fun _ => rfl, h⟩
  | cons filter rest ih =>
      obtain ⟨mid, between, hfilter, hmid, hmidSame, hserves⟩ :=
        filter_becomes h hrender filter (hknown filter List.mem_cons_self)
      obtain ⟨final, after, hrun, hfinal, hsame, hafter⟩ :=
        ih hserves (hmid.render hrender) fun f hf => hknown f (List.mem_cons_of_mem _ hf)
      rw [hmid.logger] at hfinal hsame
      refine ⟨final, after, (run_filterAll_cons hfilter rest).trans hrun, hmid.trans hfinal,
        fun hnone => ?_, hafter⟩
      have hfirst := hnone filter List.mem_cons_self
      rw [through_of_trace_eq_nil hfirst] at hsame
      rw [hsame fun f hf => hnone f (List.mem_cons_of_mem _ hf)]
      exact hmidSame hfirst

/-- A record of a logger two levels down, with a template and its argument. -/
def greeting : Record where
  message := .str "%s, 50%%"
  arguments := some (.row [.str "ab"])
  logger := "app.db"
  level := 20
  path := "app/db.py"
  line := 7
  function := none
  extras := [("user", .str "ab")]
  raised := none

/-- Three filters, of which the second is meant for another logger.  What the first puts in place looks
like a directive, and the third makes it look like another one. -/
def directiveFilters : List (String × Engine) :=
  [("app", ⟨0, .ofRules [.ofChar "a" 'a' "%d"]⟩), ("ap", ⟨1, .ofRules [.ofChar "" 'b' "c"]⟩),
    ("", ⟨2, .ofRules [.ofChar "d" 'd' "%s"]⟩)]

/-- The texts that the filters put in place are printed as they are, percent signs and all. -/
theorem filterAll_directiveFilters :
    greeting.render = .ok "ab, 50%" ∧
      ∃ final after, (filterAll greeting directiveFilters).run { level := 0, sinks := [] }
          = ((true, final), after)
        ∧ final.render = .ok "%%sb, 50%" ∧ final.extras = greeting.extras := by
  have hrender : greeting.render = .ok "ab, 50%" := by decide
  have hserves : Pool.Serves ({ level := 0, sinks := [] } : Log).pool
      (fun engine => engine ∈ directiveFilters.map (·.2)) 3 :=
    .empty (by simp [directiveFilters]) fun h h' hid =>
      List.inj_on_of_nodup_map (by decide : ((directiveFilters.map (·.2)).map (·.identity)).Nodup) h h' hid
  obtain ⟨final, after, hrun, hfinal, hframe, -⟩ :=
    filterAll_redacts hserves hrender directiveFilters fun filter hfilter => List.mem_map_of_mem hfilter
  refine ⟨hrender, final, after, hrun, hfinal.trans (congrArg Except.ok (by decide)), ?_⟩
  rw [← hframe]

end Log

end Redaction
