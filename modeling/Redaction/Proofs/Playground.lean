import Redaction.Proofs.Engine.ContextRedaction
import Redaction.Proofs.Policy.LoadTrail
import Redaction.Proofs.Policy.Limits
import Redaction.Proofs.Text.Joined

/-!
# What the playground shows

The playground is there for trying out a policy.  Whoever does so relies on the lines that are shown being those
that a log would get, one by one, although they are redacted with a cache that all of them share.  They also rely
on the number of changed lines, which is all there is to see in a long log: a replacement may break lines, and the
lines that are shown need not be as many as the lines that were redacted.

* `redactLines_eq_map`, `redactLinesAt_eq_map` — lines do not influence each other, wherever the cache is from.
* `changed_eq_nil_iff` — no line is changed just if the text that is shown is that of the lines.
* **`submit_shows`** — what is shown for every policy and every log.
* **`not_submit_answers_count`** — a search that is beyond a limit is not shown as an error.
-/

namespace Redaction.Playground

open Policy (FirstLimit Reader supportedVersion)

variable {engine : Engine} {log : String}

/-! ## Lines one after the other -/

/-- Redacts lines one after the other at a place, where the cache is looked up for each of them. -/
def redactLinesAt (pool : Pool) (place : Place) (engine : Engine) : List String → List String
  | [] => []
  | line :: rest =>
    let (text, place, _, pool) := pool.rewriteAt place engine line
    text.getD line :: redactLinesAt pool place engine rest

/-- **Lines with one cache** come out as each of them would with a cache that nobody has used. -/
theorem redactLines_eq_map (engine : Engine) {cache : Cache} (h : cache.Mirrors engine.store)
    (lines : List String) : redactLines engine cache lines = lines.map engine.redacted := by
  induction lines generalizing cache with
  | nil => rfl
  | cons line rest ih =>
      rw [redactLines, List.map_cons, ← engine.redact_eq_redacted h line,
        ← ih (engine.redact_mirrors h line)]

/-- The same goes for any place, whatever the caches there have been used for. -/
theorem redactLinesAt_eq_map {pool : Pool} {known : Engine → Prop} {bound : Nat} (h : pool.Serves known bound)
    (hknown : known engine) (place : Place) (lines : List String) :
    redactLinesAt pool place engine lines = lines.map engine.redacted := by
  induction lines generalizing pool place with
  | nil => rfl
  | cons line rest ih =>
      obtain ⟨hline, -, hserves⟩ := h.rewriteAt place hknown line
      rw [redactLinesAt, List.map_cons, ← hline, ← ih hserves]

/-! ## What is shown -/

/-- The text that is shown for a log: its lines, redacted each. -/
def shown (engine : Engine) (log : String) : String :=
  String.intercalate "\n" ((Text.lines log).map engine.redacted)

/-- The lines of a log that come out changed. -/
def changed (engine : Engine) (log : String) : List String :=
  (Text.lines log).filter fun line => engine.redacted line ≠ line

/-- The message that is shown below. -/
def summary (rules changed total : Nat) : String :=
  Text.decimal rules ++ " rules loaded, " ++ Text.decimal changed ++ " of " ++ Text.decimal total
    ++ " lines redacted."

lemma length_filter_zip (engine : Engine) (lines : List String) :
    ((lines.zip (lines.map engine.redacted)).filter fun (line, text) => line ≠ text).length
      = (lines.filter fun line => engine.redacted line ≠ line).length := by
  induction lines with
  | nil => rfl
  | cons line rest ih =>
      rw [List.map_cons, List.zip_cons_cons, List.filter_cons, List.filter_cons]
      by_cases hsame : engine.redacted line = line
      · simpa [hsame] using ih
      · simpa [hsame, Ne.symm hsame] using ih

/-- The page shows an engine's lines and counts them. -/
lemma respond_ok (engine : Engine) (log : String) :
    respond (.ok engine.store) log
      = .ok [.textArea "Redacted messages" (shown engine log),
          .success (summary engine.store.ruleCount (changed engine log).length (Text.lines log).length)] := by
  have hlines := redactLines_eq_map ⟨0, engine.store⟩ (Cache.ofStore_mirrors engine.store "main") (Text.lines log)
  simp only [respond, hlines, length_filter_zip]
  rfl

/-- **No line is changed** just if the text that is shown is that of the lines.  Line breaks in replacements cannot
make up for each other: the lines of a log hold none, so that every break within a line is one more. -/
theorem changed_eq_nil_iff (engine : Engine) (log : String) :
    changed engine log = [] ↔ shown engine log = String.intercalate "\n" (Text.lines log) := by
  have hunchanged : changed engine log = [] ↔ (Text.lines log).map engine.redacted = Text.lines log := by
    rw [changed, List.filter_eq_nil_iff]
    constructor
    · intro h
      exact (List.map_congr_left fun line hline => by simpa using h line hline).trans (List.map_id _)
    · intro h line hline
      simpa using List.map_inj_left.mp (h.trans (List.map_id _).symm) line hline
  rw [hunchanged, shown]
  refine ⟨fun h => by rw [h], fun h => ?_⟩
  have hchars := congrArg String.toList h
  rw [String.toList_intercalate, String.toList_intercalate] at hchars
  have hnone : ∀ line ∈ (Text.lines log).map String.toList, '\n' ∉ line := by
    intro line hline hbreak
    obtain ⟨text, htext, rfl⟩ := List.mem_map.mp hline
    exact absurd (Text.not_isLineEnd_of_mem_lines htext '\n' hbreak) (by decide)
  have heq := Text.eq_of_intercalate_eq (by simp) hnone hchars.symm
  exact ((List.map_inj_right fun _ _ => String.toList_injective).mp heq).symm

/-! ## What becomes of a policy -/

/-- A search of the policy is beyond a limit, and all rules before it pass. -/
def BeyondLimit (reader : Reader) (policy : String) (limit : Pattern.Limit) : Prop :=
  ∃ definitions index search, reader.read (Text.Utf8.encode policy) = .ok ⟨some supportedVersion, definitions⟩
    ∧ FirstLimit definitions index search limit

/-- The limit is what comes of the page. -/
lemma submit_of_beyondLimit {reader : Reader} {policy : String} {limit : Pattern.Limit}
    (h : BeyondLimit reader policy limit) (log : String) : submit reader policy log = .error (.limit limit) := by
  obtain ⟨definitions, index, search, hread, hfirst⟩ := h
  have hout : (Policy.load reader (.text policy) (some source)).run.1 = .error (.limit limit) :=
    Policy.outcome_of_firstLimit hread hfirst (some source)
  rw [submit, hout]
  rfl

/-- **What the page shows** once it is submitted, for every policy and every log.  If the policy is loaded, it is
one text and one message.  The text is made of the lines, redacted each as an engine of the policy would redact it
alone, and wherever such an engine redacts the lines one after the other they come out so.  The message gives the
number of rules, of changed lines and of all lines; no line is changed just if the text is that of the lines.  If
the policy is rejected, one error is all that is shown.  Only if a search of it is beyond a limit nothing is shown
at all. -/
theorem submit_shows (reader : Reader) (policy log : String) :
    (∀ engine : Engine, (Policy.load reader (.text policy) (some source)).run.1 = .ok engine.store →
      submit reader policy log
          = .ok [.textArea "Redacted messages" (shown engine log),
            .success (summary (Policy.rulesOf reader (.text policy)).length (changed engine log).length
              (Text.lines log).length)]
        ∧ ((changed engine log).length = 0 ↔ shown engine log = String.intercalate "\n" (Text.lines log))
        ∧ ∀ (pool : Pool) (known : Engine → Prop) (bound : Nat) (place : Place),
          pool.Serves known bound → known engine →
          redactLinesAt pool place engine (Text.lines log) = (Text.lines log).map engine.redacted)
    ∧ (∀ rejection, (Policy.load reader (.text policy) (some source)).run.1 = .error (.rejected rejection) →
      submit reader policy log = .ok [.error ("Policy rejected: " ++ rejection.message)])
    ∧ ((∃ outputs, submit reader policy log = .ok outputs) ↔ ∀ limit, ¬ BeyondLimit reader policy limit)
    ∧ ∀ limit, BeyondLimit reader policy limit → submit reader policy log = .error (.limit limit) := by
  refine ⟨fun engine hloaded => ⟨?_, ?_, ?_⟩, fun rejection hrejected => ?_, ⟨?_, fun hnone => ?_⟩,
    fun limit hlimit => submit_of_beyondLimit hlimit log⟩
  · rw [submit, hloaded, respond_ok, Policy.ruleCount_of_ok hloaded]
  · rw [List.length_eq_zero_iff]
    exact changed_eq_nil_iff engine log
  · intro pool known bound place hserves hknown
    exact redactLinesAt_eq_map hserves hknown place (Text.lines log)
  · rw [submit, hrejected]
    rfl
  · rintro ⟨outputs, houtputs⟩ limit hlimit
    rw [submit_of_beyondLimit hlimit] at houtputs
    cases houtputs
  · rw [submit]
    rcases Policy.outcome_trichotomy reader (.text policy) (some source)
      with ⟨store, hstore⟩ | ⟨rejection, hrejected⟩ | ⟨definitions, index, search, limit, hread, hfirst⟩
    · rw [show (Policy.load reader (.text policy) (some source)).run.1 = .ok store from hstore]
      exact ⟨_, rfl⟩
    · rw [show (Policy.load reader (.text policy) (some source)).run.1 = .error (.rejected rejection)
        from hrejected]
      exact ⟨_, rfl⟩
    · exact absurd ⟨definitions, index, search, hread, hfirst⟩ (hnone limit)

/-- A policy that breaks lines. -/
def breakingText : String :=
  "\x7b\"version\": 1, \"rules\": [\x7b\"search\": \";\", \"replace\": \"\\n\"\x7d]\x7d"

/-- An engine with its rule. -/
def breakingEngine : Engine :=
  ⟨3, ((Policy.load .standard (.text breakingText) (some source)).run.1.toOption).getD .empty⟩

/-- A document whose search has a count that is too large. -/
def countText : String :=
  Policy.searchText "a\x7b4294967295\x7d"

lemma beyondLimit_countText : BeyondLimit .standard countText .repetitionTooLarge :=
  ⟨[{ search := some "a\x7b4294967295\x7d", replace := some "b" }], 0, "a\x7b4294967295\x7d", by decide +kernel,
    [], _, [], rfl, rfl, by simp, ⟨rfl, by decide⟩, by decide +kernel⟩

/-- Of three lines two are broken, and counted as two.  A search that is no pattern is shown as an error, and a count
that is too large is not. -/
theorem submit_shows_broken :
    submit .standard breakingText "a;b\r\nc\nd;"
        = .ok [.textArea "Redacted messages" "a\nb\nc\nd\n", .success "1 rules loaded, 2 of 3 lines redacted."]
      ∧ redactLinesAt {} ⟨"worker", none⟩ breakingEngine ["a;b", "c", "d;"] = ["a\nb", "c", "d\n"]
      ∧ submit .standard (Policy.searchText "(") "a"
        = .ok [.error ("Policy rejected: Invalid search pattern '(': missing ), unterminated subpattern at "
          ++ "position 0 (file playground, rule #0)")]
      ∧ submit .standard countText "a" = .error (.limit .repetitionTooLarge) := by
  have hloaded : (Policy.load .standard (.text breakingText) (some source)).run.1 = .ok breakingEngine.store :=
    eq_ok_of_isOk (by decide +kernel) RuleStore.empty
  have hrejected : (Policy.load .standard (.text (Policy.searchText "(")) (some source)).run.1
      = .error (.rejected ⟨.invalidPattern "(" ⟨.unterminatedSubpattern, some 0⟩, some source, some 0⟩) := by
    decide +kernel
  have hserves : Pool.Serves {} (· = breakingEngine) 4 :=
    .empty (fun h => by rw [h]; decide) fun h h' _ => h.trans h'.symm
  obtain ⟨hshown, -, hlines⟩ := (submit_shows .standard breakingText "a;b\r\nc\nd;").1 breakingEngine hloaded
  refine ⟨hshown.trans (by decide +kernel), ?_, ?_,
    (submit_shows .standard countText "a").2.2.2 _ beyondLimit_countText⟩
  · exact (hlines {} _ 4 ⟨"worker", none⟩ hserves rfl).trans (by decide +kernel)
  · exact ((submit_shows .standard _ "a").2.1 _ hrejected).trans (by decide +kernel)

/-- The page does not always answer with one error, or with a text and a message. -/
theorem not_submit_answers_count :
    submit .standard countText "a" = .error (.limit .repetitionTooLarge)
      ∧ ¬ ∀ policy log, (∃ text, submit .standard policy log = .ok [.error text])
        ∨ ∃ text message,
          submit .standard policy log = .ok [.textArea "Redacted messages" text, .success message] := by
  have hlimit := submit_of_beyondLimit beyondLimit_countText "a"
  refine ⟨hlimit, fun hall => ?_⟩
  rcases hall countText "a" with ⟨text, htext⟩ | ⟨text, message, htext⟩
  · rw [hlimit] at htext
    cases htext
  · rw [hlimit] at htext
    cases htext

end Redaction.Playground
