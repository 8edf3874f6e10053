import Redaction.Proofs.Engine.StableGrouping
import Redaction.Proofs.Policy.Routes
import Mathlib.Data.Finset.Card
import Mathlib.Data.List.TakeWhile

/-!
# The trail that loading leaves

Loading a policy reports to the log as it goes: each rule once it is compiled, and in the end what came of it
all.  Whoever reads these reports wants to know how far loading got and whether it succeeded, without having the
policy at hand.

* `compiledReports` — the reports of rules that were compiled one after another.
* `passed` — the rules before the first one that does not pass.  No rule counts before the version has been
  accepted.
* `reportOf` — the last report, by what came of loading.  Of a limit there is none.
* **`trail_eq`** — these are all reports, for every document.
* **`trail_tells`** — the last report is an error exactly if loading was refused, and the number of reports
  before it is the index of the rule that was refused.
-/

namespace Redaction

/-- The report of the rejection of a document. -/
def Policy.Rejection.report (rejection : Policy.Rejection) : Event :=
  match rejection.rule, rejection.defect with
  | some _, _ => .invalidRule rejection.source rejection.message
  | none, .missingVersion => .versionMissing rejection.source
  | none, .unsupportedVersion version => .versionUnsupported rejection.source version
  | none, .malformed complaint => .malformedPolicy rejection.source complaint
  | none, _ => .invalidRule rejection.source rejection.message

namespace Policy

/-! ## Reports -/

/-- What loading a policy reports. -/
def trail (reader : Reader) (data : Data) (source : Option String) : List Event :=
  (load reader data source).run.2

/-- The trigger of a rule; one that is not given is empty. -/
def RuleDefinition.triggerText (definition : RuleDefinition) : String :=
  definition.trigger.getD defaultTrigger

/-- The report of a rule that was compiled, with its index, its trigger and its description. -/
def compiledReport (index : Nat) (definition : RuleDefinition) : Event :=
  .ruleCompiled index definition.triggerText definition.description

/-- The reports of rules that were compiled one after another, the first of which has index `start`. -/
def compiledReports (start : Nat) : List RuleDefinition → List Event
  | [] => []
  | definition :: rest => compiledReport start definition :: compiledReports (start + 1) rest

/-- The last report, by what came of loading and by what is reported about a success. -/
def reportOf {α : Type} (success : α → List Event) : Except Failure α → List Event
  | .ok a => success a
  | .error (.rejected rejection) => [rejection.report]
  | .error _ => []

/-- The report of a store that was loaded. -/
def loadedReport (data : Data) (source : Option String) (store : RuleStore) : List Event :=
  if data.length = 0 then [.emptyPolicy source] else [.policyLoaded source store.ruleCount store.size]

/-- The rules of a document.  What is not read has none. -/
def rulesOf (reader : Reader) (data : Data) : List RuleDefinition :=
  match reader.read data.encoded with
  | .ok document => document.rules
  | .error _ => []

/-- The rules that pass before the first one that does not.  They are only looked at in a document with the right
version. -/
def passed (reader : Reader) (data : Data) : List RuleDefinition :=
  match reader.read data.encoded with
  | .ok ⟨some version, definitions⟩ =>
    if version = supportedVersion then definitions.takeWhile (·.Passes) else []
  | _ => []

@[simp] lemma length_compiledReports (start : Nat) (definitions : List RuleDefinition) :
    (compiledReports start definitions).length = definitions.length := by
  induction definitions generalizing start with
  | nil => rfl
  | cons definition rest ih => simp [compiledReports, ih]

/-- Each of these reports is the one of its rule, by the index of the rule. -/
lemma compiledReports_getElem? (start index : Nat) (definitions : List RuleDefinition) :
    (compiledReports start definitions)[index]?
      = (definitions[index]?).map fun definition => compiledReport (start + index) definition := by
  induction definitions generalizing start index with
  | nil => rfl
  | cons definition rest ih =>
      cases index with
      | zero => rfl
      | succ index =>
          rw [compiledReports, List.getElem?_cons_succ, List.getElem?_cons_succ, ih, Nat.add_right_comm,
            Nat.add_assoc]

/-! ## The rules -/

/-- What is reported about a success does not show in the report of a failure. -/
lemma reportOf_error {α β : Type} (success : α → List Event) (success' : β → List Event) (failure : Failure) :
    reportOf success (.error failure) = reportOf success' (.error failure) := by
  cases failure <;> rfl

/-- Nor does a change to the answer. -/
lemma reportOf_map {α β : Type} (change : α → β) (result : Except Failure α) :
    reportOf (fun _ => []) (result.map change) = reportOf (fun _ => []) result := by
  rcases result with (rejection | limit | _) | a <;> rfl

/-- **What the loop over the rules reports**: the rules that pass, and the defect that it is stopped by. -/
lemma exec_compileRules_snd (source : Option String) (index : Nat) (definitions : List RuleDefinition)
    (events : List Event) :
    (exec (compileRules source index definitions) events).2
      = events ++ compiledReports index (definitions.takeWhile (·.Passes))
        ++ reportOf (fun _ => []) (exec (compileRules source index definitions) events).1 := by
  induction definitions generalizing index events with
  | nil => simp [compileRules, compiledReports, reportOf]
  | cons definition rest ih =>
      rw [compileRules, List.takeWhile_cons]
      rcases hrule : compileRule definition with (defect | limit) | rule
      · have hfails : ¬ definition.Passes := by
          simp [RuleDefinition.passes_iff, hrule, Except.isOk, Except.toBool]
        simp only [hfails, decide_false, Bool.false_eq_true, if_false, compiledReports, List.append_nil]
        rfl
      · have hfails : ¬ definition.Passes := by
          simp [RuleDefinition.passes_iff, hrule, Except.isOk, Except.toBool]
        simp only [hfails, decide_false, Bool.false_eq_true, if_false, compiledReports, List.append_nil]
        exact (List.append_nil events).symm
      · have hcompiles := compileRule_eq_ok_iff.mp hrule
        have hpasses : definition.Passes := ⟨rule, hcompiles⟩
        have hreport : compiledReport index definition = .ruleCompiled index rule.trigger rule.description := by
          rw [compiledReport, RuleDefinition.triggerText, hcompiles.trigger, hcompiles.description]
        simp only [hpasses, decide_true, if_true, compiledReports, hreport]
        rw [exec_bind_ok (exec_report _ events), exec_return_snd, exec_return_fst, reportOf_map, ih]
        simp only [List.append_assoc, List.cons_append, List.nil_append]

/-! ## The document -/

/-- A document of no length has no rules. -/
lemma rulesOf_of_empty {reader : Reader} {data : Data} (h : data.length = 0) : rulesOf reader data = [] := by
  rw [rulesOf]
  split
  · next hread => exact absurd h (length_ne_zero_of_read_ok hread)
  · rfl

lemma passed_of_empty {reader : Reader} {data : Data} (h : data.length = 0) : passed reader data = [] := by
  rw [passed]
  split
  · next hread => exact absurd h (length_ne_zero_of_read_ok hread)
  · rfl

/-- **What loading reports**, for every document: the rules that pass, one by one, and what came of loading. -/
theorem trail_eq (reader : Reader) (data : Data) (source : Option String) :
    trail reader data source
      = compiledReports 0 (passed reader data)
        ++ reportOf (loadedReport data source) (outcome reader data source) := by
  by_cases hempty : data.length = 0
  · have hreports : trail reader data source = [.emptyPolicy source] := by
      rw [trail, load, if_pos hempty]
      rfl
    rw [hreports, passed_of_empty hempty, outcome_eq, if_pos hempty, reportOf, loadedReport, if_pos hempty]
    rfl
  · show (exec (load reader data source) []).2 = _ ++ reportOf _ (exec (load reader data source) []).1
    rw [load, passed]
    simp only [hempty, if_false]
    rcases reader.read data.encoded with finding | ⟨version, definitions⟩
    · rfl
    · cases version with
      | none => rfl
      | some version =>
          simp only [store]
          by_cases hversion : version = supportedVersion
          · simp only [hversion, ne_eq, not_true_eq_false, if_false, if_true]
            have hreports := exec_compileRules_snd source 0 definitions []
            rw [exec_bind]
            generalize exec (compileRules source 0 definitions) [] = ran at hreports ⊢
            obtain ⟨failure | rules, reported⟩ := ran
            · rw [List.nil_append] at hreports
              exact hreports.trans (congrArg _ (reportOf_error _ _ failure))
            · simp only [List.nil_append, reportOf, List.append_nil] at hreports
              show reported ++ [_] = _ ++ loadedReport data source (RuleStore.ofRules rules)
              rw [hreports, loadedReport, if_neg hempty]
          · simp only [ne_eq, hversion, not_false_eq_true, if_true, if_false]
            rfl

/-! ## What the trail tells -/

/-- A document has the right version, or no rule of it is looked at: it is empty, or rejected before that. -/
lemma supported_or_unexamined (reader : Reader) (data : Data) (source : Option String) :
    (∃ definitions, reader.read data.encoded = .ok ⟨some supportedVersion, definitions⟩)
      ∨ passed reader data = [] ∧ (data.length = 0
        ∨ ∃ defect, outcome reader data source = .error (.rejected ⟨defect, source, none⟩)) := by
  by_cases hempty : data.length = 0
  · exact .inr ⟨passed_of_empty hempty, .inl hempty⟩
  · rw [passed, outcome_eq, if_neg hempty]
    rcases reader.read data.encoded with finding | ⟨version, definitions⟩
    · exact .inr ⟨rfl, .inr ⟨_, rfl⟩⟩
    · cases version with
      | none => exact .inr ⟨rfl, .inr ⟨_, rfl⟩⟩
      | some version =>
          by_cases hversion : version = supportedVersion
          · exact .inl ⟨definitions, by rw [hversion]⟩
          · simp only [hversion, if_false, ne_eq, not_false_eq_true, if_true, true_and]
            exact .inr (.inr ⟨_, rfl⟩)

section
variable {reader : Reader} {data : Data} {definitions : List RuleDefinition} {rules : List Rule}

lemma passed_of_supported (h : reader.read data.encoded = .ok ⟨some supportedVersion, definitions⟩) :
    passed reader data = definitions.takeWhile (·.Passes) := by
  rw [passed, h]
  exact if_pos rfl

lemma rulesOf_of_supported (h : reader.read data.encoded = .ok ⟨some supportedVersion, definitions⟩) :
    rulesOf reader data = definitions := by
  rw [rulesOf, h]

/-- Before the first defect there are as many rules that pass as its index says. -/
lemma length_takeWhile_of_firstDefect {index : Nat} {defect : Defect}
    (h : FirstDefect definitions index defect) : (definitions.takeWhile (·.Passes)).length = index := by
  obtain ⟨before, definition, after, rfl, hindex, hbefore, hdefect⟩ := h
  have hfails : ¬ definition.Passes := by
    rintro ⟨rule, hcompiles⟩
    have hrule := compileRule_eq_defect_iff.mpr hdefect
    rw [compileRule_eq_ok_iff.mpr hcompiles] at hrule
    cases hrule
  rw [List.takeWhile_append_of_pos (by simpa using hbefore), List.takeWhile_cons_of_neg (by simpa using hfails),
    List.append_nil, hindex]

lemma takeWhile_of_compiles (h : List.Forall₂ RuleDefinition.Compiles definitions rules) :
    definitions.takeWhile (·.Passes) = definitions := by
  rw [List.takeWhile_eq_self_iff]
  intro definition hmem
  have hrules : compileAll 0 definitions = .ok rules := compileAll_eq_ok_iff.mpr h
  exact decide_eq_true (exists_compileAll_iff.mp ⟨rules, hrules⟩ definition hmem)

/-- Rules have the triggers of their definitions. -/
lemma map_trigger_of_compiles (h : List.Forall₂ RuleDefinition.Compiles definitions rules) :
    rules.map (·.trigger) = definitions.map RuleDefinition.triggerText := by
  induction h with
  | nil => rfl
  | cons hfirst _ ih => rw [List.map_cons, List.map_cons, ih, hfirst.trigger, RuleDefinition.triggerText]

/-- A store has as many groups as its rules have different triggers. -/
lemma size_ofRules (rules : List Rule) :
    (RuleStore.ofRules rules).size = (rules.map (·.trigger)).toFinset.card := by
  have hsize : (RuleStore.ofRules rules).size = (RuleStore.triggersOf rules).length := by
    rw [← RuleStore.triggers_ofRules, RuleStore.triggers, List.length_map, RuleStore.size]
  have hset : (rules.map (·.trigger)).toFinset = (RuleStore.triggersOf rules).toFinset := by
    ext trigger
    simp [RuleStore.mem_triggersOf]
  rw [hsize, hset, List.toFinset_card_of_nodup (RuleStore.nodup_triggersOf rules)]

/-- A store that is loaded has all rules of its document. -/
lemma ruleCount_of_ok {source : Option String} {store : RuleStore} (h : outcome reader data source = .ok store) :
    store.ruleCount = (rulesOf reader data).length := by
  rcases supported_or_unexamined reader data source with ⟨definitions, hread⟩ | ⟨-, hempty | ⟨defect, hrejected⟩⟩
  · obtain ⟨rules, hrules, rfl⟩ := (outcome_eq_ok_iff hread source store).mp h
    rw [rulesOf_of_supported hread, RuleStore.ruleCount_eq, (RuleStore.ofRules_rules_perm rules).length_eq,
      hrules.length_eq]
  · rw [outcome_eq, if_pos hempty] at h
    obtain rfl := Except.ok.inj h
    rw [rulesOf_of_empty hempty]
    rfl
  · rw [h] at hrejected
    cases hrejected

end

/-- A report says how serious it is, and where the policy came from. -/
structure Closes (source : Option String) (severity : Severity) (event : Event) : Prop where
  serious : event.severity = severity
  located : ("source", .ofText? source) ∈ event.extras

/-- The report of a rejection is an error. -/
lemma Rejection.closes (rejection : Rejection) : Closes rejection.source .error rejection.report := by
  obtain ⟨defect, source, rule⟩ := rejection
  cases rule with
  | some index => exact ⟨rfl, List.mem_singleton.mpr rfl⟩
  | none => cases defect <;> exact ⟨rfl, List.mem_singleton.mpr rfl⟩

lemma loadedReport_closes (data : Data) (source : Option String) (store : RuleStore) :
    ∃ final, loadedReport data source store = [final] ∧ Closes source .info final := by
  rw [loadedReport]
  split_ifs with hempty
  · exact ⟨_, rfl, rfl, List.mem_singleton.mpr rfl⟩
  · exact ⟨_, rfl, rfl, List.mem_cons_self⟩

/-- The reports before the last one are those of the rules that pass. -/
lemma trail_getElem? {index : Nat} {definition : RuleDefinition}
    (h : (passed reader data)[index]? = some definition) (source : Option String) :
    (trail reader data source)[index]? = some (compiledReport index definition) := by
  have hreport := compiledReports_getElem? 0 index (passed reader data)
  rw [h, Nat.zero_add] at hreport
  rw [trail_eq, List.getElem?_append_left (List.getElem?_eq_some_iff.mp hreport).1, hreport]
  rfl

/-- **The trail of a store**: all rules have passed, and are counted in the end. -/
theorem trail_of_ok {source : Option String} {store : RuleStore}
    (h : outcome reader data source = .ok store) :
    passed reader data = rulesOf reader data
      ∧ ∃ final, trail reader data source = compiledReports 0 (rulesOf reader data) ++ [final]
        ∧ Closes source .info final
        ∧ (data.length ≠ 0 → final.extras = [("source", .ofText? source),
            ("rule_count", .ofNat (rulesOf reader data).length),
            ("trigger_count", .ofNat ((rulesOf reader data).map RuleDefinition.triggerText).toFinset.card)]) := by
  have htrail := trail_eq reader data source
  rw [h, reportOf] at htrail
  obtain ⟨final, hfinal, hcloses⟩ := loadedReport_closes data source store
  rw [hfinal] at htrail
  rcases supported_or_unexamined reader data source
    with ⟨definitions, hread⟩ | ⟨hnone, hempty | ⟨defect, hrejected⟩⟩
  · obtain ⟨rules, hrules, rfl⟩ := (outcome_eq_ok_iff hread source store).mp h
    have hall : passed reader data = rulesOf reader data := by
      rw [passed_of_supported hread, rulesOf_of_supported hread, takeWhile_of_compiles hrules]
    refine ⟨hall, final, hall ▸ htrail, hcloses, fun hne => ?_⟩
    have hcount := ruleCount_of_ok h
    rw [loadedReport, if_neg hne] at hfinal
    rw [← List.singleton_inj.mp hfinal, ← hcount, rulesOf_of_supported hread,
      ← map_trigger_of_compiles hrules, ← size_ofRules]
    rfl
  · have hall : passed reader data = rulesOf reader data := by rw [hnone, rulesOf_of_empty hempty]
    exact ⟨hall, final, hall ▸ htrail, hcloses, fun hne => absurd hempty hne⟩
  · rw [h] at hrejected
    cases hrejected

/-- **The trail of a rejection**: the rules before the one that is rejected have passed, and no rule has if the
document is rejected. -/
theorem trail_of_rejected {source : Option String} {rejection : Rejection}
    (h : outcome reader data source = .error (.rejected rejection)) :
    ∃ final, trail reader data source = compiledReports 0 (passed reader data) ++ [final]
      ∧ Closes source .error final
      ∧ (∀ index, rejection.rule = some index →
          (passed reader data).length = index ∧ passed reader data = (rulesOf reader data).take index)
      ∧ (rejection.rule = none → passed reader data = []) := by
  obtain rfl : rejection.source = source := source_of_rejected h
  refine ⟨rejection.report, ?_, rejection.closes, ?_⟩
  · rw [trail_eq, h, reportOf]
  rcases supported_or_unexamined reader data rejection.source
    with ⟨definitions, hread⟩ | ⟨hnone, hempty | ⟨defect, hrejected⟩⟩
  · obtain ⟨-, place, hplace, hfirst⟩ := (outcome_eq_rejected_iff hread _ rejection).mp h
    rw [hplace, passed_of_supported hread, rulesOf_of_supported hread]
    have hlength := length_takeWhile_of_firstDefect hfirst
    constructor
    · intro index hindex
      obtain rfl : place = index := Option.some.inj hindex
      refine ⟨hlength, ?_⟩
      conv_rhs => rw [← hlength]
      exact List.prefix_iff_eq_take.mp (List.takeWhile_prefix _)
    · intro hnone
      cases hnone
  · rw [outcome_eq, if_pos hempty] at h
    cases h
  · have hrule : rejection.rule = none := by
      rw [h] at hrejected
      exact congrArg Rejection.rule (Failure.rejected.inj (Except.error.inj hrejected))
    rw [hrule]
    exact ⟨fun index hindex => absurd hindex (by simp), fun _ => hnone⟩

/-- **What the trail tells**, whatever is loaded.  First come reports of the rules that pass, each with its index,
its trigger and its description.  After them there is one report more.  If a store was loaded this is an
information, all rules have passed, and it counts them and their different triggers.  If loading was refused it is
an error; then the reports before it are those of the rules before the one that is refused, and there are none if
no rule is. -/
theorem trail_tells (reader : Reader) (data : Data) (source : Option String) :
    (∀ index definition, (passed reader data)[index]? = some definition →
      ∃ event : Event, (load reader data source).run.2[index]? = some event
        ∧ event.severity = .debug ∧ event.message = "Compiled redaction rule"
        ∧ event.extras = [("rule_index", .ofNat index), ("trigger", .str definition.triggerText),
            ("rule", .str definition.description)])
    ∧ (∀ store, (load reader data source).run.1 = .ok store →
      passed reader data = rulesOf reader data
        ∧ ∃ final, (load reader data source).run.2 = compiledReports 0 (rulesOf reader data) ++ [final]
          ∧ Closes source .info final
          ∧ (data.length ≠ 0 → final.extras = [("source", .ofText? source),
              ("rule_count", .ofNat (rulesOf reader data).length),
              ("trigger_count",
                .ofNat ((rulesOf reader data).map RuleDefinition.triggerText).toFinset.card)]))
    ∧ (∀ rejection, (load reader data source).run.1 = .error (.rejected rejection) →
      ∃ final, (load reader data source).run.2 = compiledReports 0 (passed reader data) ++ [final]
        ∧ Closes source .error final
        ∧ (∀ index, rejection.rule = some index →
            (passed reader data).length = index ∧ passed reader data = (rulesOf reader data).take index)
        ∧ (rejection.rule = none → passed reader data = [])) := by
  refine ⟨?_, ?_, ?_⟩
  · intro index definition hpassed
    exact ⟨compiledReport index definition, trail_getElem? hpassed source, rfl, rfl, rfl⟩
  · intro store hstore
    exact trail_of_ok hstore
  · intro rejection hrejected
    exact trail_of_rejected hrejected

/-- A document with two rules, both without a trigger: one has none, the other an empty one. -/
def untriggeredText : String :=
  "\x7b\"version\": 1, \"rules\": [\x7b\"search\": \"a\", \"replace\": \"b\"\x7d, "
    ++ "\x7b\"search\": \"c\", \"replace\": \"d\", \"trigger\": \"\", \"description\": \"x\"\x7d]\x7d"

/-- Its rules. -/
def untriggered : List RuleDefinition :=
  [{ search := some "a", replace := some "b" },
    { search := some "c", replace := some "d", trigger := some "", description := "x" }]

lemma load_untriggered :
    (Data.text untriggeredText).length ≠ 0 ∧ rulesOf .standard (.text untriggeredText) = untriggered
      ∧ ∃ store, (load .standard (.text untriggeredText) none).run.1 = .ok store := by
  have hread : Reader.standard.read (Text.Utf8.encode untriggeredText) = .ok ⟨some 1, untriggered⟩ := by
    decide +kernel
  have hpass : ∀ d ∈ untriggered, d.Passes := by decide +kernel
  obtain ⟨rules, hrules⟩ : ∃ rules, compileAll 0 untriggered = .ok rules := exists_compileAll_iff.mpr hpass
  refine ⟨by decide +kernel, rulesOf_of_supported hread, .ofRules rules, ?_⟩
  exact (outcome_eq_ok_iff hread none _).mpr ⟨rules, compileAll_eq_ok_iff.mp hrules, rfl⟩

lemma load_twiceWrong :
    rulesOf .standard (.text (twiceWrongText "")) = twiceWrong
      ∧ (load .standard (.text (twiceWrongText "")) (some "p")).run.1
        = .error (.rejected ⟨.invalidPattern "(" ⟨.unterminatedSubpattern, some 0⟩, some "p", some 1⟩) := by
  have hread : Reader.standard.read (Text.Utf8.encode (twiceWrongText "")) = .ok ⟨some 1, twiceWrong⟩ := by
    decide +kernel
  have hfirst : FirstDefect twiceWrong 1 (.invalidPattern "(" ⟨.unterminatedSubpattern, some 0⟩) :=
    ⟨twiceWrong.take 1, twiceWrong[1], [], rfl, rfl, by decide +kernel, by decide +kernel⟩
  refine ⟨rulesOf_of_supported hread, ?_⟩
  exact (outcome_eq_rejected_iff hread (some "p") _).mpr ⟨rfl, 1, rfl, hfirst⟩

/-- Of two rules that pass both are reported, and they are counted as rules of one trigger.  Of a rule that passes
and one that does not only the first is reported before the error. -/
theorem trail_tells_untriggered :
    (∃ final, (load .standard (.text untriggeredText) none).run.2
        = [.ruleCompiled 0 "" "", .ruleCompiled 1 "" "x", final]
      ∧ final.severity = .info
      ∧ final.extras = [("source", .none), ("rule_count", .ofNat 2), ("trigger_count", .ofNat 1)])
    ∧ ∃ final, (load .standard (.text (twiceWrongText "")) (some "p")).run.2 = [.ruleCompiled 0 "" "", final]
      ∧ Closes (some "p") .error final := by
  constructor
  · obtain ⟨hlength, hrules, store, hstore⟩ := load_untriggered
    obtain ⟨-, final, htrail, hcloses, hextras⟩ :=
      (trail_tells .standard (.text untriggeredText) none).2.1 store hstore
    rw [hrules] at htrail hextras
    exact ⟨final, htrail, hcloses.serious, hextras hlength⟩
  · obtain ⟨hrules, hrejected⟩ := load_twiceWrong
    obtain ⟨final, htrail, hcloses, hplace, -⟩ :=
      (trail_tells .standard (.text (twiceWrongText "")) (some "p")).2.2 _ hrejected
    rw [(hplace 1 rfl).2, hrules] at htrail
    exact ⟨final, htrail, hcloses⟩

/-- A document of another version, with a rule that passes. -/
def otherVersionText : String :=
  "\x7b\"version\": 2, \"rules\": [\x7b\"search\": \"a\", \"replace\": \"b\"\x7d]\x7d"

/-- Rules that pass are not reported in a document whose version is not supported: they are not looked at. -/
theorem not_trail_of_otherVersion :
    (Reader.standard.read (Text.Utf8.encode otherVersionText)
        = .ok ⟨some 2, [{ search := some "a", replace := some "b" }]⟩
      ∧ (load .standard (.text otherVersionText) none).run
        = (.error (.rejected ⟨.unsupportedVersion 2, none, none⟩), [.versionUnsupported none 2]))
    ∧ ¬ ∀ data source rejection, (load .standard data source).run.1 = .error (.rejected rejection) →
        ∃ final, (load .standard data source).run.2
          = compiledReports 0 ((rulesOf .standard data).takeWhile (·.Passes)) ++ [final] := by
  have hread : Reader.standard.read (Text.Utf8.encode otherVersionText)
      = .ok ⟨some 2, [{ search := some "a", replace := some "b" }]⟩ := by decide +kernel
  have hran : (load .standard (.text otherVersionText) none).run
      = (.error (.rejected ⟨.unsupportedVersion 2, none, none⟩), [.versionUnsupported none 2]) := by
    have hout : outcome .standard (.text otherVersionText) none
        = .error (.rejected ⟨.unsupportedVersion 2, none, none⟩) := by
      rw [outcome_eq, if_neg (by decide), Data.encoded, hread]
      rfl
    have htrail := trail_eq .standard (.text otherVersionText) none
    rw [hout, passed, Data.encoded, hread] at htrail
    exact Prod.ext hout htrail
  refine ⟨⟨hread, hran⟩, fun hall => ?_⟩
  obtain ⟨final, hreports⟩ := hall (.text otherVersionText) none _ (congrArg Prod.fst hran)
  have hpasses : RuleDefinition.Passes { search := some "a", replace := some "b" } := by decide +kernel
  rw [hran, rulesOf, Data.encoded, hread] at hreports
  have hlength := congrArg List.length hreports
  simp [hpasses] at hlength

end Policy
end Redaction
