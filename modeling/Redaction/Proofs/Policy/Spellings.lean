import Redaction.Proofs.Engine.Undescribed
import Redaction.Proofs.Policy.LoadTrail

/-!
# What a policy may be written with

A policy has parts that only inform: descriptions, and the choice between an empty trigger, a null one and none at
all.  Someone who edits these must not have to fear for the rules.  That is a statement about two runs, of the policy
before and after, from the bytes to the last message: both are refused in the same words, or both are loaded and do
the same to whatever comes.

* `RuleDefinition.Alike`, `Document.Alike` — definitions and documents that differ in such parts only.
* `compileRule_alike`, `compileAll_alike` — they compile to the same rules up to descriptions, or fail alike.
* `outcome_alike` — so do the documents as a whole: triggers are filled in before rules are grouped.
* **`spelling_irrelevant`** — and the engines that come of them cannot be told apart.
-/

namespace Redaction.Policy

/-- Two definitions differ at most in their descriptions and in how an empty trigger is written. -/
structure RuleDefinition.Alike (definition definition' : RuleDefinition) : Prop where
  trigger : definition.triggerText = definition'.triggerText
  search : definition.search = definition'.search
  replace : definition.replace = definition'.replace

/-- Two documents differ at most in parts of their rules that only inform. -/
structure Document.Alike (document document' : Document) : Prop where
  version : document.version = document'.version
  rules : List.Forall₂ RuleDefinition.Alike document.rules document'.rules

instance (definition definition' : RuleDefinition) : Decidable (definition.Alike definition') :=
  decidable_of_iff (_ ∧ _ ∧ _) ⟨fun ⟨h, h', h''⟩ => ⟨h, h', h''⟩, fun ⟨h, h', h''⟩ => ⟨h, h', h''⟩⟩

/-! ## Rules -/

variable {definition definition' : RuleDefinition} {definitions definitions' : List RuleDefinition}

/-- Definitions that are alike compile to the same rule up to its description, or fail for the same reason. -/
lemma compileRule_alike (h : definition.Alike definition') :
    (compileRule definition).map Rule.plain = (compileRule definition').map Rule.plain := by
  have htrigger : definition.trigger.getD defaultTrigger = definition'.trigger.getD defaultTrigger := h.trigger
  rw [compileRule_eq, compileRule_eq, h.search, h.replace, htrigger]
  cases nonEmpty? definition'.search with
  | none => rfl
  | some search =>
      simp only
      rcases Pattern.compile search with (fault | limit) | pattern
      · rfl
      · rfl
      · cases nonEmpty? definition'.replace with
        | none => rfl
        | some replacement =>
            simp only
            rcases Template.parse pattern replacement with (fault | limit) | template <;> rfl

lemma compileAll_alike (h : List.Forall₂ RuleDefinition.Alike definitions definitions') (index : Nat) :
    (compileAll index definitions).map (List.map Rule.plain)
      = (compileAll index definitions').map (List.map Rule.plain) := by
  induction h generalizing index with
  | nil => rfl
  | @cons definition definition' rest rest' hfirst _ ih =>
      have hrule := compileRule_alike hfirst
      have hrest := ih (index + 1)
      rw [compileAll, compileAll]
      cases hleft : compileRule definition <;> cases hright : compileRule definition' <;>
        simp only [hleft, hright, Except.map, Except.error.injEq, Except.ok.injEq, reduceCtorEq] at hrule
      · rw [hrule]
      · cases hleft : compileAll (index + 1) rest <;> cases hright : compileAll (index + 1) rest' <;>
          simp_all [Except.map]

/-! ## Documents -/

/-- What comes of the rules, once they are grouped. -/
lemma store_alike (h : List.Forall₂ RuleDefinition.Alike definitions definitions') (source : Option String) :
    (((compileAll 0 definitions).mapError (failureAt source)).map RuleStore.ofRules).map RuleStore.plain
      = (((compileAll 0 definitions').mapError (failureAt source)).map RuleStore.ofRules).map RuleStore.plain := by
  have hall := compileAll_alike h 0
  cases hleft : compileAll 0 definitions <;> cases hright : compileAll 0 definitions' <;>
    simp only [hleft, hright, Except.map, Except.error.injEq, Except.ok.injEq, reduceCtorEq] at hall
  · rw [hall]
  · simp only [Except.mapError, Except.map, ← RuleStore.ofRules_plain, hall]

/-- **Documents that are alike** have the same outcome up to descriptions. -/
theorem outcome_alike {reader : Reader} {data data' : Data} {document document' : Document}
    (hread : reader.read data.encoded = .ok document) (hread' : reader.read data'.encoded = .ok document')
    (h : document.Alike document') (source : Option String) :
    (outcome reader data source).map RuleStore.plain = (outcome reader data' source).map RuleStore.plain := by
  obtain ⟨version, definitions⟩ := document
  obtain ⟨version', definitions'⟩ := document'
  obtain rfl : version = version' := h.version
  rw [outcome_eq, outcome_eq, if_neg (length_ne_zero_of_read_ok hread), if_neg (length_ne_zero_of_read_ok hread'),
    hread, hread']
  cases version with
  | none => rfl
  | some version =>
      simp only
      split_ifs
      · rfl
      · exact store_alike h.rules source

/-! ## Two runs -/

/-- **Parts that only inform carry no behaviour.**  Of two documents that differ in nothing else both are refused,
by the same failure, with its wording and its index, or both are loaded, as stores that are equal up to
descriptions.  Engines of these stores give the same texts for any messages, with new caches of their own or with
those of a context, and handle for handle they count the same. -/
theorem spelling_irrelevant {reader : Reader} {data data' : Data} {document document' : Document}
    (hread : reader.read data.encoded = .ok document) (hread' : reader.read data'.encoded = .ok document')
    (halike : document.Alike document') (source : Option String) :
    ((∃ failure, (load reader data source).run.1 = .error failure
        ∧ (load reader data' source).run.1 = .error failure)
      ∨ ∃ store store', (load reader data source).run.1 = .ok store
        ∧ (load reader data' source).run.1 = .ok store'
        ∧ store.plain = store'.plain)
    ∧ ∀ engine engine' : Engine, engine.identity = engine'.identity →
      (load reader data source).run.1 = .ok engine.store → (load reader data' source).run.1 = .ok engine'.store →
      (∀ thread messages,
        (engine.redactEach (Cache.ofStore engine.store thread) messages).1
            = (engine'.redactEach (Cache.ofStore engine'.store thread) messages).1
          ∧ (engine.redactEach (Cache.ofStore engine.store thread) messages).2.counts
            = (engine'.redactEach (Cache.ofStore engine'.store thread) messages).2.counts)
      ∧ ∀ (pool pool' : Pool), pool.plain = pool'.plain → ∀ place messages,
        (pool.redactEachAt place engine messages).1 = (pool'.redactEachAt place engine' messages).1
          ∧ (pool.redactEachAt place engine messages).2.caches.map Cache.counts
            = (pool'.redactEachAt place engine' messages).2.caches.map Cache.counts := by
  have hsame : (load reader data source).run.1.map RuleStore.plain
      = (load reader data' source).run.1.map RuleStore.plain := outcome_alike hread hread' halike source
  constructor
  · rcases hleft : (load reader data source).run.1 with failure | store <;>
      rcases hright : (load reader data' source).run.1 with failure' | store' <;>
      simp only [hleft, hright, Except.map, Except.error.injEq, Except.ok.injEq, reduceCtorEq] at hsame
    · exact .inl ⟨failure, rfl, hsame ▸ rfl⟩
    · exact .inr ⟨store, store', rfl, rfl, hsame⟩
  · intro engine engine' hidentity hleft hright
    rw [hleft, hright] at hsame
    have hengine : engine.plain = engine'.plain := by
      rw [Engine.plain, Engine.plain, hidentity, Except.ok.inj hsame]
    constructor
    · intro thread messages
      have hcache : (Cache.ofStore engine.store thread).plain = (Cache.ofStore engine'.store thread).plain := by
        rw [← Cache.ofStore_plain, ← Cache.ofStore_plain, Except.ok.inj hsame]
      obtain ⟨htexts, hplain⟩ := Engine.redactEach_eq_of_plain hengine hcache messages
      refine ⟨htexts, ?_⟩
      rw [← Cache.plain_counts, hplain, Cache.plain_counts]
    · intro pool pool' hpool place messages
      obtain ⟨htexts, hplain⟩ := Pool.redactEachAt_eq_of_plain hengine hpool place messages
      refine ⟨htexts, ?_⟩
      have hcounts := congrArg (fun pool : Pool => pool.caches.map Cache.counts) hplain
      simpa [Pool.plain, Function.comp_def] using hcounts

/-- A policy with an empty trigger, one that is left out, and a second rule whose search is given. -/
def spelledText (search : String) : String :=
  "\x7b\"version\":1,\"rules\":[\x7b\"trigger\":\"\",\"search\":\"a\",\"replace\":\"b\","
    ++ "\"description\":\"x\"\x7d,\x7b\"trigger\":\"s\",\"search\":\"" ++ search
    ++ "\",\"replace\":\"d\"\x7d,\x7b\"search\":\"b\",\"replace\":\"e\"\x7d]\x7d"

/-- The same policy with a null trigger, an empty one, and other descriptions. -/
def respelledText (search : String) : String :=
  "\x7b\"version\":1,\"rules\":[\x7b\"search\":\"a\",\"replace\":\"b\",\"trigger\":null\x7d,"
    ++ "\x7b\"description\":\"y\",\"trigger\":\"s\",\"search\":\"" ++ search
    ++ "\",\"replace\":\"d\"\x7d,\x7b\"search\":\"b\",\"replace\":\"e\",\"trigger\":\"\"\x7d]\x7d"

/-- The rules of both, by the triggers and descriptions of the three. -/
def spelledRules (search : String) (triggers : Option String × Option String)
    (descriptions : String × String) : List RuleDefinition :=
  [{ trigger := triggers.1, search := some "a", replace := some "b", description := descriptions.1 },
    { trigger := some "s", search := some search, replace := some "d", description := descriptions.2 },
    { trigger := triggers.2, search := some "b", replace := some "e" }]

lemma read_spelled :
    Reader.standard.read (Data.text (spelledText "c")).encoded
        = .ok ⟨some 1, spelledRules "c" (some "", none) ("x", "")⟩
      ∧ Reader.standard.read (Data.text (respelledText "c")).encoded
        = .ok ⟨some 1, spelledRules "c" (none, some "") ("", "y")⟩
      ∧ Reader.standard.read (Data.text (spelledText "(")).encoded
        = .ok ⟨some 1, spelledRules "(" (some "", none) ("x", "")⟩
      ∧ Reader.standard.read (Data.text (respelledText "(")).encoded
        = .ok ⟨some 1, spelledRules "(" (none, some "") ("", "y")⟩ := by
  decide +kernel

lemma spelled_alike (search : String) :
    Document.Alike ⟨some 1, spelledRules search (some "", none) ("x", "")⟩
      ⟨some 1, spelledRules search (none, some "") ("", "y")⟩ :=
  ⟨rfl, .cons ⟨rfl, rfl, rfl⟩ (.cons ⟨rfl, rfl, rfl⟩ (.cons ⟨rfl, rfl, rfl⟩ .nil))⟩

/-- An engine with rules, if they are right. -/
def engineOf (definitions : List RuleDefinition) : Engine :=
  ⟨3, ((compileAll 0 definitions).map RuleStore.ofRules).toOption.getD .empty⟩

lemma load_engineOf {data : Data} {definitions : List RuleDefinition}
    (hread : Reader.standard.read data.encoded = .ok ⟨some 1, definitions⟩)
    (h : (compileAll 0 definitions).isOk) :
    (load .standard data none).run.1 = .ok (engineOf definitions).store := by
  refine (outcome_of_supported hread none).trans ?_
  rw [engineOf, eq_ok_of_isOk h []]
  rfl

/-- The two policies redact alike, the rules without a trigger before the other one, and with a search that is no
pattern they are refused alike. -/
theorem spelling_irrelevant_mixed :
    (load .standard (.text (respelledText "c")) none).run.1
        = .ok (engineOf (spelledRules "c" (none, some "") ("", "y"))).store
      ∧ ((engineOf (spelledRules "c" (none, some "") ("", "y"))).redactEach
          (Cache.ofStore (engineOf (spelledRules "c" (none, some "") ("", "y"))).store "") ["sac", "b"]).1
        = ["sed", "e"]
      ∧ ((engineOf (spelledRules "c" (none, some "") ("", "y"))).redactEach
          (Cache.ofStore (engineOf (spelledRules "c" (none, some "") ("", "y"))).store "") ["sac", "b"]).2.counts
        = [1, 2, 1]
      ∧ ∃ failure, (load .standard (.text (spelledText "(")) (some "p")).run.1 = .error failure
        ∧ (load .standard (.text (respelledText "(")) (some "p")).run.1 = .error failure := by
  obtain ⟨hread, hread', hwrong, hwrong'⟩ := read_spelled
  have hloaded := load_engineOf hread (by decide +kernel)
  have hloaded' := load_engineOf hread' (by decide +kernel)
  obtain ⟨hcaches, -⟩ := (spelling_irrelevant hread hread' (spelled_alike "c") none).2
    (engineOf (spelledRules "c" (some "", none) ("x", ""))) (engineOf (spelledRules "c" (none, some "") ("", "y")))
    rfl hloaded hloaded'
  obtain ⟨htexts, hcounts⟩ := hcaches "" ["sac", "b"]
  refine ⟨hloaded', htexts.symm.trans (by decide +kernel), hcounts.symm.trans (by decide +kernel), ?_⟩
  rcases (spelling_irrelevant hwrong hwrong' (spelled_alike "(") (some "p")).1 with hfail | ⟨store, _, hstore, -⟩
  · exact hfail
  · -- a search that is no pattern compiles to nothing
    have hcompiled := (outcome_of_supported hwrong (some "p")).symm.trans hstore
    have hfails : ¬ (compileAll 0 (spelledRules "(" (some "", none) ("x", ""))).isOk := by decide +kernel
    cases hall : compileAll 0 (spelledRules "(" (some "", none) ("x", "")) with
    | error fault =>
        rw [hall] at hcompiled
        cases hcompiled
    | ok rules =>
        rw [hall] at hfails
        exact absurd rfl hfails

end Redaction.Policy
