import Redaction.Proofs.Pattern.LimitsShown
import Redaction.Proofs.Policy.Outcome
import Redaction.Proofs.Template.Refusals

/-!
# Loading beyond a limit

Whoever loads a policy is promised a store or the error of a policy, whatever the rules say.  The checks of
a rule turn the *faults* of its search into such an error.  A limit is not a fault, and it gets through as
it is.

* `Promised` — what is promised about a document: it gives a store or an error of a policy, and a search
  that is refused gives the error of its pattern, with the index of its rule.
* `FirstLimit` — a search is beyond a limit, and all rules before it pass.
* **`promised_iff`** — the promise is kept for just those documents that have no such search.  Otherwise
  the limit itself is what comes out, and the search shows it (`Pattern.Limit.ShownIn`).

Nothing else can break the promise.  A template meets no limit (`Template.exists_fault_of_parse`), and a
search without large counts in braces, large codes of eight digits, and clashing flags meets none either.
-/

namespace Redaction.Policy

/-- The definition at an index has a search that is beyond a limit, and all definitions before it pass. -/
def FirstLimit (definitions : List RuleDefinition) (index : Nat) (search : String)
    (limit : Pattern.Limit) : Prop :=
  ∃ before definition after, definitions = before ++ definition :: after ∧ before.length = index
    ∧ (∀ d ∈ before, d.Passes) ∧ (definition.search = some search ∧ search ≠ "")
    ∧ Pattern.compile search = .error (.limit limit)

variable {reader : Reader} {data : Data} {source : Option String}

/-- What is promised about a document. -/
structure Promised (reader : Reader) (data : Data) (source : Option String) : Prop where
  /-- It gives a store, or an error of one of the kinds for policies. -/
  answered : (∃ store, outcome reader data source = .ok store)
    ∨ ∃ rejection, outcome reader data source = .error (.rejected rejection)
      ∧ rejection.defect.kind.isPolicyLoad
  /-- A search that is refused, for whatever reason, gives the error of its pattern. -/
  refused : ∀ before definition after search refusal,
    reader.read data.encoded = .ok ⟨some supportedVersion, before ++ definition :: after⟩ →
    (∀ d ∈ before, d.Passes) → definition.search = some search ∧ search ≠ "" →
    Pattern.compile search = .error refusal →
    ∃ fault, outcome reader data source
      = .error (.rejected ⟨.invalidPattern search fault, source, some before.length⟩)

/-! ## One rule -/

lemma isPolicyLoad_of_parent {kind : ErrorKind} (h : kind.parent? = some .policyLoad) :
    kind.isPolicyLoad := by
  have hself : ErrorKind.policyLoad ∈ ErrorKind.policyLoad.ancestors := by decide +kernel
  rw [ErrorKind.isPolicyLoad, ErrorKind.ancestors]
  split
  · next hnone => simp [h] at hnone
  · next parent hparent =>
      obtain rfl : ErrorKind.policyLoad = parent := Option.some.inj (h.symm.trans hparent)
      exact List.contains_iff_mem.mpr (List.mem_cons_of_mem kind hself)

/-- Every defect is of one of the kinds for policies. -/
lemma Defect.isPolicyLoad (defect : Defect) : defect.kind.isPolicyLoad := by
  cases defect <;> exact isPolicyLoad_of_parent rfl

/-- A rule is beyond a limit if and only if its search is. -/
lemma compileRule_eq_limit_iff {definition : RuleDefinition} {limit : Pattern.Limit} :
    compileRule definition = .error (.inr limit) ↔
      ∃ search, (definition.search = some search ∧ search ≠ "")
        ∧ Pattern.compile search = .error (.limit limit) := by
  constructor
  · intro h
    rw [compileRule_eq] at h
    cases hsearch : nonEmpty? definition.search with
    | none => simp [hsearch] at h
    | some search =>
        rcases hpattern : Pattern.compile search with (fault | found) | pattern
        · simp [hsearch, hpattern] at h
        · simp only [hsearch, hpattern, Except.error.injEq, Sum.inr.injEq] at h
          exact ⟨search, nonEmpty?_eq_some_iff.mp hsearch, h ▸ hpattern⟩
        · cases hreplace : nonEmpty? definition.replace with
          | none => simp [hsearch, hpattern, hreplace] at h
          | some replacement =>
              rcases htemplate : Template.parse pattern replacement with (fault | found) | template
              · simp [hsearch, hpattern, hreplace, htemplate] at h
              · obtain ⟨fault, hfault⟩ := Template.exists_fault_of_parse pattern htemplate
                cases hfault
              · simp [hsearch, hpattern, hreplace, htemplate] at h
  · rintro ⟨search, hsearch, hpattern⟩
    rw [compileRule_eq]
    simp only [nonEmpty?_eq_some_iff.mpr hsearch, hpattern]

/-! ## All rules -/

lemma compileAll_eq_limit_iff {definitions : List RuleDefinition} {index : Nat}
    {limit : Pattern.Limit} :
    compileAll 0 definitions = .error (index, .inr limit) ↔
      ∃ search, FirstLimit definitions index search limit := by
  rw [compileAll_eq_error_iff]
  simp only [compileRule_eq_limit_iff, Nat.zero_add]
  constructor
  · rintro ⟨before, definition, after, hsplit, hindex, hbefore, search, hsearch, hpattern⟩
    exact ⟨search, before, definition, after, hsplit, hindex.symm, hbefore, hsearch, hpattern⟩
  · rintro ⟨search, before, definition, after, hsplit, hindex, hbefore, hsearch, hpattern⟩
    exact ⟨before, definition, after, hsplit, hindex.symm, hbefore, search, hsearch, hpattern⟩

/-- The limit that is met first is what comes of a document. -/
lemma outcome_of_firstLimit {definitions : List RuleDefinition} {index : Nat}
    {search : String} {limit : Pattern.Limit}
    (hread : reader.read data.encoded = .ok ⟨some supportedVersion, definitions⟩)
    (h : FirstLimit definitions index search limit) (source : Option String) :
    outcome reader data source = .error (.limit limit) := by
  rw [outcome_of_supported hread, compileAll_eq_limit_iff.mpr ⟨search, h⟩]
  rfl

/-- Where all rules up to one that is refused for a fault pass, its pattern is the defect. -/
lemma outcome_of_fault {before after : List RuleDefinition}
    {definition : RuleDefinition} {search : String} {fault : Pattern.Fault}
    (hread : reader.read data.encoded = .ok ⟨some supportedVersion, before ++ definition :: after⟩)
    (hbefore : ∀ d ∈ before, d.Passes) (hsearch : definition.search = some search ∧ search ≠ "")
    (hpattern : Pattern.compile search = .error (.fault fault)) (source : Option String) :
    outcome reader data source
      = .error (.rejected ⟨.invalidPattern search fault, source, some before.length⟩) :=
  (outcome_eq_rejected_iff hread source _).mpr
    ⟨rfl, before.length, rfl, before, definition, after, rfl, rfl, hbefore,
      .invalidPattern hsearch hpattern⟩

/-- A document is stopped by nothing but its defects and the limit that its rules meet first. -/
lemma outcome_trichotomy (reader : Reader) (data : Data) (source : Option String) :
    (∃ store, outcome reader data source = .ok store)
      ∨ (∃ rejection, outcome reader data source = .error (.rejected rejection))
      ∨ ∃ definitions index search limit,
        reader.read data.encoded = .ok ⟨some supportedVersion, definitions⟩
          ∧ FirstLimit definitions index search limit := by
  rcases hread : reader.read data.encoded with finding | ⟨version, definitions⟩
  · rw [outcome_eq, hread]
    by_cases hempty : data.length = 0
    · exact .inl ⟨.empty, if_pos hempty⟩
    · exact .inr (.inl ⟨_, if_neg hempty⟩)
  · cases version with
    | none =>
        rw [outcome_eq, if_neg (length_ne_zero_of_read_ok hread), hread]
        exact .inr (.inl ⟨_, rfl⟩)
    | some version =>
        by_cases hversion : version = supportedVersion
        · subst hversion
          rw [outcome_of_supported hread]
          rcases hall : compileAll 0 definitions with ⟨index, defect | limit⟩ | rules
          · exact .inr (.inl ⟨_, rfl⟩)
          · obtain ⟨search, hfirst⟩ := compileAll_eq_limit_iff.mp hall
            exact .inr (.inr ⟨definitions, index, search, limit, rfl, hfirst⟩)
          · exact .inl ⟨_, rfl⟩
        · rw [outcome_eq, if_neg (length_ne_zero_of_read_ok hread), hread]
          simp only [ne_eq, hversion, not_false_eq_true, if_true]
          exact .inr (.inl ⟨_, rfl⟩)

/-! ## When the promise is kept -/

/-- The promise is kept if and only if no search is beyond a limit while all rules before it pass. -/
lemma promised_iff_forall_not_firstLimit : Promised reader data source ↔
    ∀ definitions index search limit, reader.read data.encoded = .ok ⟨some supportedVersion, definitions⟩ →
      ¬ FirstLimit definitions index search limit := by
  refine ⟨fun hpromised definitions index search limit hread hfirst => ?_, fun hnone => ⟨?_, ?_⟩⟩
  · have hout := outcome_of_firstLimit hread hfirst source
    rcases hpromised.answered with ⟨store, hstore⟩ | ⟨rejection, hrejected, -⟩
    · rw [hout] at hstore
      cases hstore
    · rw [hout] at hrejected
      cases hrejected
  · rcases outcome_trichotomy reader data source with hstore | ⟨rejection, hrejected⟩ | hmet
    · exact .inl hstore
    · exact .inr ⟨rejection, hrejected, rejection.defect.isPolicyLoad⟩
    · obtain ⟨definitions, index, search, limit, hread, hfirst⟩ := hmet
      exact absurd hfirst (hnone definitions index search limit hread)
  · intro before definition after search refusal hread hbefore hsearch hpattern
    cases refusal with
    | fault fault => exact ⟨fault, outcome_of_fault hread hbefore hsearch hpattern source⟩
    | limit limit =>
        have hfirst : FirstLimit (before ++ definition :: after) before.length search limit :=
          ⟨before, definition, after, rfl, rfl, hbefore, hsearch, hpattern⟩
        exact absurd hfirst (hnone _ _ _ _ hread)

/-- **When the promise is kept.**  It is kept for the documents of which no search is beyond a limit while
all rules before it pass.  For the others the limit is what comes out, in the place of a rejection, and the
search shows it.  Documents given as text are no different from those given as bytes. -/
theorem promised_iff (reader : Reader) (data : Data) (source : Option String) :
    (Promised reader data source ↔
      ∀ definitions index search limit,
        reader.read data.encoded = .ok ⟨some supportedVersion, definitions⟩ →
        ¬ FirstLimit definitions index search limit)
    ∧ (∀ definitions index search limit,
        reader.read data.encoded = .ok ⟨some supportedVersion, definitions⟩ →
        FirstLimit definitions index search limit →
        outcome reader data source = .error (.limit limit) ∧ limit.ShownIn search.toList)
    ∧ ∀ text, Promised reader (.text text) source ↔ Promised reader (.bytes (Text.Utf8.encode text)) source := by
  refine ⟨promised_iff_forall_not_firstLimit, fun definitions index search limit hread hfirst => ?_,
    fun text => ?_⟩
  · obtain ⟨-, -, -, -, -, -, -, hpattern⟩ := id hfirst
    exact ⟨outcome_of_firstLimit hread hfirst source, Pattern.shownIn_of_compile hpattern⟩
  · rw [promised_iff_forall_not_firstLimit, promised_iff_forall_not_firstLimit, Data.encoded, Data.encoded]

/-- A document with one rule, whose search stands in it as it is written. -/
def searchText (search : String) : String :=
  "\x7b\"version\": 1, \"rules\": [\x7b\"search\": \"" ++ search ++ "\", \"replace\": \"b\"\x7d]\x7d"

/-- The promise is kept for a search that is no pattern.  For a count that is too large it is broken, and
the count is there to be seen. -/
theorem promised_unclosedGroup :
    Promised .standard (.text (searchText "(")) none
      ∧ ¬ Promised .standard (.text (searchText "a\x7b4294967295\x7d")) none
      ∧ Pattern.Limit.repetitionTooLarge.ShownIn "a\x7b4294967295\x7d".toList := by
  have hrejected : outcome .standard (.text (searchText "(")) none
      = .error (.rejected ⟨.invalidPattern "(" ⟨.unterminatedSubpattern, some 0⟩, none, some 0⟩) := by
    decide +kernel
  have hread : Reader.standard.read (Text.Utf8.encode (searchText "a\x7b4294967295\x7d"))
      = .ok ⟨some 1, [{ search := some "a\x7b4294967295\x7d", replace := some "b" }]⟩ := by
    decide +kernel
  have hfirst : FirstLimit [{ search := some "a\x7b4294967295\x7d", replace := some "b" }] 0
      "a\x7b4294967295\x7d" .repetitionTooLarge :=
    ⟨[], _, [], rfl, rfl, by simp, ⟨rfl, by decide⟩, by decide +kernel⟩
  obtain ⟨hkept, hmet, -⟩ := promised_iff .standard (.text (searchText "(")) none
  obtain ⟨hkept', hmet', -⟩ :=
    promised_iff .standard (.text (searchText "a\x7b4294967295\x7d")) none
  refine ⟨hkept.mpr fun definitions index search limit hread hfirst => ?_,
    fun hpromised => hkept'.mp hpromised _ _ _ _ hread hfirst, (hmet' _ _ _ _ hread hfirst).2⟩
  have hlimit := (hmet definitions index search limit hread hfirst).1
  rw [hrejected] at hlimit
  cases hlimit

/-- The promise is broken by a count that is too large, by an escape for a code that is, and by flags that
exclude each other. -/
theorem not_promised_beyondLimits :
    (outcome .standard (.text (searchText "a\x7b4294967295\x7d")) none
        = .error (.limit .repetitionTooLarge)
      ∧ outcome .standard (.text (searchText "\\\\U80000000")) none = .error (.limit .codeTooLarge)
      ∧ outcome .standard (.text (searchText "(?a)(?u)b")) none = .error (.limit .clashingTypeFlags))
    ∧ ¬ ∀ data source, Promised .standard data source := by
  have hcount : outcome .standard (.text (searchText "a\x7b4294967295\x7d")) none
      = .error (.limit .repetitionTooLarge) := by decide +kernel
  refine ⟨⟨hcount, by decide +kernel, by decide +kernel⟩, fun hall => ?_⟩
  rcases (hall (.text (searchText "a\x7b4294967295\x7d")) none).answered
    with ⟨store, hstore⟩ | ⟨rejection, hrejected, -⟩
  · rw [hcount] at hstore
    cases hstore
  · rw [hcount] at hrejected
    cases hrejected

end Redaction.Policy
