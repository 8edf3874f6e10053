import Redaction.Proofs.Effects
import Redaction.Proofs.Policy.Checks
import Redaction.Proofs.Text.Utf8
import Mathlib.Data.List.Forall2

/-!
# What comes of a policy document

Loading stops at the first thing that is wrong, and reports events on the way.  Here the events are put
aside (`outcome`), and what is left is a function of the document: the document's shape is looked at
first, then its version, then its rules one by one.  What is said of a document is said for every library
that reads documents.

* `compileAll` — compiling all definitions, without events; the error says which one failed and why.
* `FirstDefect` — a list of definitions has a defect at an index, and all before it pass.
* `outcome_eq` — the outcome of loading, with `compileAll` in the place of the loop.
* **`outcome_decides`** — which outcome a document has, for every document: in particular the error of
  the *first* defective rule, with its index, and nothing that any later rule could change.
-/

namespace Redaction.Policy

/-- What loading a policy gives, its events put aside. -/
def outcome (reader : Reader) (data : Data) (source : Option String) : Except Failure RuleStore :=
  (load reader data source).run.1

variable {reader : Reader} {data : Data}

/-! ## All rules -/

/-- Compiles definitions in order, the first of which has index `index`, up to the first that does not
compile. -/
def compileAll (index : Nat) :
    List RuleDefinition → Except (Nat × (Defect ⊕ Pattern.Limit)) (List Rule)
  | [] => .ok []
  | definition :: rest =>
    match compileRule definition with
    | .ok rule => (compileAll (index + 1) rest).map (rule :: ·)
    | .error reason => .error (index, reason)

/-- The failure that a definition at an index causes. -/
def failureAt (source : Option String) : Nat × (Defect ⊕ Pattern.Limit) → Failure
  | (index, .inl defect) => .rejected ⟨defect, source, some index⟩
  | (_, .inr limit) => .limit limit

lemma exec_report (event : Event) (events : List Event) :
    exec (Logged.report event : Logged Failure Unit) events = (.ok (), events ++ [event]) := rfl

/-- The loop does what `compileAll` does, whatever was reported before it. -/
lemma exec_compileRules (source : Option String) (index : Nat) (definitions : List RuleDefinition)
    (events : List Event) :
    (exec (compileRules source index definitions) events).1
      = (compileAll index definitions).mapError (failureAt source) := by
  induction definitions generalizing index events with
  | nil => rfl
  | cons definition rest ih =>
      rw [compileRules, compileAll]
      rcases compileRule definition with (defect | limit) | rule
      · rfl
      · rfl
      · simp only
        rw [exec_bind_ok (exec_report _ events), exec_bind_fst fun _ _ => rfl, ih]
        cases compileAll (index + 1) rest <;> rfl

/-- All definitions compile if and only if each of them does, and then to these rules. -/
lemma compileAll_eq_ok_iff {index : Nat} {definitions : List RuleDefinition} {rules : List Rule} :
    compileAll index definitions = .ok rules ↔
      List.Forall₂ RuleDefinition.Compiles definitions rules := by
  induction definitions generalizing index rules with
  | nil => simp [compileAll, eq_comm]
  | cons definition rest ih =>
      rw [List.forall₂_cons_left_iff, compileAll]
      cases hrule : compileRule definition with
      | error reason =>
          have hnot : ∀ rule, ¬ definition.Compiles rule := fun rule hcompiles => by
            simp [compileRule_eq_ok_iff.mpr hcompiles] at hrule
          simp [hnot]
      | ok rule =>
          have hcompiles := compileRule_eq_ok_iff.mp hrule
          constructor
          · intro h
            cases hrest : compileAll (index + 1) rest with
            | error failure => simp [hrest, Except.map] at h
            | ok others =>
                simp only [hrest, Except.map, Except.ok.injEq] at h
                exact ⟨rule, others, hcompiles, ih.mp hrest, h.symm⟩
          · rintro ⟨first, others, hfirst, hothers, rfl⟩
            have hsame : rule = first :=
              Except.ok.inj (hrule.symm.trans (compileRule_eq_ok_iff.mpr hfirst))
            simp [ih.mpr hothers, Except.map, hsame]

lemma exists_compileAll_iff {index : Nat} {definitions : List RuleDefinition} :
    (∃ rules, compileAll index definitions = .ok rules) ↔ ∀ d ∈ definitions, d.Passes := by
  simp only [compileAll_eq_ok_iff]
  induction definitions with
  | nil => simp
  | cons definition rest ih =>
      rw [List.forall_mem_cons, ← ih]
      constructor
      · rintro ⟨rules, hrules⟩
        obtain ⟨rule, others, hfirst, hothers, -⟩ := List.forall₂_cons_left_iff.mp hrules
        exact ⟨⟨rule, hfirst⟩, ⟨others, hothers⟩⟩
      · rintro ⟨⟨rule, hfirst⟩, rules, hrest⟩
        exact ⟨rule :: rules, .cons hfirst hrest⟩

/-- Each compiled rule has a definition. -/
lemma exists_compiles_of_mem {definitions : List RuleDefinition} {rules : List Rule}
    (h : List.Forall₂ RuleDefinition.Compiles definitions rules) {rule : Rule} (hmem : rule ∈ rules) :
    ∃ definition ∈ definitions, definition.Compiles rule := by
  induction h with
  | nil => cases hmem
  | cons hfirst _ ih =>
      rcases List.mem_cons.mp hmem with rfl | hlater
      · exact ⟨_, List.mem_cons_self, hfirst⟩
      · obtain ⟨definition, hdefinition, hcompiles⟩ := ih hlater
        exact ⟨definition, List.mem_cons_of_mem _ hdefinition, hcompiles⟩

/-- **Compiling stops at the first definition that does not compile**, for the reason that this one has. -/
lemma compileAll_eq_error_iff {start place : Nat} {definitions : List RuleDefinition}
    {reason : Defect ⊕ Pattern.Limit} :
    compileAll start definitions = .error (place, reason) ↔
      ∃ before definition after, definitions = before ++ definition :: after
        ∧ place = start + before.length ∧ (∀ d ∈ before, d.Passes)
        ∧ compileRule definition = .error reason := by
  induction definitions generalizing start with
  | nil => simp [compileAll]
  | cons definition rest ih =>
      rw [compileAll]
      cases hrule : compileRule definition with
      | error found =>
          have hnot : ¬ definition.Passes := by
            rintro ⟨rule, hcompiles⟩
            simp [compileRule_eq_ok_iff.mpr hcompiles] at hrule
          constructor
          · intro h
            cases h
            exact ⟨[], definition, rest, rfl, rfl, by simp, hrule⟩
          · rintro ⟨before, d, after, hsplit, rfl, hbefore, hreason⟩
            cases before with
            | nil =>
                obtain ⟨rfl, rfl⟩ := List.cons.inj hsplit
                rw [hrule] at hreason
                cases hreason
                rfl
            | cons first others =>
                obtain ⟨rfl, -⟩ := List.cons.inj hsplit
                exact absurd (hbefore _ List.mem_cons_self) hnot
      | ok rule =>
          have hpasses : definition.Passes := ⟨rule, compileRule_eq_ok_iff.mp hrule⟩
          have hmap : (compileAll (start + 1) rest).map (rule :: ·) = .error (place, reason)
              ↔ compileAll (start + 1) rest = .error (place, reason) := by
            cases compileAll (start + 1) rest <;> simp [Except.map]
          simp only [hmap, ih]
          constructor
          · rintro ⟨before, d, after, rfl, rfl, hbefore, hreason⟩
            exact ⟨definition :: before, d, after, rfl, by simp only [List.length_cons]; omega,
              List.forall_mem_cons.mpr ⟨hpasses, hbefore⟩, hreason⟩
          · rintro ⟨before, d, after, hsplit, rfl, hbefore, hreason⟩
            cases before with
            | nil =>
                obtain ⟨rfl, rfl⟩ := List.cons.inj hsplit
                rw [hrule] at hreason
                cases hreason
            | cons first others =>
                obtain ⟨rfl, rfl⟩ := List.cons.inj hsplit
                exact ⟨others, d, after, rfl, by simp only [List.length_cons]; omega,
                  (List.forall_mem_cons.mp hbefore).2, hreason⟩

/-! ## The first defect -/

/-- The definition at an index has a defect, and all before it pass.  What comes after it does not
matter. -/
def FirstDefect (definitions : List RuleDefinition) (index : Nat) (defect : Defect) : Prop :=
  ∃ before definition after, definitions = before ++ definition :: after ∧ before.length = index
    ∧ (∀ d ∈ before, d.Passes) ∧ definition.Defective defect

/-- **Compiling stops at the first defect**, and at no other. -/
lemma compileAll_eq_defect_iff {start place : Nat} {definitions : List RuleDefinition}
    {defect : Defect} :
    compileAll start definitions = .error (place, .inl defect) ↔
      ∃ index, place = start + index ∧ FirstDefect definitions index defect := by
  rw [compileAll_eq_error_iff]
  simp only [compileRule_eq_defect_iff]
  constructor
  · rintro ⟨before, definition, after, hsplit, hplace, hbefore, hdefect⟩
    exact ⟨before.length, hplace, before, definition, after, hsplit, rfl, hbefore, hdefect⟩
  · rintro ⟨_, hplace, before, definition, after, hsplit, rfl, hbefore, hdefect⟩
    exact ⟨before, definition, after, hsplit, hplace, hbefore, hdefect⟩

/-! ## The outcome -/

/-- **The outcome of loading**, in the order in which things are looked at. -/
theorem outcome_eq (reader : Reader) (data : Data) (source : Option String) :
    outcome reader data source
      = if data.length = 0 then .ok .empty
        else
          match reader.read data.encoded with
          | .error finding => .error (.rejected ⟨.malformed (reader.complaint finding data), source, none⟩)
          | .ok ⟨none, _⟩ => .error (.rejected ⟨.missingVersion, source, none⟩)
          | .ok ⟨some version, definitions⟩ =>
            if version ≠ supportedVersion then
              .error (.rejected ⟨.unsupportedVersion version, source, none⟩)
            else
              ((compileAll 0 definitions).mapError (failureAt source)).map RuleStore.ofRules := by
  show (exec (load reader data source) []).1 = _
  rw [load]
  by_cases hempty : data.length = 0
  · simp only [hempty, if_true]
    rfl
  · simp only [hempty, if_false]
    rcases reader.read data.encoded with finding | ⟨version, definitions⟩
    · rfl
    · cases version with
      | none => rfl
      | some version =>
          simp only [store]
          by_cases hversion : version = supportedVersion
          · simp only [hversion, ne_eq, not_true_eq_false, if_false]
            rw [exec_bind_fst fun _ _ => rfl, exec_compileRules]
          · simp only [ne_eq, hversion, not_false_eq_true, if_true]
            rfl

/-- A document of no length has no bytes, and no other one has none. -/
lemma Data.encoded_eq_nil_iff {data : Data} : data.encoded = [] ↔ data.length = 0 := by
  cases data with
  | text text => rw [Data.encoded, Data.length, Text.Utf8.encode_eq_nil_iff, String.length_eq_zero_iff]
  | bytes bytes => rw [Data.encoded, Data.length, List.length_eq_zero_iff]

/-- What is read as a document is not empty. -/
lemma length_ne_zero_of_read_ok {document : Document} (h : reader.read data.encoded = .ok document) :
    data.length ≠ 0 := by
  intro hlength
  rw [Data.encoded_eq_nil_iff.mpr hlength] at h
  exact reader.read_nil document h

/-- With the right version, the rules decide. -/
lemma outcome_of_supported {definitions : List RuleDefinition}
    (h : reader.read data.encoded = .ok ⟨some supportedVersion, definitions⟩) (source : Option String) :
    outcome reader data source
      = ((compileAll 0 definitions).mapError (failureAt source)).map RuleStore.ofRules := by
  rw [outcome_eq, if_neg (length_ne_zero_of_read_ok h), h]
  simp only [ne_eq, not_true_eq_false, if_false]

/-- The rejections of a document with the right version are its first defect, at its index. -/
lemma outcome_eq_rejected_iff {definitions : List RuleDefinition}
    (h : reader.read data.encoded = .ok ⟨some supportedVersion, definitions⟩) (source : Option String)
    (rejection : Rejection) :
    outcome reader data source = .error (.rejected rejection) ↔
      rejection.source = source
        ∧ ∃ index, rejection.rule = some index ∧ FirstDefect definitions index rejection.defect := by
  rw [outcome_of_supported h]
  obtain ⟨defect, source', rule⟩ := rejection
  have hfirst : ∀ {index : Nat},
      compileAll 0 definitions = .error (index, .inl defect) ↔ FirstDefect definitions index defect :=
    fun {index} => by simp [compileAll_eq_defect_iff]
  constructor
  · intro hrejected
    rcases hall : compileAll 0 definitions with ⟨index, found | limit⟩ | rules
    · simp only [hall, Except.mapError, Except.map, failureAt, Except.error.injEq,
        Failure.rejected.injEq, Rejection.mk.injEq] at hrejected
      obtain ⟨rfl, rfl, rfl⟩ := hrejected
      exact ⟨rfl, index, rfl, hfirst.mp hall⟩
    · simp [hall, Except.mapError, Except.map, failureAt] at hrejected
    · simp [hall, Except.mapError, Except.map] at hrejected
  · rintro ⟨rfl, index, rfl, hdefect⟩
    rw [hfirst.mpr hdefect]
    rfl

/-- A store comes of a document with the right version if and only if all its rules pass. -/
lemma outcome_eq_ok_iff {definitions : List RuleDefinition}
    (h : reader.read data.encoded = .ok ⟨some supportedVersion, definitions⟩) (source : Option String)
    (store : RuleStore) :
    outcome reader data source = .ok store ↔
      ∃ rules, List.Forall₂ RuleDefinition.Compiles definitions rules ∧ store = .ofRules rules := by
  have hcompiles : ∀ rules, compileAll 0 definitions = .ok rules ↔
      List.Forall₂ RuleDefinition.Compiles definitions rules := fun _ => compileAll_eq_ok_iff
  rw [outcome_of_supported h]
  simp only [← hcompiles]
  rcases compileAll 0 definitions with failure | rules
  · simp [Except.mapError, Except.map]
  · simp [Except.mapError, Except.map, eq_comm]

/-- Where a store comes from: from the empty document, or from the compiled rules of a document with the
right version. -/
lemma outcome_ok_cases {source : Option String} {store : RuleStore}
    (h : outcome reader data source = .ok store) :
    store = .empty ∨ ∃ definitions rules,
      reader.read data.encoded = .ok ⟨some supportedVersion, definitions⟩
        ∧ List.Forall₂ RuleDefinition.Compiles definitions rules ∧ store = .ofRules rules := by
  by_cases hempty : data.length = 0
  · rw [outcome_eq, if_pos hempty] at h
    exact .inl (Except.ok.inj h).symm
  · rcases hread : reader.read data.encoded with finding | ⟨version, definitions⟩
    · rw [outcome_eq, if_neg hempty, hread] at h
      cases h
    · cases version with
      | none =>
          rw [outcome_eq, if_neg hempty, hread] at h
          cases h
      | some version =>
          by_cases hversion : version = supportedVersion
          · subst hversion
            obtain ⟨rules, hrules, hstore⟩ := (outcome_eq_ok_iff hread source store).mp h
            exact .inr ⟨definitions, rules, rfl, hrules, hstore⟩
          · simp only [outcome_eq, if_neg hempty, hread, ne_eq, hversion, not_false_eq_true,
              if_true] at h
            cases h

/-- Why a document is rejected: it is no document, its version is missing or not supported, or a rule of it has a
defect. -/
lemma outcome_rejected_cases {source : Option String} {rejection : Rejection}
    (h : outcome reader data source = .error (.rejected rejection)) :
    (∃ finding, rejection = ⟨.malformed (reader.complaint finding data), source, none⟩)
      ∨ rejection = ⟨.missingVersion, source, none⟩
      ∨ (∃ version, rejection = ⟨.unsupportedVersion version, source, none⟩)
      ∨ ∃ definitions index, reader.read data.encoded = .ok ⟨some supportedVersion, definitions⟩
        ∧ rejection.source = source ∧ rejection.rule = some index
        ∧ FirstDefect definitions index rejection.defect := by
  by_cases hempty : data.length = 0
  · rw [outcome_eq, if_pos hempty] at h
    cases h
  · rcases hread : reader.read data.encoded with finding | ⟨_ | version, definitions⟩
    · rw [outcome_eq, if_neg hempty, hread] at h
      exact .inl ⟨finding, (Failure.rejected.inj (Except.error.inj h)).symm⟩
    · rw [outcome_eq, if_neg hempty, hread] at h
      exact .inr (.inl (Failure.rejected.inj (Except.error.inj h)).symm)
    · by_cases hversion : version = supportedVersion
      · subst hversion
        obtain ⟨hsource, index, hindex, hfirst⟩ := (outcome_eq_rejected_iff hread source rejection).mp h
        exact .inr (.inr (.inr ⟨definitions, index, rfl, hsource, hindex, hfirst⟩))
      · simp only [outcome_eq, if_neg hempty, hread, ne_eq, hversion, not_false_eq_true, if_true] at h
        exact .inr (.inr (.inl ⟨version, (Failure.rejected.inj (Except.error.inj h)).symm⟩))

/-- A rejection carries the source that was given, whatever the document. -/
lemma source_of_rejected {source : Option String} {rejection : Rejection}
    (h : outcome reader data source = .error (.rejected rejection)) : rejection.source = source := by
  rcases outcome_rejected_cases h with ⟨_, rfl⟩ | rfl | ⟨_, rfl⟩ | ⟨_, _, -, hsource, -, -⟩
  · rfl
  · rfl
  · rfl
  · exact hsource

/-- **What loading decides**, for every document.  With the right version the first defect is reported,
with its index; there is a store exactly if all rules pass; and a first defect hides whatever stands
behind it, so that the outcome does not depend on it.  Before any rule is looked at, a document that is
not read, a missing version and a version that is not supported are reported in this order.  Only the
empty document needs no version. -/
theorem outcome_decides (reader : Reader) (data : Data) (source : Option String) :
    (∀ definitions, reader.read data.encoded = .ok ⟨some supportedVersion, definitions⟩ →
      (∀ rejection, outcome reader data source = .error (.rejected rejection) ↔
        rejection.source = source
          ∧ ∃ index, rejection.rule = some index ∧ FirstDefect definitions index rejection.defect)
      ∧ ((∃ store, outcome reader data source = .ok store) ↔ ∀ d ∈ definitions, d.Passes)
      ∧ ∀ before definition after later other, definitions = before ++ definition :: after →
          (∀ d ∈ before, d.Passes) → (∃ defect, definition.Defective defect) →
          reader.read other.encoded = .ok ⟨some supportedVersion, before ++ definition :: later⟩ →
          outcome reader other source = outcome reader data source)
    ∧ (∀ finding, data.length ≠ 0 → reader.read data.encoded = .error finding →
        outcome reader data source = .error (.rejected ⟨.malformed (reader.complaint finding data), source, none⟩))
    ∧ (∀ definitions, reader.read data.encoded = .ok ⟨none, definitions⟩ →
        outcome reader data source = .error (.rejected ⟨.missingVersion, source, none⟩))
    ∧ (∀ version definitions, reader.read data.encoded = .ok ⟨some version, definitions⟩ →
        version ≠ supportedVersion →
        outcome reader data source = .error (.rejected ⟨.unsupportedVersion version, source, none⟩))
    ∧ (data.length = 0 → outcome reader data source = .ok .empty)
    ∧ (∀ rejection, outcome reader data source = .error (.rejected rejection) →
        rejection.source = source) := by
  refine ⟨fun definitions hread => ⟨outcome_eq_rejected_iff hread source, ?_, ?_⟩, ?_, ?_, ?_, ?_, ?_⟩
  · rw [← exists_compileAll_iff, outcome_of_supported hread]
    rcases compileAll 0 definitions with failure | rules <;> simp [Except.mapError, Except.map]
  · rintro before definition after later other rfl hbefore ⟨defect, hdefect⟩ hother
    -- Both documents have this definition as their first defect, so both are rejected for it.
    have hfirst : ∀ rest, FirstDefect (before ++ definition :: rest) before.length defect :=
      fun rest => ⟨before, definition, rest, rfl, rfl, hbefore, hdefect⟩
    have hhere := (outcome_eq_rejected_iff hread source ⟨defect, source, some before.length⟩).mpr
      ⟨rfl, before.length, rfl, hfirst after⟩
    have hthere := (outcome_eq_rejected_iff hother source ⟨defect, source, some before.length⟩).mpr
      ⟨rfl, before.length, rfl, hfirst later⟩
    rw [hhere, hthere]
  · intro finding hempty hread
    rw [outcome_eq, if_neg hempty, hread]
  · intro definitions hread
    rw [outcome_eq, if_neg (length_ne_zero_of_read_ok hread), hread]
  · intro version definitions hread hversion
    rw [outcome_eq, if_neg (length_ne_zero_of_read_ok hread), hread]
    simp only [ne_eq, hversion, not_false_eq_true, if_true]
  · intro hempty
    rw [outcome_eq, if_pos hempty]
  · exact fun rejection => source_of_rejected

/-- The second of these rules lacks a replacement, and its search is no pattern: the search counts. -/
def twiceWrong : List RuleDefinition :=
  [{ search := some "a", replace := some "b" }, { search := some "(", replace := some "" }]

/-- A document with the two rules, and with text for more of them. -/
def twiceWrongText (more : String) : String :=
  "\x7b\"version\": 1, \"rules\": [\x7b\"search\": \"a\", \"replace\": \"b\"\x7d, "
    ++ "\x7b\"search\": \"(\", \"replace\": \"\"\x7d" ++ more ++ "]\x7d"

/-- The second rule is rejected for its search, and a third rule, which has no search at all, changes
nothing. -/
theorem outcome_twiceWrong :
    outcome .standard (.text (twiceWrongText "")) (some "p")
        = .error (.rejected ⟨.invalidPattern "(" ⟨.unterminatedSubpattern, some 0⟩, some "p", some 1⟩)
      ∧ outcome .standard (.text (twiceWrongText ", \x7b\"replace\": \"\\\\2\"\x7d")) (some "p")
        = outcome .standard (.text (twiceWrongText "")) (some "p") := by
  have hread : Reader.standard.read (Text.Utf8.encode (twiceWrongText "")) = .ok ⟨some 1, twiceWrong⟩ := by
    decide +kernel
  have hmore : Reader.standard.read
      (Text.Utf8.encode (twiceWrongText ", \x7b\"replace\": \"\\\\2\"\x7d"))
        = .ok ⟨some 1, twiceWrong ++ [{ replace := some "\\2" }]⟩ := by
    decide +kernel
  have hpasses : ∀ d ∈ twiceWrong.take 1, d.Passes := by decide +kernel
  have hdefect : (twiceWrong[1]).Defective
      (.invalidPattern "(" ⟨.unterminatedSubpattern, some 0⟩) := by decide +kernel
  obtain ⟨hrejected, -, hlater⟩ :=
    (outcome_decides .standard (.text (twiceWrongText "")) (some "p")).1 twiceWrong hread
  refine ⟨(hrejected _).mpr ⟨rfl, 1, rfl, ?_⟩, ?_⟩
  · exact ⟨twiceWrong.take 1, twiceWrong[1], [], rfl, rfl, hpasses, hdefect⟩
  · exact hlater (twiceWrong.take 1) twiceWrong[1] [] _ _ rfl hpasses ⟨_, hdefect⟩ hmore

/-- A rule with two things wrong, the first of which is beyond a limit. -/
def beyondLimit : RuleDefinition :=
  { search := some "a\x7b4294967295\x7d", replace := some "" }

/-- A text of the document with this rule only. -/
def beyondLimitText : String :=
  "\x7b\"version\": 1, \"rules\": [\x7b\"search\": \"a\x7b4294967295\x7d\", \"replace\": \"\"\x7d]\x7d"

/-- Not every text that cannot be read is rejected, since the empty one is accepted without being read.
And a missing replacement is not what is wrong with a rule whose pattern is beyond a limit: the
replacement is only looked at for a pattern that was compiled. -/
theorem not_outcome_of_unread :
    (Reader.standard.read [] = .error (.notJson ⟨.eofInValue, 1, 0⟩)
      ∧ outcome .standard (.bytes []) none = .ok .empty
      ∧ ¬ ∀ data source finding, Reader.standard.read data.encoded = .error finding →
          outcome .standard data source
            = .error (.rejected ⟨.malformed (Reader.standard.complaint finding data), source, none⟩))
    ∧ (Reader.standard.read (Text.Utf8.encode beyondLimitText) = .ok ⟨some 1, [beyondLimit]⟩
      ∧ outcome .standard (.text beyondLimitText) none = .error (.limit .repetitionTooLarge)) := by
  have hread : Reader.standard.read [] = .error (.notJson ⟨.eofInValue, 1, 0⟩) := by decide +kernel
  refine ⟨⟨hread, rfl, fun hall => ?_⟩, ?_⟩
  · have hempty := hall (.bytes []) none _ hread
    simp [outcome_eq, Data.length] at hempty
  · exact ⟨by decide +kernel, by decide +kernel⟩

end Redaction.Policy
