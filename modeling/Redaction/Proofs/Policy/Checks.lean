import Redaction.Policy.Loader
import Mathlib.Tactic.Lemma

/-!
# What a rule has to pass

`compileRule` checks a rule definition in a fixed order, and a check that fails hides all later ones.
This file says what the checks are *about*, without an order of evaluation: which definitions compile, to
which rule, and which defect a definition has if it does not.

* `RuleDefinition.Compiles` — a definition together with the rule it means.
* `RuleDefinition.Defective` — the defect of a definition.  Each constructor lists the checks that were
  passed before the one that fails, so a definition has at most one defect.
* **`compileRule_eq_ok_iff`**, **`compileRule_eq_defect_iff`** — `compileRule` decides both.

There is a third way out: a pattern may be well formed and beyond a limit of the matcher
(`Pattern.Limit`).  Such a definition neither compiles nor has a defect.
-/

namespace Redaction.Policy

/-! ## Texts that are there -/

lemma nonEmpty?_eq_some_iff {text : Option String} {t : String} :
    nonEmpty? text = some t ↔ text = some t ∧ t ≠ "" := by
  cases text with
  | none => simp [nonEmpty?]
  | some s =>
      simp only [nonEmpty?, String.isEmpty_iff, Option.some.injEq]
      by_cases h : s = ""
      · rw [if_pos h]
        exact ⟨fun hnone => absurd hnone (by simp), fun ⟨heq, hne⟩ => absurd (heq ▸ h) hne⟩
      · rw [if_neg h, Option.some.injEq]
        exact ⟨fun heq => ⟨heq, heq ▸ h⟩, fun ⟨heq, _⟩ => heq⟩

lemma nonEmpty?_eq_none_iff {text : Option String} :
    nonEmpty? text = none ↔ text = none ∨ text = some "" := by
  cases text with
  | none => simp [nonEmpty?]
  | some s => simp [nonEmpty?]

/-! ## Definitions that compile, and defects -/

/-- A definition compiles to a rule: its search is there and is a pattern, and its replacement is there
and is a template for the groups of this pattern. -/
structure RuleDefinition.Compiles (definition : RuleDefinition) (rule : Rule) : Prop where
  search : ∃ search, definition.search = some search ∧ search ≠ ""
    ∧ Pattern.compile search = .ok rule.pattern
  replace : definition.replace = some rule.replacement ∧ rule.replacement ≠ ""
  template : Template.parse rule.pattern rule.replacement = .ok rule.template
  trigger : rule.trigger = definition.trigger.getD defaultTrigger
  description : rule.description = definition.description

/-- A definition passes all checks. -/
def RuleDefinition.Passes (definition : RuleDefinition) : Prop :=
  ∃ rule, definition.Compiles rule

/-- The defect of a definition: the first check that it does not pass. -/
inductive RuleDefinition.Defective (definition : RuleDefinition) : Defect → Prop
  /-- There is no search, or it is empty. -/
  | emptySearch (hsearch : definition.search = none ∨ definition.search = some "") :
      Defective definition .emptySearch
  /-- The search is no pattern. -/
  | invalidPattern {search : String} {fault : Pattern.Fault}
      (hsearch : definition.search = some search ∧ search ≠ "")
      (hpattern : Pattern.compile search = .error (.fault fault)) :
      Defective definition (.invalidPattern search fault)
  /-- The search is a pattern, and there is no replacement, or it is empty. -/
  | emptyReplacement {search : String} {pattern : Pattern}
      (hsearch : definition.search = some search ∧ search ≠ "")
      (hpattern : Pattern.compile search = .ok pattern)
      (hreplace : definition.replace = none ∨ definition.replace = some "") :
      Defective definition .emptyReplacement
  /-- The search is a pattern, and the replacement is no template for it. -/
  | invalidReplacement {search replacement : String} {pattern : Pattern} {fault : Pattern.Fault}
      (hsearch : definition.search = some search ∧ search ≠ "")
      (hpattern : Pattern.compile search = .ok pattern)
      (hreplace : definition.replace = some replacement ∧ replacement ≠ "")
      (htemplate : Template.parse pattern replacement = .error (.fault fault)) :
      Defective definition (.invalidReplacement replacement fault)

/-! ## What `compileRule` decides -/

/-- The checks in the order in which they are made. -/
lemma compileRule_eq (definition : RuleDefinition) :
    compileRule definition
      = match nonEmpty? definition.search with
        | none => .error (.inl .emptySearch)
        | some search =>
          match Pattern.compile search with
          | .error (.fault fault) => .error (.inl (.invalidPattern search fault))
          | .error (.limit limit) => .error (.inr limit)
          | .ok pattern =>
            match nonEmpty? definition.replace with
            | none => .error (.inl .emptyReplacement)
            | some replacement =>
              match Template.parse pattern replacement with
              | .error (.fault fault) => .error (.inl (.invalidReplacement replacement fault))
              | .error (.limit limit) => .error (.inr limit)
              | .ok template =>
                .ok ⟨definition.description, definition.trigger.getD defaultTrigger, pattern,
                  replacement, template⟩ := by
  rw [compileRule]
  cases nonEmpty? definition.search with
  | none => rfl
  | some search =>
      simp only
      rcases Pattern.compile search with (fault | limit) | pattern
      · rfl
      · rfl
      · cases nonEmpty? definition.replace with
        | none => rfl
        | some replacement =>
            simp only [accepted, bind, Except.bind]
            rcases Template.parse pattern replacement with (fault | limit) | template <;> rfl

theorem compileRule_eq_ok_iff {definition : RuleDefinition} {rule : Rule} :
    compileRule definition = .ok rule ↔ definition.Compiles rule := by
  constructor
  · intro h
    rw [compileRule_eq] at h
    cases hsearch : nonEmpty? definition.search with
    | none => simp [hsearch] at h
    | some search =>
        rcases hpattern : Pattern.compile search with (fault | limit) | pattern
        · simp [hsearch, hpattern] at h
        · simp [hsearch, hpattern] at h
        · cases hreplace : nonEmpty? definition.replace with
          | none => simp [hsearch, hpattern, hreplace] at h
          | some replacement =>
              rcases htemplate : Template.parse pattern replacement with (fault | limit) | template
              · simp [hsearch, hpattern, hreplace, htemplate] at h
              · simp [hsearch, hpattern, hreplace, htemplate] at h
              · simp only [hsearch, hpattern, hreplace, htemplate, Except.ok.injEq] at h
                subst h
                have hs := nonEmpty?_eq_some_iff.mp hsearch
                exact ⟨⟨search, hs.1, hs.2, hpattern⟩, nonEmpty?_eq_some_iff.mp hreplace, htemplate,
                  rfl, rfl⟩
  · rintro ⟨⟨search, hsearch, hne, hpattern⟩, hreplace, htemplate, htrigger, hdescription⟩
    rw [compileRule_eq]
    simp only [nonEmpty?_eq_some_iff.mpr ⟨hsearch, hne⟩, hpattern,
      nonEmpty?_eq_some_iff.mpr hreplace, htemplate, ← htrigger, ← hdescription]

theorem compileRule_eq_defect_iff {definition : RuleDefinition} {defect : Defect} :
    compileRule definition = .error (.inl defect) ↔ definition.Defective defect := by
  constructor
  · intro h
    rw [compileRule_eq] at h
    cases hsearch : nonEmpty? definition.search with
    | none =>
        simp only [hsearch, Except.error.injEq, Sum.inl.injEq] at h
        subst h
        exact .emptySearch (nonEmpty?_eq_none_iff.mp hsearch)
    | some search =>
        rcases hpattern : Pattern.compile search with (fault | limit) | pattern
        · simp only [hsearch, hpattern, Except.error.injEq, Sum.inl.injEq] at h
          subst h
          exact .invalidPattern (nonEmpty?_eq_some_iff.mp hsearch) hpattern
        · simp [hsearch, hpattern] at h
        · cases hreplace : nonEmpty? definition.replace with
          | none =>
              simp only [hsearch, hpattern, hreplace, Except.error.injEq, Sum.inl.injEq] at h
              subst h
              exact .emptyReplacement (nonEmpty?_eq_some_iff.mp hsearch) hpattern
                (nonEmpty?_eq_none_iff.mp hreplace)
          | some replacement =>
              rcases htemplate : Template.parse pattern replacement with (fault | limit) | template
              · simp only [hsearch, hpattern, hreplace, htemplate, Except.error.injEq,
                  Sum.inl.injEq] at h
                subst h
                exact .invalidReplacement (nonEmpty?_eq_some_iff.mp hsearch) hpattern
                  (nonEmpty?_eq_some_iff.mp hreplace) htemplate
              · simp [hsearch, hpattern, hreplace, htemplate] at h
              · simp [hsearch, hpattern, hreplace, htemplate] at h
  · intro h
    rw [compileRule_eq]
    cases h with
    | emptySearch hsearch => simp only [nonEmpty?_eq_none_iff.mpr hsearch]
    | invalidPattern hsearch hpattern => simp only [nonEmpty?_eq_some_iff.mpr hsearch, hpattern]
    | emptyReplacement hsearch hpattern hreplace =>
        simp only [nonEmpty?_eq_some_iff.mpr hsearch, hpattern, nonEmpty?_eq_none_iff.mpr hreplace]
    | invalidReplacement hsearch hpattern hreplace htemplate =>
        simp only [nonEmpty?_eq_some_iff.mpr hsearch, hpattern, nonEmpty?_eq_some_iff.mpr hreplace,
          htemplate]

/-! ## Both can be computed -/

lemma RuleDefinition.passes_iff {definition : RuleDefinition} :
    definition.Passes ↔ (compileRule definition).isOk := by
  simp only [Passes, ← compileRule_eq_ok_iff]
  cases compileRule definition <;> simp [Except.isOk, Except.toBool]

instance (definition : RuleDefinition) : Decidable definition.Passes :=
  decidable_of_iff _ RuleDefinition.passes_iff.symm

/-- The defect of a definition, if it has one. -/
def RuleDefinition.defect? (definition : RuleDefinition) : Option Defect :=
  match compileRule definition with
  | .error (.inl defect) => some defect
  | _ => none

lemma RuleDefinition.defect?_eq_some_iff {definition : RuleDefinition} {defect : Defect} :
    definition.defect? = some defect ↔ definition.Defective defect := by
  rw [← compileRule_eq_defect_iff, defect?]
  rcases compileRule definition with (found | limit) | rule <;> simp

instance (definition : RuleDefinition) (defect : Defect) : Decidable (definition.Defective defect) :=
  decidable_of_iff _ RuleDefinition.defect?_eq_some_iff

end Redaction.Policy
