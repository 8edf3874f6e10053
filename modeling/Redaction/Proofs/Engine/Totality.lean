import Redaction.Proofs.Engine.Grouping
import Redaction.Proofs.Engine.Mirror
import Redaction.Proofs.Policy.Outcome
import Redaction.Proofs.Template.Substitution

/-!
# Redaction never fails

Whatever can be wrong with a policy is found while it is loaded; redaction itself is total.  That is a
statement about an engine that *could* fail, so the engine is written down once more, with a substitution
that may fail wherever a rule is applied (`Engine.tryRedact`): the replacement is read anew for each
message, and each match is asked for the groups that the replacement names.

* `Rule.Readable` — the replacement of the rule can be read for its pattern, and is its template.  It
  holds for all rules of a loaded policy: `readable_of_loaded`.
* `Engine.tryRedact_eq` — on readable rules no failure happens, from substitution up through handles,
  groups, and the engine, and the result is that of the engine without failures.
* **`tryRedact_of_loaded`** — both together, for every document, every cache and every message, and the
  trial of a single rule, which is all that is tried when a policy is loaded.
-/

namespace Redaction

open Pattern (Refusal)

/-! ## An engine that can fail -/

/-- Applies the rule of a handle to a text if it matches there, reading its replacement on the way. -/
def Handle.tryRedact (handle : Handle) (text : String) : Except Refusal (String × Handle) :=
  let (found, handle) := (handle.reset text).find
  if found then do
    let text ← handle.rule.pattern.substitute handle.rule.replacement handle.input
    return (text, { handle with matchCount := handle.matchCount + 1 }.reset text)
  else return (text, handle)

/-- Applies rules in order, up to the first failure. -/
def tryRedactHandles (text : String) : List Handle → Except Refusal (String × List Handle)
  | [] => return (text, [])
  | handle :: rest => do
    let (text, handle) ← handle.tryRedact text
    let (text, rest) ← tryRedactHandles text rest
    return (text, handle :: rest)

/-- Applies the rules of a group if its trigger occurs in the text. -/
def HandleGroup.tryRedact (group : HandleGroup) (text : String) :
    Except Refusal (String × HandleGroup) :=
  if Text.occursIn group.trigger text then do
    let (text, handles) ← tryRedactHandles text group.handles
    return (text, { group with handles })
  else return (text, group)

/-- Applies groups in order, up to the first failure. -/
def tryRedactGroups (text : String) : List HandleGroup → Except Refusal (String × List HandleGroup)
  | [] => return (text, [])
  | group :: rest => do
    let (text, group) ← group.tryRedact text
    let (text, rest) ← tryRedactGroups text rest
    return (text, group :: rest)

/-- Redacts a text with a cache, up to the first failure. -/
def Engine.tryRedact (engine : Engine) (cache : Cache) (text : String) :
    Except Refusal (String × Cache) :=
  if engine.store.isEmpty then return (text, cache)
  else do
    let (text, groups) ← tryRedactGroups text cache.groups
    return (text, { cache with groups })

/-! ## Rules whose replacement can be read -/

/-- The replacement of a rule is read as its template. -/
def Rule.Readable (rule : Rule) : Prop :=
  Template.parse rule.pattern rule.replacement = .ok rule.template

lemma Handle.tryRedact_eq {handle : Handle} (h : handle.rule.Readable) (text : String) :
    handle.tryRedact text = .ok (handle.redact text) := by
  simp only [tryRedact, Handle.redact, find_rule, reset_rule]
  by_cases hfound : (handle.reset text).find.1 = true
  · rw [if_pos hfound, if_pos hfound, Pattern.substitute_eq h]
    rfl
  · rw [if_neg hfound, if_neg hfound]
    rfl

lemma tryRedactHandles_eq {handles : List Handle} (h : ∀ handle ∈ handles, handle.rule.Readable)
    (text : String) : tryRedactHandles text handles = .ok (redactHandles text handles) := by
  induction handles generalizing text with
  | nil => rfl
  | cons handle rest ih =>
      obtain ⟨hhandle, hrest⟩ := List.forall_mem_cons.mp h
      rw [tryRedactHandles, Handle.tryRedact_eq hhandle]
      simp only [bind, Except.bind, ih hrest]
      rfl

lemma HandleGroup.tryRedact_eq {group : HandleGroup}
    (h : ∀ handle ∈ group.handles, handle.rule.Readable) (text : String) :
    group.tryRedact text = .ok (group.redact text) := by
  rw [HandleGroup.tryRedact, HandleGroup.redact_eq, tryRedactHandles_eq h]
  split <;> rfl

lemma tryRedactGroups_eq {groups : List HandleGroup}
    (h : ∀ group ∈ groups, ∀ handle ∈ group.handles, handle.rule.Readable) (text : String) :
    tryRedactGroups text groups = .ok (redactGroups text groups) := by
  induction groups generalizing text with
  | nil => rfl
  | cons group rest ih =>
      obtain ⟨hgroup, hrest⟩ := List.forall_mem_cons.mp h
      rw [tryRedactGroups, HandleGroup.tryRedact_eq hgroup]
      simp only [bind, Except.bind, ih hrest]
      rfl

/-- On readable rules an engine does not fail, whatever state its cache is in. -/
theorem Engine.tryRedact_eq {engine : Engine} {cache : Cache} (hshape : cache.Mirrors engine.store)
    (h : ∀ group ∈ engine.store.groups, ∀ rule ∈ group.rules, rule.Readable) (text : String) :
    engine.tryRedact cache text = .ok (engine.redact cache text) := by
  have hhandles : ∀ group ∈ cache.groups, ∀ handle ∈ group.handles, handle.rule.Readable := by
    intro group hgroup handle hhandle
    have hsource : group.source ∈ engine.store.groups := by
      rw [← show cache.groups.map HandleGroup.source = engine.store.groups from hshape]
      exact List.mem_map_of_mem hgroup
    exact h group.source hsource handle.rule (List.mem_map_of_mem hhandle)
  rw [Engine.tryRedact, Engine.redact, tryRedactGroups_eq hhandles]
  split <;> rfl

/-! ## Rules of a loaded policy -/

lemma Policy.RuleDefinition.Compiles.readable {definition : RuleDefinition} {rule : Rule}
    (h : definition.Compiles rule) : rule.Readable :=
  h.template

/-- Every rule of a loaded policy is readable. -/
lemma Policy.readable_of_loaded {reader : Reader} {data : Data} {source : Option String} {store : RuleStore}
    (h : outcome reader data source = .ok store) :
    ∀ group ∈ store.groups, ∀ rule ∈ group.rules, rule.Readable := by
  rcases outcome_ok_cases h with rfl | ⟨definitions, rules, -, hcompiles, rfl⟩
  · intro group hgroup
    cases hgroup
  · intro group hgroup rule hrule
    rw [RuleStore.ofRules_groups] at hgroup
    obtain ⟨trigger, -, rfl⟩ := List.mem_map.mp hgroup
    have hmem : rule ∈ rules := (List.mem_filter.mp hrule).1
    obtain ⟨definition, -, hcompiled⟩ := exists_compiles_of_mem hcompiles hmem
    exact hcompiled.readable

/-! ## The result -/

/-- **Redaction is total on loaded policies.**  For every document that is accepted, every cache of the
engine, and every message, the engine that can fail does not, and returns what the engine without failures
returns.

It rests on what holds of every rule that is accepted on its own: the trial on the empty text succeeds,
every reference of its template is to a group of its pattern, every match in every text can be expanded,
and a group that took no part in it gives nothing.  And the trial tells all of this: if it succeeds, so
does substitution on every other text. -/
theorem tryRedact_of_loaded :
    (∀ reader data source store, Policy.outcome reader data source = .ok store →
      ∀ identity cache message, cache.Mirrors store →
        (Engine.mk identity store).tryRedact cache message
          = .ok ((Engine.mk identity store).redact cache message))
    ∧ (∀ definition rule, Policy.compileRule definition = .ok rule →
        (∃ result, rule.pattern.substitute rule.replacement "" = .ok result)
        ∧ (∀ group, .group group ∈ rule.template.pieces → group ≤ rule.pattern.groupCount)
        ∧ (∀ text, rule.pattern.substitute rule.replacement text = .ok (rule.apply text))
        ∧ ∀ text, ∀ found ∈ rule.pattern.matches text,
            rule.template.tryExpand text found = .ok (rule.template.expand text found)
            ∧ ∀ group, .group group ∈ rule.template.pieces → group ≠ 0 →
                found.marks[group]?.bind Pattern.Mark.extent? = none →
                (Template.Piece.group group).tryExpand text found = .ok [])
    ∧ ∀ (pattern : Pattern) replacement result, pattern.substitute replacement "" = .ok result →
        ∀ text, ∃ result, pattern.substitute replacement text = .ok result := by
  refine ⟨fun reader data source store hload identity cache message hshape => ?_,
    fun definition rule h => ?_, fun pattern replacement result htrial text => ?_⟩
  · exact Engine.tryRedact_eq hshape (Policy.readable_of_loaded hload) message
  · have hread : rule.Readable := (Policy.compileRule_eq_ok_iff.mp h).readable
    have hwithin := Template.within_of_parse hread
    refine ⟨⟨_, Pattern.substitute_eq hread ""⟩, fun group hgroup => hwithin _ hgroup,
      Pattern.substitute_eq hread, fun text found hfound => ⟨?_, ?_⟩⟩
    · exact Template.tryExpand_eq hread hfound
    · intro group hgroup hne hnone
      rw [Template.Piece.tryExpand_eq (hwithin _ hgroup) (Pattern.marks_size_of_mem_matches hfound),
        Template.Piece.expand_group_eq_nil hne hnone]
  · obtain ⟨template, hparse⟩ := Pattern.substitute_of_trial htrial
    exact ⟨_, Pattern.substitute_eq hparse text⟩

/-- A rule whose replacement names a group that takes no part in some of the matches. -/
def quotedLetter : Policy.RuleDefinition :=
  { search := some "(?P<k>a)|b", replace := some "<\\g<k>>\\1\\g<0>" }

/-- A document with this rule. -/
def quotedLetterText : String :=
  "\x7b\"version\": 1, \"rules\": [\x7b\"search\": \"(?P<k>a)|b\", "
    ++ "\"replace\": \"<\\\\g<k>>\\\\1\\\\g<0>\"\x7d]\x7d"

/-- The store of this document. -/
def quotedLetterStore : RuleStore :=
  (Policy.outcome .standard (.text quotedLetterText) none).toOption.getD .empty

/-- The letter `b` is matched without the group. -/
theorem tryRedact_quotedLetter :
    Policy.outcome .standard (.text quotedLetterText) none = .ok quotedLetterStore
      ∧ ((Engine.mk 0 quotedLetterStore).tryRedact (.ofStore quotedLetterStore "main") "ab").map (·.1)
        = .ok "<a>aa<>b"
      ∧ ∃ rule, Policy.compileRule quotedLetter = .ok rule
        ∧ rule.pattern.substitute rule.replacement "ab" = .ok (rule.apply "ab") := by
  have hok : (Policy.outcome .standard (.text quotedLetterText) none).isOk := by decide +kernel
  have hload : Policy.outcome .standard (.text quotedLetterText) none = .ok quotedLetterStore :=
    eq_ok_of_isOk hok RuleStore.empty
  have htext : ((Engine.mk 0 quotedLetterStore).redact (.ofStore quotedLetterStore "main") "ab").1
      = "<a>aa<>b" := by decide +kernel
  have hpasses : quotedLetter.Passes := by decide +kernel
  obtain ⟨rule, hcompiles⟩ := hpasses
  have hrule := Policy.compileRule_eq_ok_iff.mpr hcompiles
  refine ⟨hload, ?_, rule, hrule, (tryRedact_of_loaded.2.1 quotedLetter rule hrule).2.2.1 "ab"⟩
  rw [tryRedact_of_loaded.1 _ _ none quotedLetterStore hload 0 _ "ab" (Cache.ofStore_mirrors _ _)]
  exact congrArg Except.ok htext

end Redaction
