import Redaction.Proofs.Engine.Applications

/-!
# The audit trail of a redaction

The counts of a cache are all that is left to tell, after the fact, what a redaction has done.  Reading them
before and after one redaction tells everything: a handle counts once or not at all, it counts just if its
rule had something to do when its turn came, and the rules that counted, applied to the message in their
order, make the text that was returned.  All other rules may be left out.

* `RuleStore.entry`, `TriggerGroup.reached` — the texts on the way: the one in which the trigger of a group
  is looked up, and the one that a rule of the group gets.
* `redactHandles_getElem?`, `redactGroups_getElem?` — what becomes of a single handle, and of a single
  group, in terms of these texts.
* `Cache.risen` — the rules whose count went up from one state of a cache to another.
* `redactGroups_risen`, `applyAll_traceGroups` — they are the rules of the trace, and the rules of the trace
  are enough.
* **`redact_auditTrail`** — all of this for an engine, a message, and a cache in any state.
-/

namespace Redaction

/-! ## Texts on the way -/

/-- The text in which the trigger of a group is looked up: what the groups before it have left. -/
def RuleStore.entry (store : RuleStore) (message : String) (group : Nat) : String :=
  (store.groups.take group).foldl TriggerGroup.rewrite message

/-- The text that a rule of a group gets, if the trigger occurs: what the rules before it have left of the
text that the group was entered with. -/
def TriggerGroup.reached (group : TriggerGroup) (entry : String) (rule : Nat) : String :=
  Rule.applyAll (group.rules.take rule) entry

/-- The handle of a rule, by the place of its group and its own place in there. -/
def Cache.handleAt (cache : Cache) (group rule : Nat) : Option Handle :=
  (cache.groups[group]?).bind fun g => g.handles[rule]?

/-! ## What becomes of a single handle -/

lemma redactHandles_getElem? (text : String) (handles : List Handle) (i : Nat) :
    (redactHandles text handles).2[i]?
      = handles[i]?.map fun handle =>
          (handle.redact (Rule.applyAll ((handles.take i).map (·.rule)) text)).2 := by
  induction handles generalizing text i with
  | nil => rfl
  | cons handle rest ih =>
      rw [redactHandles_cons]
      cases i with
      | zero => rfl
      | succ i =>
          rw [List.getElem?_cons_succ, List.getElem?_cons_succ, ih, Handle.redact_text]
          rfl

lemma redactGroups_getElem? (text : String) (groups : List HandleGroup) (g : Nat) :
    (redactGroups text groups).2[g]?
      = groups[g]?.map fun group =>
          (group.redact (((groups.take g).map HandleGroup.source).foldl TriggerGroup.rewrite text)).2 := by
  induction groups generalizing text g with
  | nil => rfl
  | cons group rest ih =>
      rw [redactGroups_cons]
      cases g with
      | zero => rfl
      | succ g =>
          rw [List.getElem?_cons_succ, List.getElem?_cons_succ, ih, HandleGroup.redact_text]
          rfl

/-- A cache that mirrors a store has a group of handles in the place of each of its groups. -/
lemma Cache.Mirrors.getElem? {cache : Cache} {store : RuleStore} (h : cache.Mirrors store) {g : Nat}
    {group : TriggerGroup} (hgroup : store.groups[g]? = some group) :
    ∃ handles, cache.groups[g]? = some handles ∧ handles.source = group := by
  rw [← show cache.groups.map HandleGroup.source = store.groups from h, List.getElem?_map] at hgroup
  exact Option.map_eq_some_iff.mp hgroup

/-- **One handle.**  It counts once if the trigger of its group occurs where the group is entered and its
pattern matches what the rules before it have left; else it does not count, and where the trigger does not
occur it stays as it is. -/
lemma Cache.Mirrors.redact_handleAt {cache : Cache} {store : RuleStore} (h : cache.Mirrors store)
    (message : String) {g i : Nat} {group : TriggerGroup} {rule : Rule}
    (hgroup : store.groups[g]? = some group) (hrule : group.rules[i]? = some rule) :
    ∃ old new, cache.handleAt g i = some old ∧ (cache.redact message).2.handleAt g i = some new
      ∧ old.rule = rule
      ∧ new = if group.trigger.toList <:+: (store.entry message g).toList then
          (old.redact (group.reached (store.entry message g) i)).2
        else old := by
  obtain ⟨handles, hhandles, rfl⟩ := h.getElem? hgroup
  obtain ⟨old, hold, hsame⟩ : ∃ old, handles.handles[i]? = some old ∧ old.rule = rule := by
    rw [HandleGroup.source, List.getElem?_map] at hrule
    exact Option.map_eq_some_iff.mp hrule
  have hentry : ((cache.groups.take g).map HandleGroup.source).foldl TriggerGroup.rewrite message
      = store.entry message g := by
    rw [RuleStore.entry, List.map_take, show cache.groups.map HandleGroup.source = store.groups from h]
  have hafter : (cache.redact message).2.groups[g]?
      = some (handles.redact (store.entry message g)).2 := by
    rw [← hentry, Cache.redact, redactGroups_getElem?, hhandles]
    rfl
  have hoccurs : Text.occursIn handles.trigger (store.entry message g) = true ↔
      handles.source.trigger.toList <:+: (store.entry message g).toList := Text.occursIn_iff
  refine ⟨old, _, by rw [handleAt, hhandles]; exact hold, ?_, hsame, rfl⟩
  rw [handleAt, hafter, Option.bind_some, HandleGroup.redact_eq]
  by_cases htrigger : Text.occursIn handles.trigger (store.entry message g) = true
  · rw [if_pos htrigger, if_pos (hoccurs.mp htrigger)]
    simp only [redactHandles_getElem?, hold, Option.map_some]
    rw [TriggerGroup.reached, HandleGroup.source, List.map_take]
  · rw [if_neg htrigger, if_neg (mt hoccurs.mpr htrigger)]
    exact hold

/-! ## The rules that counted -/

/-- The rules of those handles whose count went up. -/
def risenAmong (before after : List Handle) : List Rule :=
  ((before.zip after).filter fun pair => pair.1.matchCount < pair.2.matchCount).map (·.1.rule)

/-- The rules whose count went up from one state of a cache to another, in the order of application. -/
def Cache.risen (before after : Cache) : List Rule :=
  risenAmong before.handles after.handles

lemma risenAmong_cons (old new : Handle) (before after : List Handle) :
    risenAmong (old :: before) (new :: after)
      = (if old.matchCount < new.matchCount then [old.rule] else []) ++ risenAmong before after := by
  by_cases h : old.matchCount < new.matchCount <;> simp [risenAmong, h]

lemma risenAmong_append {before after before' after' : List Handle} (h : before.length = after.length) :
    risenAmong (before ++ before') (after ++ after')
      = risenAmong before after ++ risenAmong before' after' := by
  rw [risenAmong, List.zip_append h, List.filter_append, List.map_append]
  rfl

lemma risenAmong_self (handles : List Handle) : risenAmong handles handles = [] := by
  induction handles with
  | nil => rfl
  | cons handle rest ih => simp [risenAmong_cons, ih]

lemma length_redactHandles (text : String) (handles : List Handle) :
    (redactHandles text handles).2.length = handles.length := by
  simpa using congrArg List.length (redactHandles_rules text handles)

/-- The rules that counted are those of the trace. -/
lemma redactHandles_risen (text : String) (handles : List Handle) :
    risenAmong handles (redactHandles text handles).2
      = (traceRules text (handles.map (·.rule))).1.map Prod.fst := by
  induction handles generalizing text with
  | nil => rfl
  | cons handle rest ih =>
      rw [redactHandles_cons, risenAmong_cons, ih, List.map_cons, traceRules_cons, Handle.redact_eq]
      by_cases hmatch : handle.rule.matchesIn text <;> simp [hmatch]

lemma redactGroups_risen (text : String) (groups : List HandleGroup) :
    risenAmong (groups.flatMap (·.handles)) ((redactGroups text groups).2.flatMap (·.handles))
      = (traceGroups text (groups.map HandleGroup.source)).map Prod.fst := by
  induction groups generalizing text with
  | nil => rfl
  | cons group rest ih =>
      have htrigger : group.source.trigger = group.trigger := rfl
      have hrules : group.source.rules = group.handles.map (·.rule) := rfl
      rw [redactGroups_cons, List.map_cons, traceGroups_cons, HandleGroup.redact_eq, htrigger, hrules]
      by_cases hoccurs : Text.occursIn group.trigger text
      · have hlength : group.handles.length = (redactHandles text group.handles).2.length :=
          (length_redactHandles text group.handles).symm
        simp only [hoccurs, if_true, List.flatMap_cons, List.map_append]
        rw [risenAmong_append hlength, redactHandles_risen, ih, (redactHandles_count text group.handles).2]
      · simp only [hoccurs, Bool.false_eq_true, if_false, List.flatMap_cons]
        rw [risenAmong_append rfl, risenAmong_self, List.nil_append, ih]

/-! ## The trace is enough -/

/-- Rules that do not match when their turn comes may be left out. -/
lemma applyAll_traceRules (text : String) (rules : List Rule) :
    Rule.applyAll ((traceRules text rules).1.map Prod.fst) text = Rule.applyAll rules text := by
  induction rules generalizing text with
  | nil => rfl
  | cons rule rest ih =>
      have hcons : Rule.applyAll (rule :: rest) text = Rule.applyAll rest (rule.apply text) := rfl
      rw [traceRules_cons, hcons]
      by_cases hmatch : rule.matchesIn text
      · rw [if_pos hmatch]
        exact ih (rule.apply text)
      · rw [if_neg hmatch, Rule.apply_of_not_matchesIn (by simpa using hmatch)]
        exact ih text

/-- So may groups whose trigger does not occur. -/
lemma applyAll_traceGroups (text : String) (groups : List TriggerGroup) :
    Rule.applyAll ((traceGroups text groups).map Prod.fst) text
      = groups.foldl TriggerGroup.rewrite text := by
  induction groups generalizing text with
  | nil => rfl
  | cons group rest ih =>
      have happend : ∀ first second : List Rule, Rule.applyAll (first ++ second) text
          = Rule.applyAll second (Rule.applyAll first text) := fun first second => List.foldl_append
      rw [traceGroups_cons, List.foldl_cons, TriggerGroup.rewrite]
      by_cases hoccurs : Text.occursIn group.trigger text
      · rw [if_pos hoccurs, if_pos (Text.occursIn_iff.mp hoccurs), List.map_append, happend,
          applyAll_traceRules, traceRules_text, ih]
      · rw [if_neg hoccurs, if_neg (mt Text.occursIn_iff.mpr hoccurs), ih]

/-! ## The result -/

/-- **The audit trail of a redaction.**  Each rule of the store has a handle of its own, which counts once or
not at all.  It counts just if the trigger of its group occurs in the text that the group was entered with
and its pattern matches what the rules before it have left of that text; handles of a group whose trigger
does not occur keep all they hold.  The rules that counted, and no others, applied to the message in their
order give the text that was returned, so that a text that is another one has been counted.  The cache may
be in any state. -/
theorem redact_auditTrail (engine : Engine) {cache : Cache} (hshape : cache.Mirrors engine.store)
    (message : String) :
    let out := (engine.redact cache message).1
    let after := (engine.redact cache message).2
    (∀ g group i rule, engine.store.groups[g]? = some group → group.rules[i]? = some rule →
      ∃ old new, cache.handleAt g i = some old ∧ after.handleAt g i = some new
        ∧ old.rule = rule ∧ new.rule = rule
        ∧ (new.matchCount = old.matchCount ∨ new.matchCount = old.matchCount + 1)
        ∧ (new.matchCount = old.matchCount + 1 ↔
            group.trigger.toList <:+: (engine.store.entry message g).toList
              ∧ rule.matchesIn (group.reached (engine.store.entry message g) i))
        ∧ (¬ group.trigger.toList <:+: (engine.store.entry message g).toList → new = old))
    ∧ Rule.applyAll (cache.risen after) message = out
    ∧ (out ≠ message → cache.appliedCount < after.appliedCount) := by
  intro out after
  have hout : out = (cache.redact message).1 := congrArg Prod.fst (engine.redact_eq hshape message)
  have hafter : after = (cache.redact message).2 := congrArg Prod.snd (engine.redact_eq hshape message)
  rw [hout, hafter]
  refine ⟨fun g group i rule hgroup hrule => ?_, ?_, fun hother => ?_⟩
  · obtain ⟨old, new, hold, hnew, hsame, hbecomes⟩ := hshape.redact_handleAt message hgroup hrule
    refine ⟨old, new, hold, hnew, hsame, ?_⟩
    rw [hbecomes, ← hsame]
    by_cases htrigger : group.trigger.toList <:+: (engine.store.entry message g).toList
    · simp only [if_pos htrigger, Handle.redact_eq]
      by_cases hmatch : old.rule.matchesIn (group.reached (engine.store.entry message g) i) <;>
        simp [hmatch, htrigger]
    · simp [htrigger]
  · have hrisen : cache.risen (cache.redact message).2
        = (traceGroups message (cache.groups.map HandleGroup.source)).map Prod.fst :=
      redactGroups_risen message cache.groups
    rw [hrisen, applyAll_traceGroups]
    exact (redactGroups_text message cache.groups).symm
  · have htrace : cache.trace message ≠ [] := fun hnone => hother <|
      (redactGroups_text message cache.groups).trans (traceGroups_text_of_nil hnone)
    rw [Cache.redact_appliedCount]
    have hpos := List.length_pos_iff.mpr htrace
    omega

/-- Rules of two triggers; the last two are the same. -/
def twiceListed : List Rule :=
  [.ofChar "a" 'a' "b", .ofChar "z" 'y' "", .ofChar "a" 'b' "c", .ofChar "a" 'b' "c"]

/-- A cache for these rules whose handles have been in use. -/
def listedCache : Cache where
  owner := "main"
  groups := [
    ⟨"a", [⟨.ofChar "a" 'a' "b", "banana", some ⟨1, 2, #[]⟩, 7⟩, ⟨.ofChar "a" 'b' "c", "", none, 0⟩,
      ⟨.ofChar "a" 'b' "c", "b", none, 4⟩]⟩,
    ⟨"z", [⟨.ofChar "z" 'y' "", "zy", some ⟨1, 2, #[]⟩, 1⟩]⟩]

/-- The second of the rules that are the same finds nothing left to do.  The rule of the absent trigger is
not tried, though its pattern would match. -/
theorem redact_auditTrail_twiceListed :
    listedCache.Mirrors (.ofRules twiceListed)
      ∧ (Engine.redact ⟨0, .ofRules twiceListed⟩ listedCache "xay").1 = "xcy"
      ∧ listedCache.appliedCount
        < (Engine.redact ⟨0, .ofRules twiceListed⟩ listedCache "xay").2.appliedCount
      ∧ (Engine.redact ⟨0, .ofRules twiceListed⟩ listedCache "xay").2.handles.map (·.matchCount)
        = [8, 1, 4, 1] := by
  have hshape : listedCache.Mirrors (.ofRules twiceListed) := rfl
  have hout : (Engine.redact ⟨0, .ofRules twiceListed⟩ listedCache "xay").1 = "xcy" := by decide
  obtain ⟨-, -, hrose⟩ := redact_auditTrail ⟨0, .ofRules twiceListed⟩ hshape "xay"
  exact ⟨hshape, hout, hrose (by rw [hout]; decide), by decide⟩

end Redaction
