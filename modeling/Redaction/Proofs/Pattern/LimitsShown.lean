import Redaction.Proofs.Pattern.Limits

/-!
# Limits are shown

A pattern half read is a reader with a good deal around it: groups, names, and a stack of open parentheses.
Of all this, what decides about limits is the reader and the flags for the whole pattern, which the end of
the reading looks at once more.

* `State.Holds` — the reader stands in the text, and the flags are such as stand in it.
* **`item_safe`**, **`items_safe`** — one item, and any number of them, keep this.  The cases are those of
  the parser: escapes, parentheses, the end of a parenthesis, the next alternative.
* **`parse_yields`**, **`shownIn_of_compile`** — a limit that a pattern meets is shown by its text.
-/

namespace Redaction.Pattern

open Reader

variable {α : Type} {shown : Limit → Prop} {text before : List Char}

/-- The reader stands in the text after some characters, and the flags are such as stand in the text. -/
structure State.Holds (text before : List Char) (state : State) : Prop where
  reader : Stands text before state.reader
  flags : FlagsIn text state.flags

open State (Holds)

/-! ## What the parser is made of -/

/-- An action that only takes marks. -/
lemma reading_goes {action : Read α} {Q : α → List Char → Prop}
    (h : Goes shown (Stands text) before action Q) :
    Goes shown (Holds text) before (reading action) Q := by
  refine goes_bind goes_get ?_
  rintro state _ ⟨rfl, hstate⟩
  refine goes_bind (goes_lift (h state.reader hstate.reader)) ?_
  rintro ⟨a, reader⟩ _ ⟨rfl, now, ha, hnow⟩
  refine goes_bind (goes_set ⟨hnow, hstate.flags⟩) ?_
  rintro _ _ rfl
  exact goes_pure ha

lemma reading_safe {action : Read α} (h : Safe shown (Stands text) action) :
    Safe shown (Holds text) (reading action) := fun before => reading_goes (h before)

lemma here_safe : Safe shown (Holds text) here := reading_safe place_safe

/-- A change that neither moves the reader nor changes the flags. -/
lemma modify_safe {change : State → State} (hreader : ∀ state, (change state).reader = state.reader)
    (hflags : ∀ state, (change state).flags = state.flags) :
    Safe shown (Holds text) (modify change : Parse PUnit) :=
  safe_of_goes fun _ => goes_modify fun {state} hstate =>
    ⟨(hreader state).symm ▸ hstate.reader, (hflags state).symm ▸ hstate.flags⟩

lemma addItem_safe (term : Term) : Safe shown (Holds text) (addItem term) :=
  modify_safe (fun _ => rfl) fun _ => rfl

lemma openFrame_safe (opener : Opener) (start : Nat) (verbose : Bool) :
    Safe shown (Holds text) (openFrame opener start verbose) :=
  modify_safe (fun _ => rfl) fun _ => rfl

/-- A refusal at the place of the next mark. -/
lemma refuseHere_safe (cause : Cause) (place : Nat → Nat) :
    Safe shown (Holds text) (do refuseAt cause (place (← here)) : Parse α) :=
  safe_bind here_safe fun _ => safe_refuse _ _

/-! ## Escapes and repetition -/

lemma checkLookbehind_safe (group : Nat) : Safe shown (Holds text) (checkLookbehind group) := by
  refine safe_bind safe_get fun state => ?_
  split
  · exact safe_pure _
  · split
    · exact refuseHere_safe _ id
    · split
      · exact refuseHere_safe _ id
      · exact safe_pure _

lemma numberEscape_safe (c : Char) (start : Nat) : Safe shown (Holds text) (numberEscape c start) := by
  refine safe_bind (reading_safe (whileDigits_safe _ _)) fun second => ?_
  extract_lets numbered
  have hnumbered : ∀ third, Safe shown (Holds text) (numbered third) := by
    intro third
    simp only [numbered]
    split
    · refine safe_bind safe_get fun state => ?_
      split
      · exact safe_guard (safe_bind (checkLookbehind_safe _) fun _ => safe_pure _)
      · exact safe_refuse _ _
    · exact safe_bind (reading_safe (octalEscape_safe _ _)) fun _ => safe_pure _
  split
  · exact safe_bind (reading_safe (whileDigits_safe _ _)) hnumbered
  · exact safe_bind (safe_pure _) hnumbered

/-- An escape outside sets, whose letter has been taken. -/
lemma escape_goes (c : Char) (start : Nat) :
    Goes (Limit.ShownIn text) (Holds text) (before ++ ['\\', c]) (escape c start) fun _ _ => True := by
  unfold escape
  split
  · exact goes_pure trivial
  · exact goes_pure trivial
  · exact goes_pure trivial
  · next hescape =>
      exact goes_bind (reading_goes (sharedEscape_goes hescape)) fun _ _ _ => goes_pure trivial
  · split
    · exact safe_bind (reading_safe (whileDigits_safe _ _)) (fun _ => safe_pure _) _
    · split
      · exact numberEscape_safe c start _
      · exact safe_bind (reading_safe (plainEscape_safe _ _)) (fun _ => safe_pure _) _

/-- A repetition, whose mark has been taken. -/
lemma repetition_goes {c : Char} (h : c = '?' ∨ c = '*' ∨ c = '+' ∨ c = '{') (start : Nat) :
    Goes (Limit.ShownIn text) (Holds text) (before ++ [c]) (repetition c start) fun _ _ => True := by
  refine goes_bind (reading_goes (repeatBounds_goes h)) fun bounds now _ => ?_
  split
  · exact addItem_safe _ now
  · refine safe_bind safe_get (fun state => ?_) now
    split
    · exact safe_refuse _ _
    · exact safe_refuse _ _
    · exact safe_refuse _ _
    · exact safe_bind (reading_safe readGreed_safe) fun greed => modify_safe (fun _ => rfl) fun _ => rfl

/-! ## Parentheses -/

lemma openGroup_safe (name : Option (List Char)) (start : Nat) :
    Safe shown (Holds text) (openGroup name start) := by
  intro before
  refine goes_bind goes_get ?_
  rintro state _ ⟨rfl, hstate⟩
  extract_lets index grown opened
  have hopened : ∀ now, Goes shown (Holds text) now (opened ⟨⟩) fun _ _ => True := openFrame_safe _ _ _
  cases name with
  | none => exact goes_bind (goes_set ⟨hstate.reader, hstate.flags⟩) fun _ now _ => hopened now
  | some name =>
      dsimp only
      split
      · exact safe_bind here_safe (fun _ => safe_bind (safe_refuse _ _) fun _ now => hopened now) _
      · exact goes_bind (goes_set ⟨hstate.reader, hstate.flags⟩) fun _ now _ => hopened now

lemma groupName_safe (terminator : Char) : Safe shown (Holds text) (groupName terminator) := by
  refine safe_bind (reading_safe (until_safe _ _)) fun name => ?_
  split
  · exact safe_pure _
  · exact refuseHere_safe _ fun place => place - (name.length + 1)

lemma namedReference_safe : Safe shown (Holds text) namedReference := by
  refine safe_bind (groupName_safe _) fun name => safe_bind here_safe fun place => ?_
  refine safe_bind safe_get fun state => ?_
  split
  · exact safe_refuse _ _
  · exact safe_guard (safe_bind (checkLookbehind_safe _) fun _ => addItem_safe _)

lemma testedGroup_safe : Safe shown (Holds text) testedGroup := by
  refine safe_bind (reading_safe (until_safe _ _)) fun name => safe_bind here_safe fun place => ?_
  extract_lets start
  split
  · refine safe_bind safe_get fun state => ?_
    split
    · exact safe_refuse _ _
    · exact safe_pure _
  · split
    · exact safe_refuse _ _
    · refine safe_guard (safe_guard (safe_bind (modify_safe ?_ ?_) fun _ => safe_pure _))
      · intro state
        split <;> rfl
      · intro state
        split <;> rfl

lemma openLook_safe (behind negated : Bool) (start : Nat) :
    Safe shown (Holds text) (openLook behind negated start) := by
  intro before
  refine goes_bind goes_get ?_
  rintro state _ ⟨rfl, hstate⟩
  extract_lets opened
  have hopened : ∀ now, Goes shown (Holds text) now (opened ⟨⟩) fun _ _ => True := openFrame_safe _ _ _
  split
  · exact goes_bind (goes_set ⟨hstate.reader, hstate.flags⟩) fun _ now _ => hopened now
  · exact hopened _

/-- The one place where the flags for the whole pattern change. -/
lemma applyGlobal_safe {on : Flags} (hon : FlagsIn text on) (start : Nat) :
    Safe shown (Holds text) (applyGlobal on start) := by
  intro before
  refine goes_bind goes_get ?_
  rintro state _ ⟨rfl, hstate⟩
  extract_lets flags
  split
  · exact (goes_set ⟨hstate.reader, hstate.flags.union hon⟩).mono fun _ _ _ => trivial
  · exact goes_refuse _ _

lemma extension_safe (start : Nat) : Safe shown (Holds text) (extension start) := by
  refine safe_bind (reading_safe next_safe) fun token => ?_
  split
  · exact refuseHere_safe _ id
  · exact safe_bind (groupName_safe _) fun name => openGroup_safe _ _
  · exact namedReference_safe
  · exact safe_refuse _ _

lemma lookbehind_safe (start : Nat) : Safe shown (Holds text) (lookbehind start) := by
  refine safe_bind (reading_safe next_safe) fun token => ?_
  split
  · exact refuseHere_safe _ id
  · exact openLook_safe _ _ _
  · exact openLook_safe _ _ _
  · exact safe_refuse _ _

/-- Flags in a parenthesis, the first mark of which has been taken. -/
lemma flagParenthesis_goes {c : Char} (h : isFlagLetter c || c = '-') (verbose : Bool) (start : Nat) :
    Goes shown (Holds text) (before ++ ['(', '?', c]) (do
      match ← reading (flagGroup c) with
      | .forWhole on => applyGlobal on start
      | .forPart on off =>
        openFrame (.group none on off) start ((verbose || on.verbose) && !off.verbose))
      fun _ _ => True := by
  refine goes_bind (reading_goes (flagGroup_goes h)) fun flags now hflags => ?_
  cases flags with
  | forWhole on => exact applyGlobal_safe hflags start now
  | forPart on off => exact openFrame_safe _ _ _ now

/-- What follows an opening parenthesis, which has been taken. -/
lemma parenthesis_goes (start : Nat) :
    Goes shown (Holds text) (before ++ ['(']) (parenthesis start) fun _ _ => True := by
  refine goes_bind goes_get ?_
  rintro state _ ⟨rfl, -⟩
  extract_lets verbose
  refine goes_bind (reading_goes (accept_goes _)) ?_
  rintro found _ rfl
  cases found with
  | false =>
      rw [if_neg (by simp), if_neg (by simp)]
      exact openGroup_safe _ _ _
  | true =>
      rw [if_pos rfl, if_pos rfl]
      refine goes_bind (reading_goes next_goes) ?_
      rintro token _ rfl
      split
      · exact refuseHere_safe _ id _
      · split
        · exact extension_safe _ _
        · exact openFrame_safe _ _ _ _
        · exact reading_safe (skipComment_safe _) _
        · exact openLook_safe _ _ _ _
        · exact openLook_safe _ _ _ _
        · exact lookbehind_safe _ _
        · exact safe_bind testedGroup_safe (fun group => safe_bind (checkLookbehind_safe _) fun _ =>
            openFrame_safe _ _ _) _
        · exact openFrame_safe _ _ _ _
        · next c _ _ _ _ _ _ _ _ =>
            split
            · next hflag =>
                have hnow : before ++ ['('] ++ ['?'] ++ taken (some (.plain c))
                    = before ++ ['(', '?', c] := by
                  simp [taken, Token.text]
                rw [hnow]
                exact flagParenthesis_goes hflag verbose start
            · exact safe_refuse _ _ _
        · exact safe_refuse _ _ _

/-- What closes a parenthesis changes the groups and the stack. -/
lemma closeFrame_safe : Safe shown (Holds text) closeFrame := by
  refine safe_bind (reading_safe next_safe) fun _ before => goes_bind goes_get ?_
  rintro state _ ⟨rfl, hstate⟩
  extract_lets frame
  split
  · exact goes_pure trivial
  · refine goes_bind (goes_set ⟨hstate.reader, hstate.flags⟩) fun _ now _ => ?_
    split
    · exact goes_pure trivial
    · extract_lets added
      have hadded : Safe shown (Holds text) (added ⟨⟩) := addItem_safe _
      split
      · exact hadded now
      · refine safe_bind ?_ (fun _ => hadded) now
        exact modify_safe (fun _ => rfl) fun _ => rfl
    · exact addItem_safe _ now
    · extract_lets added
      have hadded : Safe shown (Holds text) (added ⟨⟩) := addItem_safe _
      split
      · refine safe_bind ?_ (fun _ => hadded) now
        exact modify_safe (fun _ => rfl) fun _ => rfl
      · exact hadded now
    · exact addItem_safe _ now
    · exact addItem_safe _ now

lemma nextBranch_safe : Safe shown (Holds text) nextBranch := by
  refine safe_bind here_safe fun place => safe_bind safe_get fun state => ?_
  extract_lets frame
  split
  · exact safe_refuse _ _
  · exact safe_bind (reading_safe next_safe) fun _ => modify_safe (fun _ => rfl) fun _ => rfl
  · exact safe_bind (reading_safe next_safe) fun _ => modify_safe (fun _ => rfl) fun _ => rfl
  · exact safe_bind (reading_safe next_safe) fun _ => modify_safe (fun _ => rfl) fun _ => rfl

/-! ## Items -/

/-- **One item**, whatever mark it starts with. -/
theorem item_safe : Safe (Limit.ShownIn text) (Holds text) item := by
  refine safe_bind here_safe fun start before => goes_bind (reading_goes next_goes) ?_
  rintro token _ rfl
  split
  · exact goes_pure trivial
  · next c => exact goes_bind (escape_goes c start) fun term now _ => addItem_safe term now
  · exact goes_pure trivial
  · next c =>
      refine goes_bind goes_get ?_
      rintro state _ ⟨rfl, -⟩
      extract_lets verbose
      split
      · exact goes_pure trivial
      · split
        · exact reading_safe skipLine_safe _
        · split
          · exact safe_bind (reading_safe (charSet_safe _)) (fun _ => addItem_safe _) _
          · split
            · next hrepeats =>
                have hmark : c = '?' ∨ c = '*' ∨ c = '+' ∨ c = '{' := by simpa [or_assoc] using hrepeats
                exact repetition_goes hmark start
            · split
              · exact addItem_safe _ _
              · split
                · next hopens =>
                    subst hopens
                    exact parenthesis_goes start
                · split
                  · exact addItem_safe _ _
                  · split <;> exact addItem_safe _ _

/-- **Any number of items**, by induction on the rounds. -/
theorem items_safe (rounds : Nat) : Safe (Limit.ShownIn text) (Holds text) (items rounds) := by
  induction rounds with
  | zero => exact safe_pure _
  | succ rounds ih =>
      rw [items]
      refine safe_bind (reading_safe peek_safe) fun token => ?_
      split
      · exact safe_pure _
      · refine safe_bind safe_get fun state => ?_
        split
        · exact safe_pure _
        · exact safe_bind closeFrame_safe fun _ => ih
      · exact safe_bind nextBranch_safe fun _ => ih
      · exact safe_bind item_safe fun _ => ih

/-! ## Whole patterns -/

/-- Flags clash only if both of them stand in the text. -/
lemma settled_yields {flags : Flags} (h : FlagsIn text flags) :
    Yields (Limit.ShownIn text) (fun _ => True) (settled flags) := by
  rw [settled]
  split
  · trivial
  · next hascii =>
      split
      · next hunicode => exact ⟨h.ascii (by simpa using hascii), h.unicode hunicode⟩
      · trivial

lemma finished_yields {state : State} (h : state.Holds text before) :
    Yields (Limit.ShownIn text) (fun _ => True) (finished state) := by
  unfold finished
  extract_lets settle
  have hsettle : Yields (Limit.ShownIn text) (fun _ => True) (settle ⟨⟩) := by
    refine yields_bind (settled_yields h.flags) fun flags _ => ?_
    extract_lets close
    have hclose : Yields (Limit.ShownIn text) (fun _ => True) (close ⟨⟩) := by
      simp only [close]
      split <;> trivial
    split
    · trivial
    · exact hclose
  split
  · trivial
  · exact hsettle

/-- **A limit that is met while a pattern is read** is shown by its text. -/
theorem parse_yields (text : String) :
    Yields (Limit.ShownIn text.toList) (fun _ => True) (Source.parse text) := by
  refine yields_bind (ofText_yields text) fun reader hreader => ?_
  have hstart : State.Holds text.toList []
      { reader, frame := { opener := .whole, start := 0, verbose := false } } :=
    ⟨hreader, flagsIn_empty⟩
  refine yields_bind (items_safe _ [] _ hstart) ?_
  rintro ⟨_, state⟩ ⟨now, -, hstate⟩
  exact finished_yields hstate

/-! ## Compiled patterns -/

/-- A refusal of a well-formed pattern is no limit. -/
lemma lookDistance_yields (groups : Array (Option Width)) (body : List Term) :
    Yields shown (fun _ => True) (lookDistance groups body) := by
  rw [lookDistance]
  split
  · trivial
  · split <;> trivial

mutual

/-- Resolving an item meets no limit. -/
lemma ofTerm_yields (groups : Array (Option Width)) (flags : Flags) :
    (term : Term) → Yields shown (fun _ => True) (Node.ofTerm groups flags term)
  | .literal _ | .notLiteral _ | .anyChar | .set _ _ | .anchor _ | .groupRef _ => by
    rw [Node.ofTerm]
    trivial
  | .groupTest group yes none => by
    rw [Node.ofTerm]
    exact yields_bind (ofTerms_yields groups flags yes) fun _ _ => trivial
  | .groupTest group yes (some no) => by
    rw [Node.ofTerm]
    exact yields_bind (ofTerms_yields groups flags yes) fun _ _ =>
      yields_bind (ofTerms_yields groups flags no) fun _ _ => trivial
  | .repeated greed min max body => by
    have hbody : Yields shown (fun _ => True)
        (do return Node.repeated greed min max (← Node.ofTerms groups flags body)) :=
      yields_bind (ofTerms_yields groups flags body) fun _ _ => trivial
    rw [Node.ofTerm]
    split
    · trivial
    · exact hbody
  | .branch branches => by
    rw [Node.ofTerm]
    exact ofBranches_yields groups flags branches
  | .look false negated body => by
    rw [Node.ofTerm]
    exact yields_bind (ofTerms_yields groups flags body) fun _ _ => trivial
  | .look true negated body => by
    rw [Node.ofTerm]
    exact yields_bind (lookDistance_yields groups body) fun _ _ =>
      yields_bind (ofTerms_yields groups flags body) fun _ _ => trivial
  | .atomic body => by
    rw [Node.ofTerm]
    exact yields_bind (ofTerms_yields groups flags body) fun _ _ => trivial
  | .group index on off body => by
    rw [Node.ofTerm]
    exact yields_bind (ofTerms_yields groups (flags.within on off) body) fun _ _ => trivial

/-- Resolving a sequence meets no limit. -/
lemma ofTerms_yields (groups : Array (Option Width)) (flags : Flags) :
    (terms : List Term) → Yields shown (fun _ => True) (Node.ofTerms groups flags terms)
  | [] => trivial
  | [term] => ofTerm_yields groups flags term
  | term :: next :: rest => by
    rw [Node.ofTerms]
    · exact yields_bind (ofTerm_yields groups flags term) fun _ _ =>
        yields_bind (ofTerms_yields groups flags (next :: rest)) fun _ _ => trivial
    · exact List.cons_ne_nil next rest

/-- Resolving alternatives meets no limit. -/
lemma ofBranches_yields (groups : Array (Option Width)) (flags : Flags) :
    (branches : List (List Term)) → Yields shown (fun _ => True) (Node.ofBranches groups flags branches)
  | [] => trivial
  | [terms] => ofTerms_yields groups flags terms
  | terms :: next :: rest => by
    rw [Node.ofBranches]
    · exact yields_bind (ofTerms_yields groups flags terms) fun _ _ =>
        yields_bind (ofBranches_yields groups flags (next :: rest)) fun _ _ => trivial
    · exact List.cons_ne_nil next rest

end

/-- **A limit that a search meets** is shown by its text: resolving what was read adds none. -/
theorem shownIn_of_compile {text : String} {limit : Limit}
    (h : compile text = .error (.limit limit)) : limit.ShownIn text.toList := by
  have hcompile : Yields (Limit.ShownIn text.toList) (fun _ => True) (compile text) :=
    yields_bind (parse_yields text) fun source _ =>
      yields_bind (ofTerms_yields source.groups source.flags source.terms) fun _ _ => trivial
  rw [h] at hcompile
  exact hcompile

end Redaction.Pattern
