import Redaction.Pattern.Reader
import Mathlib.Tactic.Lemma

/-!
# Where a reader stands

Patterns and templates are read mark by mark, and what has been read is gone.  To say afterwards *what*
made the reader give up, its place in the text has to be followed.

**Triples.**  `Goes` is a triple for actions that read and may refuse.  Between its two conditions stands
the text before the next mark, which the reader itself does not keep; and a refusal is not just a way out:
a fault may come anywhere, but a limit has to be accounted for (`shown`).  `goes_bind` is the rule by which
such triples pass through a reader.

* `Reader.Stands` — a reader stands in a text, after some characters of it.
* `next_goes`, `accept_goes`, `whileDigits_goes`, `until_safe` — one lemma for each way of taking marks.
-/

namespace Redaction.Pattern

variable {σ α β : Type} {shown : Limit → Prop} {I : List Char → σ → Prop} {before : List Char}

/-! ## Results -/

/-- A result with a property, or a refusal; a limit is one that is shown. -/
def Yields (shown : Limit → Prop) (Q : α → Prop) : Except Refusal α → Prop
  | .ok a => Q a
  | .error (.fault _) => True
  | .error (.limit limit) => shown limit

lemma yields_ok {Q : α → Prop} {a : α} (h : Q a) : Yields shown Q (.ok a) := h

lemma yields_bind {P : α → Prop} {Q : β → Prop} {result : Except Refusal α}
    {further : α → Except Refusal β} (h : Yields shown P result)
    (hfurther : ∀ a, P a → Yields shown Q (further a)) : Yields shown Q (result >>= further) := by
  rcases result with (fault | limit) | a
  · trivial
  · exact h
  · exact hfurther a h

lemma Yields.mono {P Q : α → Prop} {result : Except Refusal α} (h : Yields shown P result)
    (hPQ : ∀ a, P a → Q a) : Yields shown Q result := by
  rcases result with (fault | limit) | a
  · trivial
  · exact h
  · exact hPQ a h

/-! ## Actions -/

/-- A result and a state that stands after some text, of which `Q` holds. -/
def Reached (I : List Char → σ → Prop) (Q : α → List Char → Prop) (result : α × σ) : Prop :=
  ∃ now, Q result.1 now ∧ I now result.2

/-- From every state that stands after `before`, an action yields a result and a state after some other
text, of which `Q` holds. -/
def Goes (shown : Limit → Prop) (I : List Char → σ → Prop) (before : List Char)
    (action : StateT σ (Except Refusal) α) (Q : α → List Char → Prop) : Prop :=
  ∀ state, I before state → Yields shown (Reached I Q) (action.run state)

/-- An action that can be done anywhere. -/
def Safe (shown : Limit → Prop) (I : List Char → σ → Prop) (action : StateT σ (Except Refusal) α) :
    Prop :=
  ∀ before, Goes shown I before action fun _ _ => True

section
variable {P : α → List Char → Prop} {Q : β → List Char → Prop}
  {action : StateT σ (Except Refusal) α} {further : α → StateT σ (Except Refusal) β}

lemma goes_pure {a : α} (h : P a before) : Goes shown I before (pure a) P :=
  fun _ hstate => ⟨before, h, hstate⟩

lemma goes_bind (h : Goes shown I before action P)
    (hfurther : ∀ a now, P a now → Goes shown I now (further a) Q) :
    Goes shown I before (action >>= further) Q := by
  intro state hstate
  rw [StateT.run_bind]
  refine yields_bind (h state hstate) ?_
  rintro ⟨a, between⟩ ⟨now, ha, hbetween⟩
  exact hfurther a now ha between hbetween

lemma Goes.mono {P' : α → List Char → Prop} (h : Goes shown I before action P)
    (hP : ∀ a now, P a now → P' a now) : Goes shown I before action P' :=
  fun state hstate => (h state hstate).mono fun _ ⟨now, ha, hnow⟩ => ⟨now, hP _ _ ha, hnow⟩

lemma safe_of_goes {R : List Char → α → List Char → Prop}
    (h : ∀ before, Goes shown I before action (R before)) : Safe shown I action :=
  fun before => (h before).mono fun _ _ _ => trivial

lemma safe_pure (a : α) : Safe shown I (pure a) := fun _ => goes_pure trivial

/-- The rule for actions of which nothing else has to be known. -/
lemma safe_bind (h : Safe shown I action) (hfurther : ∀ a, Safe shown I (further a)) :
    Safe shown I (action >>= further) := fun before =>
  goes_bind (h before) fun a now _ => hfurther a now

/-- The result of an `Except` inside an action. -/
lemma goes_lift {R : α → Prop} {result : Except Refusal α} (h : Yields shown R result) :
    Goes shown I before (liftM result) fun a now => now = before ∧ R a := by
  intro state hstate
  rcases result with (fault | limit) | a
  · trivial
  · exact h
  · exact ⟨before, ⟨rfl, h⟩, hstate⟩

lemma goes_refuse (cause : Cause) (position : Nat) :
    Goes shown I before (liftM (refuseAt cause position : Except Refusal α)) P :=
  fun _ _ => trivial

lemma goes_limit {limit : Limit} (h : shown limit) :
    Goes shown I before (throw (.limit limit) : StateT σ (Except Refusal) α) P :=
  fun _ _ => h

lemma safe_refuse (cause : Cause) (position : Nat) :
    Safe shown I (liftM (refuseAt cause position : Except Refusal α)) :=
  fun _ => goes_refuse cause position

/-- A check that may refuse, and what comes after it. -/
lemma goes_guard {c : Prop} [Decidable c] {cause : Cause} {position : Nat}
    {rest : PUnit → StateT σ (Except Refusal) β} (h : ¬ c → Goes shown I before (rest ⟨⟩) Q) :
    Goes shown I before
      (if c then liftM (refuseAt cause position : Except Refusal PUnit) >>= rest else rest ⟨⟩) Q := by
  split
  · exact fun _ _ => trivial
  · next hc => exact h hc

lemma safe_guard {c : Prop} [Decidable c] {cause : Cause} {position : Nat}
    {rest : PUnit → StateT σ (Except Refusal) β} (h : Safe shown I (rest ⟨⟩)) :
    Safe shown I
      (if c then liftM (refuseAt cause position : Except Refusal PUnit) >>= rest else rest ⟨⟩) :=
  fun before => goes_guard fun _ => h before

lemma goes_get :
    Goes shown I before (get : StateT σ (Except Refusal) σ)
      fun state now => now = before ∧ I before state :=
  fun _ hstate => ⟨before, ⟨rfl, hstate⟩, hstate⟩

lemma safe_get : Safe shown I (get : StateT σ (Except Refusal) σ) := safe_of_goes fun _ => goes_get

lemma goes_set {state : σ} {after : List Char} (h : I after state) :
    Goes shown I before (set state : StateT σ (Except Refusal) PUnit) fun _ now => now = after :=
  fun _ _ => ⟨after, rfl, h⟩

lemma goes_modify {change : σ → σ} (h : ∀ {state}, I before state → I before (change state)) :
    Goes shown I before (modify change : StateT σ (Except Refusal) PUnit) fun _ now => now = before :=
  fun _ hstate => ⟨before, rfl, h hstate⟩

end

/-! ## Readers -/

namespace Reader

variable {text : List Char}

/-- The text still to be read. -/
def written (reader : Reader) : List Char :=
  reader.rest.flatMap Token.text

/-- A reader stands in a text, after some characters of it. -/
def Stands (text before : List Char) (reader : Reader) : Prop :=
  before ++ reader.written = text

lemma ready_yields (reader : Reader) : Yields shown (· = reader) reader.ready := by
  rw [ready]
  split
  · trivial
  · exact yields_ok rfl

/-- A reader that was just made stands at the start of its text. -/
lemma ofText_yields (text : String) : Yields shown (Stands text.toList []) (ofText text) := by
  refine (ready_yields _).mono ?_
  rintro reader rfl
  exact Token.flatMap_text_all text.toList

lemma peek_goes :
    Goes shown (Stands text) before peek fun _ now => now = before :=
  goes_bind goes_get fun _ _ h => goes_pure h.1

lemma place_goes :
    Goes shown (Stands text) before place fun _ now => now = before :=
  goes_bind goes_get fun _ _ h => goes_pure h.1

/-- Looking at the next mark leaves the reader where it is. -/
lemma run_peek_bind (further : Option Token → Read β) (reader : Reader) :
    (peek >>= further).run reader = (further reader.rest.head?).run reader := rfl

/-- The characters of a mark that may be missing. -/
def taken (token : Option Token) : List Char :=
  token.elim [] Token.text

lemma run_next (token : Token) (rest : List Token) (position : Nat) :
    next.run ⟨token :: rest, position⟩
      = (ready ⟨rest, position + token.size⟩).map fun reader => (some token, reader) := by
  simp only [next, StateT.run_bind, StateT.run_get, pure_bind]
  cases ready ⟨rest, position + token.size⟩ <;> rfl

/-- Taking the mark that comes next. -/
lemma next_yields {token : Token} {reader : Reader} (hstands : Stands text before reader)
    (hnext : reader.rest.head? = some token) :
    Yields shown (fun (found, after) => found = some token ∧ Stands text (before ++ token.text) after)
      (next.run reader) := by
  obtain ⟨rest, position⟩ := reader
  obtain ⟨rest, rfl⟩ := List.head?_eq_some_iff.mp hnext
  rw [run_next, ready]
  split
  · trivial
  · exact ⟨rfl, by simpa [Stands, written] using hstands⟩

/-- Taking the mark that comes next, and going on. -/
lemma next_bind_yields {token : Token} {reader : Reader} {further : Option Token → Read β}
    {Q : β → List Char → Prop} (hstands : Stands text before reader)
    (hnext : reader.rest.head? = some token)
    (hfurther : Goes shown (Stands text) (before ++ token.text) (further (some token)) Q) :
    Yields shown (Reached (Stands text) Q) ((next >>= further).run reader) := by
  rw [StateT.run_bind]
  refine yields_bind (next_yields hstands hnext) ?_
  rintro ⟨_, after⟩ ⟨rfl, hafter⟩
  exact hfurther after hafter

/-- Taking a mark. -/
lemma next_goes :
    Goes shown (Stands text) before next fun token now => now = before ++ taken token := by
  intro reader hstands
  cases hhead : reader.rest.head? with
  | some token =>
      refine (next_yields hstands hhead).mono ?_
      rintro ⟨_, after⟩ ⟨rfl, hafter⟩
      exact ⟨_, rfl, hafter⟩
  | none =>
      obtain ⟨rest, position⟩ := reader
      obtain rfl : rest = [] := List.head?_eq_none_iff.mp hhead
      exact ⟨before ++ taken none, rfl, by simpa [taken] using hstands⟩

/-- Taking a mark that is wanted. -/
lemma accept_goes (c : Char) :
    Goes shown (Stands text) before (accept c) fun found now =>
      now = if found then before ++ [c] else before := by
  intro reader hstands
  rw [accept, run_peek_bind]
  split
  · next hhead =>
      refine next_bind_yields hstands hhead ?_
      exact goes_pure rfl
  · exact ⟨_, rfl, hstands⟩

/-- Taking digits. -/
lemma whileDigits_goes (isDigit : Char → Bool) (limit : Nat) :
    Goes shown (Stands text) before (whileDigits isDigit limit) fun digits now =>
      now = before ++ digits ∧ ∀ c ∈ digits, isDigit c := by
  induction limit generalizing before with
  | zero => exact goes_pure (by simp)
  | succ limit ih =>
      intro reader hstands
      rw [whileDigits, run_peek_bind]
      split
      · next c hhead =>
          split
          · next hdigit =>
              refine next_bind_yields hstands hhead ?_
              refine goes_bind ih ?_
              rintro digits _ ⟨rfl, hdigits⟩
              exact goes_pure ⟨by simp [Token.text], List.forall_mem_cons.mpr ⟨hdigit, hdigits⟩⟩
          · exact ⟨before, by simp, hstands⟩
      · exact ⟨before, by simp, hstands⟩

lemma peek_safe : Safe shown (Stands text) peek := safe_of_goes fun _ => peek_goes

lemma place_safe : Safe shown (Stands text) place := safe_of_goes fun _ => place_goes

lemma next_safe : Safe shown (Stands text) next := safe_of_goes fun _ => next_goes

lemma accept_safe (c : Char) : Safe shown (Stands text) (accept c) := safe_of_goes fun _ => accept_goes c

lemma whileDigits_safe (isDigit : Char → Bool) (limit : Nat) :
    Safe shown (Stands text) (whileDigits isDigit limit) :=
  safe_of_goes fun _ => whileDigits_goes isDigit limit

/-! ## Names and comments -/

/-- A reader in what is left of some marks. -/
def Within (tokens : List Token) (reader : Reader) : Prop :=
  ∃ passed, passed ++ reader.written = tokens.flatMap Token.text

lemma Within.cons {tokens : List Token} {reader : Reader} (h : Within tokens reader) (token : Token) :
    Within (token :: tokens) reader := by
  obtain ⟨passed, hpassed⟩ := h
  exact ⟨token.text ++ passed, by simp [hpassed]⟩

lemma Within.refl (tokens : List Token) (position : Nat) : Within tokens ⟨tokens, position⟩ :=
  ⟨[], rfl⟩

/-- A reader that is put further on stands in the same text. -/
lemma Stands.within {reader further : Reader} (h : Stands text before reader)
    (hwithin : Within reader.rest further) : ∃ now, Stands text now further := by
  obtain ⟨passed, hpassed⟩ := hwithin
  exact ⟨before ++ passed, by rw [Stands, List.append_assoc, hpassed]; exact h⟩

lemma untilAmong_yields (terminator : Char) (what : String) (name : List Char) (position : Nat)
    (tokens : List Token) :
    Yields shown (fun (_, reader) => Within tokens reader)
      (untilAmong terminator what name position tokens) := by
  induction tokens generalizing name position with
  | nil =>
      rw [untilAmong]
      split <;> trivial
  | cons token rest ih =>
      rw [untilAmong]
      refine yields_bind (ready_yields _) ?_
      rintro _ rfl
      split
      · split
        · trivial
        · exact yields_ok ((Within.refl rest _).cons token)
      · exact (ih _ _).mono fun _ hwithin => hwithin.cons token

lemma afterLineAmong_yields (position : Nat) (tokens : List Token) :
    Yields shown (Within tokens) (afterLineAmong position tokens) := by
  induction tokens generalizing position with
  | nil => exact yields_ok (Within.refl [] position)
  | cons token rest ih =>
      rw [afterLineAmong]
      refine yields_bind (ready_yields _) ?_
      rintro _ rfl
      split
      · exact yields_ok ((Within.refl rest _).cons token)
      · exact (ih _).mono fun _ hwithin => hwithin.cons token

lemma afterCommentAmong_yields (start position : Nat) (tokens : List Token) :
    Yields shown (Within tokens) (afterCommentAmong start position tokens) := by
  induction tokens generalizing position with
  | nil => trivial
  | cons token rest ih =>
      rw [afterCommentAmong]
      refine yields_bind (ready_yields _) ?_
      rintro _ rfl
      split
      · exact yields_ok ((Within.refl rest _).cons token)
      · exact (ih _).mono fun _ hwithin => hwithin.cons token

lemma until_safe (terminator : Char) (what : String) :
    Safe shown (Stands text) (Reader.until terminator what) := by
  intro before
  refine goes_bind goes_get ?_
  rintro reader _ ⟨rfl, hstands⟩
  refine goes_bind (goes_lift (untilAmong_yields terminator what [] reader.position reader.rest)) ?_
  rintro ⟨name, further⟩ _ ⟨rfl, hwithin⟩
  obtain ⟨now, hnow⟩ := hstands.within hwithin
  exact goes_bind (goes_set hnow) fun _ _ _ => goes_pure trivial

/-- Putting the reader further on. -/
lemma safe_further {further : Reader → Except Refusal Reader}
    (h : ∀ reader, Yields shown (Within reader.rest) (further reader)) :
    Safe shown (Stands text) (do set (← further (← get)) : Read Unit) := by
  intro before
  refine goes_bind goes_get ?_
  rintro reader _ ⟨rfl, hstands⟩
  refine goes_bind (goes_lift (h reader)) ?_
  rintro after _ ⟨rfl, hwithin⟩
  obtain ⟨now, hnow⟩ := hstands.within hwithin
  exact (goes_set hnow).mono fun _ _ _ => trivial

lemma skipLine_safe : Safe shown (Stands text) skipLine :=
  safe_further fun reader => afterLineAmong_yields reader.position reader.rest

lemma skipComment_safe (start : Nat) : Safe shown (Stands text) (skipComment start) :=
  safe_further fun reader => afterCommentAmong_yields start reader.position reader.rest

end Reader

end Redaction.Pattern
