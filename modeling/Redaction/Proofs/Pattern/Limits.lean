import Redaction.Pattern.Basic
import Redaction.Proofs.Pattern.Reading

/-!
# What is beyond a limit

A search may be well formed and still be refused, because a number in it is too large or because its flags
clash (`Pattern.Limit`).

* `Limit.ShownIn` — what a text has to have in it for a limit to be met: a count in braces, an escape of
  eight digits, or two flags that exclude each other.
* `longEscape_goes`, `bounds_goes`, `flagGroup_goes` — the readers that come upon such things.  Each is told
  what stands before its mark, since the escape, the brace or the parenthesis has been taken by then.
* All other readers of sets, escapes and repetitions meet no limit of their own (`Safe`).
-/

namespace Redaction.Pattern

open Reader

/-! ## What shows a limit -/

/-- Some decimal digits stand in a text after an opening brace. Between them and the brace there may be other
digits and a comma. -/
def CountIn (chars digits : List Char) : Prop :=
  (∀ c ∈ digits, isDecimalDigit c)
    ∧ ∃ least, (∀ c ∈ least, isDecimalDigit c ∨ c = ',') ∧ '{' :: least ++ digits <:+: chars

/-- A letter stands in a text behind an opening parenthesis and a question mark. Between them there may be
other letters for flags. -/
def FlagIn (chars : List Char) (letter : Char) : Prop :=
  ∃ letters, (∀ c ∈ letters, isFlagLetter c) ∧ '(' :: '?' :: letters ++ [letter] <:+: chars

/-- What a text has to have in it for a limit to be met. -/
def Limit.ShownIn (chars : List Char) : Limit → Prop
  | repetitionTooLarge => ∃ digits, CountIn chars digits ∧ maxRepeat ≤ ofDigits 10 digits
  | numberTooLong count =>
    ∃ digits, CountIn chars digits ∧ digits.length = count ∧ Text.maxDigits < digits.length
  | codeTooLarge =>
    ∃ digits, (∀ c ∈ digits, isHexDigit c) ∧ digits.length = 8 ∧ 0x80000000 ≤ ofDigits 16 digits
      ∧ '\\' :: 'U' :: digits <:+: chars
  | clashingTypeFlags => FlagIn chars 'a' ∧ FlagIn chars 'u'

variable {α : Type} {shown : Limit → Prop} {text before : List Char}

/-- What stands before the next mark stands in the text. -/
lemma infix_of_stands {reader : Reader} {first last : List Char}
    (h : Stands text (first ++ last) reader) : last <:+: text :=
  ⟨first, reader.written, h⟩

/-! ## Escapes -/

lemma hexEscape_safe (letter : Char) (count start : Nat) :
    Safe shown (Stands text) (hexEscape letter count start) := by
  refine safe_bind (whileDigits_safe _ _) fun digits => ?_
  split
  · exact safe_pure _
  · exact safe_refuse _ _

/-- The only escape that may be beyond a limit. -/
lemma longEscape_goes (start : Nat) :
    Goes (Limit.ShownIn text) (Stands text) (before ++ ['\\', 'U']) (longEscape start) fun _ _ => True := by
  refine goes_bind (whileDigits_goes isHexDigit 8) ?_
  rintro digits _ ⟨rfl, hdigits⟩
  intro reader hstands
  dsimp only
  split
  · next hlength =>
      split
      · exact goes_pure trivial _ hstands
      · split
        · exact goes_refuse _ _ _ hstands
        · next hcode =>
            refine goes_limit ?_ _ hstands
            refine ⟨digits, hdigits, hlength, Nat.le_of_not_lt hcode, ?_⟩
            rw [List.append_assoc] at hstands
            exact infix_of_stands hstands
  · exact goes_refuse _ _ _ hstands

lemma nameEscape_safe (start : Nat) : Safe shown (Stands text) (nameEscape start) := by
  refine safe_bind (accept_safe _) fun found => ?_
  split
  · refine safe_bind (until_safe _ _) fun name => ?_
    extract_lets written
    split
    · exact safe_pure _
    · exact safe_refuse _ _
  · exact safe_bind place_safe fun _ => safe_refuse _ _

lemma octalEscape_safe (digits : List Char) (start : Nat) :
    Safe shown (Stands text) (octalEscape digits start) := by
  rw [octalEscape]
  split
  · exact safe_pure _
  · exact safe_refuse _ _

lemma plainEscape_safe (c : Char) (start : Nat) :
    Safe shown (Stands text) (plainEscape c start) := by
  rw [plainEscape]
  split
  · exact safe_refuse _ _
  · exact safe_pure _

/-- An escape of a single character, whose letter has been taken. -/
lemma sharedEscape_goes {c : Char} {start : Nat} {escape : Read Nat}
    (h : sharedEscape? c start = some escape) :
    Goes (Limit.ShownIn text) (Stands text) (before ++ ['\\', c]) escape fun _ _ => True := by
  unfold sharedEscape? at h
  split at h
  · cases h
    exact hexEscape_safe _ _ _ _
  · cases h
    exact hexEscape_safe _ _ _ _
  · cases h
    exact longEscape_goes start
  · cases h
    exact nameEscape_safe _ _
  · cases h

lemma setEscape_goes (c : Char) (start : Nat) :
    Goes (Limit.ShownIn text) (Stands text) (before ++ ['\\', c]) (setEscape c start) fun _ _ => True := by
  rw [setEscape]
  split
  · exact goes_pure trivial
  · exact goes_pure trivial
  · next hescape => exact goes_bind (sharedEscape_goes hescape) fun _ _ _ => goes_pure trivial
  · split
    · exact safe_bind (whileDigits_safe _ _)
        (fun _ => safe_bind (octalEscape_safe _ _) fun _ => safe_pure _) _
    · exact safe_bind (plainEscape_safe _ _) (fun _ => safe_pure _) _

/-! ## Sets -/

lemma setMember_goes (token : Token) (start : Nat) :
    Goes (Limit.ShownIn text) (Stands text) (before ++ token.text) (setMember token start)
      fun _ _ => True := by
  cases token with
  | escaped c => exact setEscape_goes c start
  | plain c => exact goes_pure trivial
  | lone => exact goes_pure trivial

lemma setMembers_safe (opening rounds : Nat) (members : List Member) :
    Safe (Limit.ShownIn text) (Stands text) (setMembers opening rounds members) := by
  induction rounds generalizing members with
  | zero => exact safe_pure _
  | succ rounds ih =>
      rw [setMembers]
      refine safe_bind place_safe fun start before => goes_bind next_goes ?_
      rintro token _ rfl
      cases token with
      | none => exact goes_refuse _ _
      | some token =>
          dsimp only [taken, Option.elim]
          split
          · exact goes_pure trivial
          · refine goes_bind (setMember_goes token start) fun first now _ => ?_
            refine safe_bind (accept_safe _) (fun found => ?_) now
            split
            · refine safe_bind place_safe fun lastStart before => goes_bind next_goes ?_
              rintro last _ rfl
              split
              · exact goes_refuse _ _
              · exact goes_pure trivial
              · next lastToken _ =>
                  refine goes_bind (setMember_goes lastToken lastStart) fun last now _ => ?_
                  refine safe_bind place_safe (fun here => ?_) now
                  split
                  · split
                    · exact safe_refuse _ _
                    · exact ih _
                  · exact safe_refuse _ _
            · exact ih _

lemma charSet_safe (opening : Nat) :
    Safe (Limit.ShownIn text) (Stands text) (charSet opening) := by
  refine safe_bind (accept_safe _) fun negated => ?_
  refine safe_bind safe_get fun reader => ?_
  refine safe_bind (setMembers_safe _ _ _) fun members => ?_
  extract_lets distinct
  clear_value distinct
  split <;> exact safe_pure _

/-! ## Repetition -/

/-- The digits of a count, where they stand. -/
lemma repeatCount_yields {digits : List Char} (h : CountIn text digits) :
    Yields (Limit.ShownIn text) (fun _ => True) (repeatCount? digits) := by
  rw [repeatCount?]
  split
  · trivial
  · split
    · next hlong => exact ⟨digits, h, rfl, hlong⟩
    · extract_lets count
      split
      · next hlarge => exact ⟨digits, h, hlarge⟩
      · trivial

/-- The bounds in braces, the first of which has been taken. -/
lemma bounds_goes :
    Goes (Limit.ShownIn text) (Stands text) (before ++ ['{']) bounds? fun _ _ => True := by
  refine goes_bind goes_get ?_
  rintro saved _ ⟨rfl, hsaved⟩
  refine goes_bind peek_goes ?_
  rintro token _ rfl
  split
  · exact goes_pure trivial
  · refine goes_bind (whileDigits_goes _ _) ?_
    rintro lo _ ⟨rfl, hlo⟩
    refine goes_bind (accept_goes _) ?_
    rintro comma _ rfl
    extract_lets counts
    have hcounts : ∀ {hi now}, CountIn text lo → CountIn text hi →
        Goes (Limit.ShownIn text) (Stands text) now (counts hi) fun _ _ => True := by
      intro hi now hloIn hhiIn
      refine safe_bind (accept_safe _) (fun closed before => ?_) now
      split
      · refine goes_bind (goes_lift (repeatCount_yields hloIn)) fun least now _ => ?_
        refine goes_bind (goes_lift (repeatCount_yields hhiIn)) fun greatest now _ => ?_
        cases greatest with
        | none => exact goes_pure trivial
        | some most => exact goes_guard fun _ => goes_pure trivial
      · exact goes_bind (goes_set hsaved) fun _ _ _ => goes_pure trivial
    cases comma with
    | true =>
        refine goes_bind (whileDigits_goes _ _) ?_
        rintro hi _ ⟨rfl, hhi⟩ reader hstands
        have hhere : Stands text (before ++ ('{' :: lo ++ ',' :: hi)) reader := by simpa using hstands
        have hwritten := infix_of_stands hhere
        refine hcounts ⟨hlo, [], by simp, (List.prefix_append _ _).isInfix.trans hwritten⟩
          ⟨hhi, lo ++ [','], fun c hc => ?_, by simpa using hwritten⟩ reader hstands
        exact (List.mem_append.mp hc).imp (hlo c) List.mem_singleton.mp
    | false =>
        intro reader hstands
        have hhere : Stands text (before ++ ('{' :: lo)) reader := by simpa using hstands
        have hloIn : CountIn text lo := ⟨hlo, [], by simp, infix_of_stands hhere⟩
        exact hcounts hloIn hloIn reader hstands

/-- The bounds that a repetition mark gives, which has been taken. -/
lemma repeatBounds_goes {c : Char} (h : c = '?' ∨ c = '*' ∨ c = '+' ∨ c = '{') :
    Goes (Limit.ShownIn text) (Stands text) (before ++ [c]) (repeatBounds? c) fun _ _ => True := by
  rcases h with rfl | rfl | rfl | rfl
  · exact goes_pure trivial
  · exact goes_pure trivial
  · exact goes_pure trivial
  · exact bounds_goes

lemma readGreed_safe : Safe shown (Stands text) readGreed := by
  refine safe_bind peek_safe fun token => ?_
  split
  · exact safe_bind next_safe fun _ => safe_pure _
  · exact safe_bind next_safe fun _ => safe_pure _
  · exact safe_pure _

/-! ## Flags -/

/-- The flags that choose between kinds of characters are such as stand in a text. -/
structure FlagsIn (text : List Char) (flags : Flags) : Prop where
  ascii : flags.ascii → FlagIn text 'a'
  unicode : flags.unicode → FlagIn text 'u'

lemma flagsIn_empty : FlagsIn text {} := ⟨nofun, nofun⟩

lemma FlagsIn.union {a b : Flags} (ha : FlagsIn text a) (hb : FlagsIn text b) :
    FlagsIn text (a.union b) where
  ascii h := ((Bool.or_eq_true _ _).mp h).elim ha.ascii hb.ascii
  unicode h := ((Bool.or_eq_true _ _).mp h).elim ha.unicode hb.unicode

/-- A letter turns on the flag that it names. -/
lemma flagsIn_ofLetter {letter : Char} {flag : Flags} (h : Flags.ofLetter? letter = some flag)
    (hletter : FlagIn text letter) : FlagsIn text flag := by
  unfold Flags.ofLetter? at h
  split at h <;> cases h
  case h_1 => exact ⟨fun _ => hletter, nofun⟩
  case h_6 => exact ⟨nofun, fun _ => hletter⟩
  all_goals exact ⟨nofun, nofun⟩

lemma turnOn_yields {letter : Char} {on : Flags} {position : Nat} (hletter : FlagIn text letter)
    (hon : FlagsIn text on) : Yields shown (FlagsIn text) (turnOn letter on position) := by
  rw [turnOn]
  split
  · trivial
  · next flag hflag =>
      extract_lets both
      split
      · trivial
      · exact yields_ok (hon.union (flagsIn_ofLetter hflag hletter))

/-- Flags that are turned on stand in the text, one letter after the other. -/
lemma flagsOn_yields {letters : List Char} {letter : Char} {on : Flags} {position : Nat}
    {tokens : List Token} (hletters : ∀ c ∈ letters, isFlagLetter c)
    (htext : before ++ ('(' :: '?' :: letters ++ [letter]) ++ tokens.flatMap Token.text = text)
    (hletter : isFlagLetter letter) (hon : FlagsIn text on) :
    Yields shown (fun (on, _, reader) => FlagsIn text on ∧ Within tokens reader)
      (flagsOn letter on position tokens) := by
  have hturned : ∀ {letters : List Char} {tokens : List Token} {letter on position},
      (∀ c ∈ letters, isFlagLetter c) →
      before ++ ('(' :: '?' :: letters ++ [letter]) ++ tokens.flatMap Token.text = text →
      FlagsIn text on → Yields shown (FlagsIn text) (turnOn letter on position) :=
    fun hletters htext hon => turnOn_yields ⟨_, hletters, before, _, htext⟩ hon
  induction tokens generalizing letters letter on position with
  | nil =>
      rw [flagsOn]
      exact yields_bind (hturned hletters htext hon) fun _ _ => trivial
  | cons token rest ih =>
      rw [flagsOn]
      refine yields_bind (hturned hletters htext hon) fun on hon => ?_
      refine yields_bind (ready_yields _) ?_
      rintro _ rfl
      split
      · next c =>
          split
          · exact yields_ok ⟨hon, (Within.refl rest _).cons (.plain c)⟩
          · split
            · next hc =>
                have hletters' : ∀ d ∈ letters ++ [letter], isFlagLetter d := by
                  simpa [or_imp, forall_and] using ⟨hletters, hletter⟩
                refine (ih hletters' (by simpa [Token.text] using htext) hc hon).mono ?_
                rintro ⟨on, last, reader⟩ ⟨hon, hwithin⟩
                exact ⟨hon, hwithin.cons (.plain c)⟩
            · trivial
      · trivial

lemma turnOff_yields (letter : Char) (off : Flags) (position : Nat) :
    Yields shown (fun _ => True) (turnOff letter off position) := by
  rw [turnOff]
  split
  · trivial
  · split <;> trivial

lemma flagsOff_yields (letter : Char) (off : Flags) (position : Nat) (tokens : List Token) :
    Yields shown (fun (_, reader) => Within tokens reader) (flagsOff letter off position tokens) := by
  induction tokens generalizing letter off position with
  | nil =>
      rw [flagsOff]
      exact yields_bind (turnOff_yields _ _ _) fun _ _ => trivial
  | cons token rest ih =>
      rw [flagsOff]
      refine yields_bind (turnOff_yields _ _ _) fun off _ => ?_
      refine yields_bind (ready_yields _) ?_
      rintro _ rfl
      split
      · next c =>
          split
          · exact yields_ok ((Within.refl rest _).cons (.plain c))
          · split
            · exact (ih _ _ _).mono fun _ hwithin => hwithin.cons (.plain c)
            · trivial
      · trivial

/-- The flags that a parenthesis turns on for the whole pattern are such as stand in the text. -/
def FlagGroup.In (text : List Char) : FlagGroup → Prop
  | .forWhole on => FlagsIn text on
  | .forPart _ _ => True

lemma flagsAfterMinus_goes (on : Flags) :
    Goes shown (Stands text) before (flagsAfterMinus on) fun flags _ => flags.In text := by
  refine goes_bind place_goes fun start now _ => goes_bind next_goes fun token now _ => ?_
  split
  · exact goes_refuse _ _
  · split
    · split
      · refine goes_bind goes_get ?_
        rintro reader _ ⟨rfl, hstands⟩
        refine goes_bind (goes_lift (flagsOff_yields _ _ reader.position reader.rest)) ?_
        rintro ⟨off, further⟩ _ ⟨rfl, hwithin⟩
        obtain ⟨now, hnow⟩ := hstands.within hwithin
        refine goes_bind (goes_set hnow) fun _ now _ => ?_
        extract_lets colon last
        exact goes_guard fun _ => goes_guard fun _ => goes_pure trivial
      · exact goes_refuse _ _
    · exact goes_refuse _ _

/-- A parenthesis with flags, the first mark of which has been taken. -/
lemma flagGroup_goes {c : Char} (h : isFlagLetter c || c = '-') :
    Goes shown (Stands text) (before ++ ['(', '?', c]) (flagGroup c) fun flags _ => flags.In text := by
  rw [flagGroup]
  split
  · exact flagsAfterMinus_goes _
  · next hminus =>
      have hc : isFlagLetter c := by simpa [hminus] using h
      refine goes_bind goes_get ?_
      rintro reader _ ⟨rfl, hstands⟩
      have htext : before ++ ('(' :: '?' :: [] ++ [c]) ++ reader.rest.flatMap Token.text = text := hstands
      refine goes_bind (goes_lift (flagsOn_yields (by simp) htext hc flagsIn_empty)) ?_
      rintro ⟨on, last, further⟩ _ ⟨rfl, hon, hwithin⟩
      obtain ⟨now, hnow⟩ := hstands.within hwithin
      refine goes_bind (goes_set hnow) fun _ now _ => ?_
      split
      · exact goes_pure hon
      · refine goes_guard fun _ => ?_
        split
        · exact flagsAfterMinus_goes on
        · exact goes_pure trivial

end Redaction.Pattern
