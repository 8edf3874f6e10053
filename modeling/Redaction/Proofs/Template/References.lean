import Redaction.Template
import Mathlib.Tactic.Lemma

/-!
# The references of a template

A template is read for the groups of a pattern.  Reading refuses a reference to a group that the pattern
does not have, whichever way it is written; but the check sits deep inside the reader, behind names,
numbers, and octal escapes that only look like numbers.

**What a reader gives.**  `Read.Gives` is a postcondition of successful reads, and `gives_bind` is the one
rule by which it passes through the reader.

* `Template.Piece.Within` — a piece that is literal text, or a reference to a group that the pattern has.
* **`Template.within_of_parse`** — all pieces of a template that was read are of this kind.
* **`Template.parse_verbatim`** — a text without a backslash is read as itself.
-/

namespace Redaction

namespace Pattern.Read

variable {α β : Type} {P : α → Prop} {Q : β → Prop}

/-- Whatever a reader gives has a property. -/
def Gives (action : Read α) (P : α → Prop) : Prop :=
  ∀ reader a after, action.run reader = .ok (a, after) → P a

lemma gives_pure {a : α} (h : P a) : Gives (pure a) P := by
  rintro reader b after ⟨⟩
  exact h

lemma gives_error (refusal : Refusal) : Gives (liftM (.error refusal : Except Refusal α)) P := by
  rintro reader b after ⟨⟩

lemma gives_bind {action : Read α} {further : α → Read β} (h : Gives action P)
    (hfurther : ∀ a, P a → Gives (further a) Q) : Gives (action >>= further) Q := by
  intro reader b after hrun
  rw [StateT.run_bind] at hrun
  rcases haction : action.run reader with refusal | ⟨a, between⟩
  · rw [haction] at hrun
    cases hrun
  · rw [haction] at hrun
    exact hfurther a (h _ _ _ haction) _ _ _ hrun

/-- The rule for an action whose result does not matter. -/
lemma gives_after {action : Read α} {further : α → Read β} (h : ∀ a, Gives (further a) Q) :
    Gives (action >>= further) Q :=
  gives_bind (fun _ _ _ _ => trivial : Gives action fun _ => True) fun a _ => h a

lemma run_bind_ok {action : Read α} {further : α → Read β} {reader between : Reader} {a : α}
    (h : action.run reader = .ok (a, between)) :
    (action >>= further).run reader = (further a).run between := by
  rw [StateT.run_bind, h]
  rfl

end Pattern.Read

namespace Template

open Pattern (Read Reader Refusal Token)
open Pattern.Read

variable {pattern : Pattern}

/-- A piece that is literal text, or refers to a group that the pattern has. -/
def Piece.Within (pattern : Pattern) : Piece → Prop
  | .literal _ => True
  | .group index => index ≤ pattern.groupCount

/-! ## References -/

/-- The one place where references are checked. -/
lemma reference_gives (group place : Nat) :
    Gives (reference pattern group place) (Piece.Within pattern) := by
  rw [reference]
  by_cases h : pattern.groupCount < group
  · rw [if_pos h]
    exact gives_error _
  · rw [if_neg h]
    exact gives_pure (Nat.le_of_not_lt h)

lemma bracketReference_gives : Gives (bracketReference pattern) (Piece.Within pattern) := by
  rw [bracketReference]
  refine gives_after fun opened => ?_
  extract_lets named
  have hnamed : Gives (named ()) (Piece.Within pattern) := by
    refine gives_after fun name => gives_after fun place => ?_
    split
    · split
      · exact reference_gives _ _
      · exact gives_error _
    · split
      · exact gives_error _
      · exact reference_gives _ _
  cases opened with
  | true => exact hnamed
  | false => exact gives_after fun place => gives_after fun _ => hnamed

lemma numberReference_gives (c : Char) (start : Nat) :
    Gives (numberReference pattern c start) (Piece.Within pattern) := by
  rw [numberReference]
  refine gives_after fun second => ?_
  extract_lets numbered
  have hnumbered : ∀ third, Gives (numbered third) (Piece.Within pattern) := by
    intro third
    simp only [numbered]
    split
    · exact reference_gives _ _
    · exact gives_after fun code => gives_pure trivial
  split
  · exact gives_after hnumbered
  · exact gives_after hnumbered

/-- An escape is a reference or stands for characters. -/
lemma escape_gives (c : Char) (start : Nat) :
    Gives (escape pattern c start) (Piece.Within pattern) := by
  rw [escape]
  split
  · exact bracketReference_gives
  · split
    · exact gives_after fun more => gives_pure trivial
    · split
      · exact numberReference_gives c start
      · split
        · exact gives_pure trivial
        · split
          · exact gives_error _
          · exact gives_pure trivial

/-! ## Templates -/

lemma parts_gives (rounds : Nat) :
    Gives (parts pattern rounds) fun pieces => ∀ piece ∈ pieces, piece.Within pattern := by
  induction rounds with
  | zero => exact gives_pure (by simp)
  | succ rounds ih =>
      have hcons : ∀ {piece : Piece}, piece.Within pattern →
          Gives (do return piece :: (← parts pattern rounds))
            fun pieces => ∀ piece ∈ pieces, piece.Within pattern :=
        fun hpiece => gives_bind ih fun pieces hpieces =>
          gives_pure (List.forall_mem_cons.mpr ⟨hpiece, hpieces⟩)
      rw [parts]
      refine gives_after fun start => gives_after fun token => ?_
      cases token with
      | none => exact gives_pure (by simp)
      | some token =>
          cases token with
          | escaped c => exact gives_bind (escape_gives c start) fun piece hpiece => hcons hpiece
          | plain c =>
              have hplain : Piece.Within pattern (.literal [c]) := trivial
              exact hcons hplain
          | lone => exact gives_pure (by simp)

/-- **Every reference of a template is to a group of its pattern.** -/
theorem within_of_parse {text : String} {template : Template}
    (h : parse pattern text = .ok template) : ∀ piece ∈ template.pieces, piece.Within pattern := by
  rw [parse] at h
  rcases hready : Reader.ofText text with refusal | reader
  · rw [hready] at h
    cases h
  · rw [hready] at h
    rcases hparts : (parts pattern reader.rest.length).run reader with refusal | ⟨pieces, after⟩
    · simp only [bind, Except.bind, hparts] at h
      cases h
    · simp only [bind, Except.bind, hparts, pure, Except.pure, Except.ok.injEq] at h
      subst h
      exact parts_gives _ _ _ _ hparts

/-! ## Texts without references -/

/-- The template that stands for a text as it is. -/
def verbatim (text : String) : Template :=
  ⟨text.toList.map fun c => .literal [c]⟩

lemma all_of_no_backslash {chars : List Char} (h : '\\' ∉ chars) :
    Token.all chars = chars.map .plain := by
  induction chars with
  | nil => rfl
  | cons c rest ih =>
      have hc : c ≠ '\\' := fun hescape => h (hescape ▸ List.mem_cons_self)
      have hrest : '\\' ∉ rest := fun hmem => h (List.mem_cons_of_mem c hmem)
      rw [Token.all, ih hrest]
      · rfl
      · exact fun hescape _ => hc hescape
      · exact fun _ _ hescape _ => hc hescape

/-- A reader that has no backslash before it is ready. -/
lemma ready_plain (chars : List Char) (position : Nat) :
    Reader.ready ⟨chars.map .plain, position⟩ = .ok ⟨chars.map .plain, position⟩ := by
  cases chars <;> simp [Reader.ready]

lemma parts_plain (pattern : Pattern) (chars : List Char) (position : Nat) :
    ∃ after, (parts pattern chars.length).run ⟨chars.map .plain, position⟩
      = .ok (chars.map fun c => .literal [c], after) := by
  induction chars generalizing position with
  | nil => exact ⟨_, rfl⟩
  | cons c rest ih =>
      obtain ⟨after, hrest⟩ := ih (position + 1)
      refine ⟨after, ?_⟩
      rw [List.length_cons, parts]
      have hplace : Reader.place.run ⟨(c :: rest).map .plain, position⟩
          = .ok (position, ⟨(c :: rest).map .plain, position⟩) := rfl
      have hnext : Reader.next.run ⟨(c :: rest).map .plain, position⟩
          = .ok (some (.plain c), ⟨rest.map .plain, position + 1⟩) := by
        simp only [Reader.next, List.map_cons, StateT.run_bind, StateT.run_get, pure_bind]
        rw [ready_plain]
        rfl
      rw [run_bind_ok hplace, run_bind_ok hnext, run_bind_ok hrest]
      rfl

/-- **A text without a backslash is read as itself**, for every pattern. -/
theorem parse_verbatim {text : String} (h : '\\' ∉ text.toList) :
    parse pattern text = .ok (verbatim text) := by
  obtain ⟨after, hparts⟩ := parts_plain pattern text.toList 0
  rw [parse, Reader.ofText, all_of_no_backslash h, ready_plain]
  simp only [bind, Except.bind, List.length_map, hparts]
  rfl

end Template
end Redaction
