import Redaction.Proofs.Pattern.Limits
import Redaction.Template

/-!
# Why a template is refused

A template is read with the reader of patterns, and with some of its escapes.  Those that a pattern may have
beyond a limit are not among them: a template has no counts, no flags, and no escape of eight digits.

* `Template.parts_safe` — reading the parts of a template meets no limit.
* **`Template.exists_fault_of_parse`** — a template that is refused is refused for a fault.
-/

namespace Redaction.Template

open Pattern

variable {shown : Limit → Prop} {text : List Char} (pattern : Pattern)

lemma reference_safe (group place : Nat) :
    Safe shown (Reader.Stands text) (reference pattern group place) := by
  rw [reference]
  split
  · exact safe_refuse _ _
  · exact safe_pure _

lemma bracketReference_safe : Safe shown (Reader.Stands text) (bracketReference pattern) := by
  refine safe_bind (Reader.accept_safe _) fun opened => ?_
  extract_lets named
  have hnamed : Safe shown (Reader.Stands text) (named ⟨⟩) := by
    refine safe_bind (Reader.until_safe _ _) fun name => safe_bind Reader.place_safe fun place => ?_
    split
    · split
      · exact reference_safe pattern _ _
      · exact fun _ _ _ => trivial
    · split
      · exact safe_refuse _ _
      · exact reference_safe pattern _ _
  split
  · exact safe_bind Reader.place_safe fun place => safe_bind (safe_refuse _ _) fun _ => hnamed
  · exact hnamed

lemma numberReference_safe (c : Char) (start : Nat) :
    Safe shown (Reader.Stands text) (numberReference pattern c start) := by
  refine safe_bind (Reader.whileDigits_safe _ _) fun second => ?_
  extract_lets numbered
  have hnumbered : ∀ third, Safe shown (Reader.Stands text) (numbered third) := by
    intro third
    simp only [numbered]
    split
    · exact reference_safe pattern _ _
    · exact safe_bind (octalEscape_safe _ _) fun _ => safe_pure _
  split
  · exact safe_bind (Reader.whileDigits_safe _ _) hnumbered
  · exact safe_bind (safe_pure _) hnumbered

lemma escape_safe (c : Char) (start : Nat) :
    Safe shown (Reader.Stands text) (escape pattern c start) := by
  rw [escape]
  split
  · exact bracketReference_safe pattern
  · split
    · exact safe_bind (Reader.whileDigits_safe _ _) fun _ => safe_pure _
    · split
      · exact numberReference_safe pattern c start
      · split
        · exact safe_pure _
        · split
          · exact safe_refuse _ _
          · exact safe_pure _

lemma parts_safe (rounds : Nat) : Safe shown (Reader.Stands text) (parts pattern rounds) := by
  induction rounds with
  | zero => exact safe_pure _
  | succ rounds ih =>
      rw [parts]
      refine safe_bind Reader.place_safe fun start => safe_bind Reader.next_safe fun token => ?_
      split
      · exact safe_pure _
      · exact safe_bind (escape_safe pattern _ _) fun _ => safe_bind ih fun _ => safe_pure _
      · exact safe_bind ih fun _ => safe_pure _
      · exact safe_pure _

/-- **A template that is refused** is refused for a fault. -/
theorem exists_fault_of_parse {text : String} {refusal : Refusal}
    (h : parse pattern text = .error refusal) : ∃ fault, refusal = .fault fault := by
  have hparse : Yields (fun _ => False) (fun _ => True) (parse pattern text) :=
    yields_bind (Reader.ofText_yields text) fun reader hreader =>
      yields_bind (parts_safe pattern _ [] reader hreader) fun _ _ => trivial
  rw [h] at hparse
  cases refusal with
  | fault fault => exact ⟨fault, rfl⟩
  | limit limit => exact absurd hparse id

end Redaction.Template
