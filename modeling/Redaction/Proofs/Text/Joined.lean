import Redaction.Text.Lines
import Mathlib.Tactic.Lemma

/-!
# Joined texts

Texts are joined with a character between them.  Once joined, they can be told apart again only if none of them
holds that character.  Of two rows of texts of the same length it is enough to know this of one: a character
between two texts cannot be made up for by one inside a text.

* `mem_intercalate` — what a joined text holds besides the characters between the parts.
* `count_intercalate` — how often it holds the character between them.
* **`eq_of_intercalate_eq`** — rows of the same length that are joined to the same text.
* `not_isLineEnd_of_mem_lines` — lines hold no character that ends a line.
-/

namespace Redaction.Text

variable {separator : Char}

lemma mem_intercalate {c : Char} (hc : c ≠ separator) (parts : List (List Char)) :
    c ∈ [separator].intercalate parts ↔ ∃ part ∈ parts, c ∈ part := by
  induction parts with
  | nil => simp
  | cons part rest ih =>
      cases rest with
      | nil => simp
      | cons next rest =>
          rw [List.intercalate_cons_cons, List.mem_append, List.mem_append, ih]
          simp [hc]

/-- Between the parts the character stands once for all parts but the first. -/
lemma count_intercalate (first : List Char) (rest : List (List Char)) :
    ([separator].intercalate (first :: rest)).count separator
      = (first :: rest).flatten.count separator + rest.length := by
  induction rest generalizing first with
  | nil => simp
  | cons next rest ih =>
      rw [List.intercalate_cons_cons, List.count_append, List.count_append, ih]
      simp only [List.flatten_cons, List.count_append, List.count_singleton_self, List.length_cons]
      omega

/-- **Rows of the same length** that are joined to the same text are the same, if the texts of one of them do not
hold the character between them. -/
theorem eq_of_intercalate_eq {parts others : List (List Char)} (hlength : parts.length = others.length)
    (hparts : ∀ part ∈ parts, separator ∉ part)
    (heq : [separator].intercalate parts = [separator].intercalate others) : parts = others := by
  cases parts with
  | nil => exact (List.length_eq_zero_iff.mp hlength.symm).symm
  | cons first rest =>
      cases others with
      | nil => cases hlength
      | cons first' rest' =>
          have hnone : (first :: rest).flatten.count separator = 0 := by
            rw [List.count_eq_zero, List.mem_flatten]
            rintro ⟨part, hpart, hmem⟩
            exact hparts part hpart hmem
          -- the characters between the texts use up the count, so that none is left inside
          have hcount := congrArg (List.count separator) heq
          rw [count_intercalate, count_intercalate, hnone] at hcount
          simp only [List.length_cons] at hlength
          have hzero : (first' :: rest').flatten.count separator = 0 := by omega
          have hothers : ∀ part ∈ first' :: rest', separator ∉ part := by
            intro part hpart hmem
            exact List.count_eq_zero.mp hzero (List.mem_flatten.mpr ⟨part, hpart, hmem⟩)
          rw [← List.splitOn_intercalate separator hparts (by simp),
            ← List.splitOn_intercalate separator hothers (by simp), heq]

/-! ## Lines -/

lemma not_isLineEnd_of_mem_linesFrom {taken chars line : List Char} (htaken : ∀ c ∈ taken, isLineEnd c = false)
    (h : line ∈ linesFrom taken chars) : ∀ c ∈ line, isLineEnd c = false := by
  have hreverse : ∀ c ∈ taken.reverse, isLineEnd c = false :=
    fun c hc => htaken c (List.mem_reverse.mp hc)
  fun_induction linesFrom taken chars with
  | case1 taken hempty => cases h
  | case2 taken hfull =>
      obtain rfl := List.mem_singleton.mp h
      exact hreverse
  | case3 taken rest ih =>
      rcases List.mem_cons.mp h with rfl | h
      · exact hreverse
      · exact ih (by simp) h (by simp)
  | case4 taken c rest _ hend ih =>
      rcases List.mem_cons.mp h with rfl | h
      · exact hreverse
      · exact ih (by simp) h (by simp)
  | case5 taken c rest _ hend ih =>
      have hmore : ∀ d ∈ c :: taken, isLineEnd d = false :=
        List.forall_mem_cons.mpr ⟨by simpa using hend, htaken⟩
      exact ih hmore h (fun d hd => hmore d (List.mem_reverse.mp hd))

/-- Lines hold no character that ends a line. -/
lemma not_isLineEnd_of_mem_lines {text line : String} (h : line ∈ lines text) :
    ∀ c ∈ line.toList, isLineEnd c = false := by
  obtain ⟨chars, hchars, rfl⟩ := List.mem_map.mp h
  rw [String.toList_ofList]
  exact not_isLineEnd_of_mem_linesFrom (List.forall_mem_nil _) hchars

end Redaction.Text
