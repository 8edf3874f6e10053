/-!
# Substrings

* `Text.occursIn`: whether a text contains another. The empty text occurs in every text.
-/

namespace Redaction.Text

/-- Whether characters occur in a row among others. -/
def occursAmong (part : List Char) : List Char → Bool
  | [] => part.isEmpty
  | c :: rest => part.isPrefixOf (c :: rest) || occursAmong part rest

/-- Whether a text occurs in another. -/
def occursIn (part text : String) : Bool :=
  occursAmong part.toList text.toList

theorem occursAmong_iff {part text : List Char} : occursAmong part text = true ↔ part <:+: text := by
  induction text with
  | nil => simp [occursAmong]
  | cons c rest ih => simp [occursAmong, ih, List.infix_cons_iff]

end Redaction.Text
