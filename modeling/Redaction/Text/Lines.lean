/-!
# Lines

* `Text.lines`: the lines of a text without their ends. A carriage return and a line feed after it end a
  line together, and an end at the end of the text starts no further line.
-/

namespace Redaction.Text

/-- A character that ends a line. -/
def isLineEnd (c : Char) : Bool :=
  let code := c.toNat
  (0x0A ≤ code && code ≤ 0x0D) || (0x1C ≤ code && code ≤ 0x1E) || code = 0x85 || code = 0x2028 ||
    code = 0x2029

/-- The lines of a text; `taken` are the characters of the current line, the last first. -/
def linesFrom (taken : List Char) : List Char → List (List Char)
  | [] => if taken.isEmpty then [] else [taken.reverse]
  | '\r' :: '\n' :: rest => taken.reverse :: linesFrom [] rest
  | c :: rest => if isLineEnd c then taken.reverse :: linesFrom [] rest else linesFrom (c :: taken) rest

/-- The lines of a text. -/
def lines (text : String) : List String :=
  (linesFrom [] text.toList).map String.ofList

end Redaction.Text
