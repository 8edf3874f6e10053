import Redaction.Text.Quoted

/-!
# Raised errors

The error that a record reports, with the errors that caused it.

* `Raised`: an error.
* `Raised.report`: the text of an error and of its causes, the first cause first.
-/

namespace Redaction

/-- An error by the name of its class and the text it was raised with. -/
structure Raised where
  className : String
  text : Option String
deriving Repr, DecidableEq

namespace Raised

/-- The name under which a class is shown; some classes have more than one name. -/
def shownName (raised : Raised) : String :=
  if raised.className = "IOError" || raised.className = "EnvironmentError" then "OSError"
  else raised.className

/-- Errors in a program's text always have something to tell. -/
def isSyntax (raised : Raised) : Bool :=
  ["SyntaxError", "IndentationError", "TabError"].contains raised.className

/-- What an error tells. A missing key is shown in quotes. -/
def detail (raised : Raised) : String :=
  match raised.text with
  | none => ""
  | some text => if raised.className = "KeyError" then Text.quoted text else text

/-- The line for an error. -/
def line (raised : Raised) : String :=
  if raised.isSyntax then
    raised.shownName ++ ": " ++ if raised.detail.isEmpty then "<no detail available>" else raised.detail
  else if raised.detail.isEmpty then raised.shownName
  else raised.shownName ++ ": " ++ raised.detail

/-- What stands between an error and the one it caused. -/
def causeSeparator : String :=
  "\n\nThe above exception was the direct cause of the following exception:\n\n"

/-- The report of an error, which is followed by its causes in the list. -/
def report : List Raised → String
  | [] => "NoneType: None"
  | chain => String.intercalate causeSeparator (chain.map line).reverse

end Raised
end Redaction
