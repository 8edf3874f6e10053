import Redaction.Json.Reader
import Redaction.Value.Json

/-!
# What is wrong with a document

What reads a document finds all problems of its shape at once, and quotes the value that each is about. A
document that is no JSON text has no values. It is quoted itself, as the text or the bytes that were handed in.

* `Policy.Data`: a document as it is handed in.
* `Policy.Problem`: a problem of shape, the path to it and the value that has it.
* `Policy.Finding`: what is wrong with a document.
* `Policy.Complaint`: what is said about it.
* `Complaint.message`: its wording.
-/

namespace Redaction.Policy

/-- A policy document as it is handed in. -/
inductive Data
  | text (text : String)
  | bytes (bytes : List UInt8)
deriving Repr, DecidableEq

/-- The length of a document: of a text in characters, else in bytes. -/
def Data.length : Data → Nat
  | text t => t.length
  | bytes b => b.length

/-- The bytes that are parsed. -/
def Data.encoded : Data → List UInt8
  | text t => Text.Utf8.encode t
  | bytes b => b

/-! ## Quotes -/

/-- A value as it is quoted. -/
structure Quote where
  text : String
  typeName : String
deriving Repr, DecidableEq

namespace Quote

/-- The longest start of a text that takes no more than `room` bytes. -/
def startWithin (room : Nat) : List Char → List Char
  | [] => []
  | c :: rest => if c.utf8Size ≤ room then c :: startWithin (room - c.utf8Size) rest else []

/-- A text of at most fifty bytes; a longer one is given by its two ends. -/
def shortened (text : String) : String :=
  if text.utf8ByteSize ≤ 50 then text
  else
    String.ofList (startWithin 25 text.toList) ++ "..." ++
      String.ofList (startWithin 24 text.toList.reverse).reverse

/-- Quotes a value. One that has no text is only named. -/
def ofValue (value : Value) : Quote where
  text := shortened <| match value.literal with
    | .ok text => text
    | .error _ => "<unprintable " ++ value.typeName ++ " object>"
  typeName := value.typeName

/-- Quotes a document as it was handed in. -/
def ofData : Data → Quote
  | .text text => ofValue (.str text)
  | .bytes bytes => ofValue (.bytes bytes)

end Quote

/-! ## Problems -/

/-- What is wrong with the shape of a document. -/
inductive Problem.Kind
  | notObject
  | notArray
  | notString
  | notAllowed
  | notInteger
  | fractional
  | notFinite
  | integerTooLarge
  | unreadableInteger
deriving Repr, DecidableEq

/-- A short name for each kind of problem. -/
def Problem.Kind.code : Problem.Kind → String
  | notObject => "model_type"
  | notArray => "list_type"
  | notString => "string_type"
  | notAllowed => "extra_forbidden"
  | notInteger => "int_type"
  | fractional => "int_from_float"
  | notFinite => "finite_number"
  | integerTooLarge => "int_parsing_size"
  | unreadableInteger => "int_parsing"

/-- The wording of a kind of problem. -/
def Problem.Kind.message : Problem.Kind → String
  | notObject => "Input should be an object"
  | notArray => "Input should be a valid array"
  | notString => "Input should be a valid string"
  | notAllowed => "Extra inputs are not permitted"
  | notInteger => "Input should be a valid integer"
  | fractional => "Input should be a valid integer, got a number with a fractional part"
  | notFinite => "Input should be a finite number"
  | integerTooLarge => "Unable to parse input string as an integer, exceeded maximum size"
  | unreadableInteger => "Input should be a valid integer, unable to parse string as an integer"

/-- A problem, where it is — names of members and indices of items, from the outside in — and the value that
has it. -/
structure Problem where
  kind : Problem.Kind
  path : List String
  found : Quote
deriving Repr, DecidableEq

/-! ## Complaints -/

/-- What is wrong with a document. -/
inductive Finding
  | notJson (fault : Json.Fault)
  | misshapen (problems : List Problem)
deriving Repr, DecidableEq

/-- What is said about a document: what is wrong with it, as what it was handed in, and where there are pages
about kinds of problems, if they are named. -/
structure Complaint where
  finding : Finding
  given : Data
  pages : Option String
deriving Repr, DecidableEq

/-- One thing that a complaint says. -/
structure Complaint.Entry where
  code : String
  path : List String
  message : String
  quote : Quote
deriving Repr, DecidableEq

namespace Complaint

/-- All that a complaint says. -/
def entries (complaint : Complaint) : List Entry :=
  match complaint.finding with
  | .notJson fault => [⟨"json_invalid", [], "Invalid JSON: " ++ fault.message, .ofData complaint.given⟩]
  | .misshapen problems =>
    problems.map fun problem => ⟨problem.kind.code, problem.path, problem.kind.message, problem.found⟩

/-- A step of a path as it is shown; one with a point in it is set apart. -/
def shownStep (step : String) : String :=
  if step.toList.contains '.' then "`" ++ step ++ "`" else step

/-- The line that names the page about a kind of problem, if there are pages. -/
def pageLine (pages : Option String) (code : String) : String :=
  match pages with
  | some address => "\n    For further information visit " ++ address ++ code
  | none => ""

/-- The lines of an entry. -/
def Entry.text (pages : Option String) (entry : Entry) : String :=
  let place := if entry.path.isEmpty then "" else String.intercalate "." (entry.path.map shownStep) ++ "\n"
  place ++ "  " ++ entry.message ++ " [type=" ++ entry.code ++ ", input_value=" ++ entry.quote.text ++
    ", input_type=" ++ entry.quote.typeName ++ "]" ++ pageLine pages entry.code

/-- The wording of a complaint. -/
def message (complaint : Complaint) : String :=
  let entries := complaint.entries
  Text.decimal entries.length ++ (if entries.length = 1 then " validation error" else " validation errors") ++
    " for Policy\n" ++ String.intercalate "\n" (entries.map (·.text complaint.pages))

end Complaint
end Redaction.Policy
