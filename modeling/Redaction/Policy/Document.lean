import Redaction.Policy.Complaint
import Redaction.Text.Blank

/-!
# Policy documents

A policy document is a JSON object with a version and a list of rule definitions. Reading one finds all
problems of its shape at once: fields first, in the order in which they are declared, then members that
have no place, in the order of the text.

* `Policy.RuleDefinition`, `Policy.Document`: a document as it was written.
* `Policy.Checked`: a result with the problems of shape that were met.
* `Document.read`: the document of some bytes, or what is wrong with it.
-/

namespace Redaction.Policy

/-- A rule as the document states it; nothing has been checked yet. -/
structure RuleDefinition where
  description : String := ""
  trigger : Option String := none
  search : Option String := none
  replace : Option String := none
deriving Repr, DecidableEq

/-- A document with the right shape. -/
structure Document where
  version : Option Int := none
  rules : List RuleDefinition := []
deriving Repr, DecidableEq

/-- A result with all the problems met on the way. -/
abbrev Checked (α : Type) := Except (List Problem) α

/-- Puts a step in front of the paths of problems. -/
def Checked.under {α : Type} (step : String) (result : Checked α) : Checked α :=
  result.mapError (·.map fun problem => { problem with path := step :: problem.path })

/-- The problems of a result. -/
def Checked.problems {α : Type} : Checked α → List Problem
  | .ok _ => []
  | .error problems => problems

/-- A single problem of a value right here. -/
def problem {α : Type} (kind : Problem.Kind) (value : Json) : Checked α :=
  .error [⟨kind, [], .ofValue (.ofJson value)⟩]

/-! ## Whole numbers in strings -/

namespace WholeNumber

/-- Drops leading zeros and low lines between them, but leaves one digit before a point or the end.
A text that starts with neither a digit nor a minus sign is no number. -/
def dropZeros? : List Char → Option (List Char)
  | '0' :: rest => go '0' rest
  | c :: rest => if ('1' ≤ c && c ≤ '9') || c = '-' then some (c :: rest) else none
  | [] => none
where
  /-- Continues after the zero or low line `last`. -/
  go (last : Char) : List Char → Option (List Char)
    | [] => some [last]
    | c :: rest =>
      if c = '0' || c = '_' then go c rest
      else if '1' ≤ c && c ≤ '9' then some (c :: rest)
      else if c = '.' then some (last :: c :: rest)
      else none

/-- Drops a point that only zeros follow. -/
def dropFraction (text : List Char) : List Char :=
  match text.dropWhile (· ≠ '.') with
  | [] => text
  | _ :: places => if places.all (· = '0') then text.takeWhile (· ≠ '.') else text

/-- Whether two low lines stand side by side. -/
def hasDoubleLine : List Char → Bool
  | '_' :: '_' :: _ => true
  | _ :: rest => hasDoubleLine rest
  | [] => false

/-- Drops single low lines inside a text; a text with others is left alone. -/
def dropLines (text : List Char) : List Char :=
  if text.head? = some '_' || text.getLast? = some '_' || hasDoubleLine text then text
  else text.filter (· ≠ '_')

/-- The digits that are left after all that may be dropped. -/
def cleaned? (text : List Char) : Option (List Char) :=
  let text := Text.trim Text.isWhiteSpace text
  let unsigned? : Option (List Char) :=
    match text with
    | '+' :: '-' :: _ => none
    | '+' :: rest => some rest
    | _ => some text
  unsigned?.bind fun text => (dropZeros? text).map fun text => dropLines (dropFraction text)

/-- The number that plain digits with an optional minus sign write. -/
def plain? (text : List Char) : Except Problem.Kind Int :=
  let (negative, digits) :=
    match text with
    | '-' :: digits => (true, digits)
    | _ => (false, text)
  if digits.isEmpty || !digits.all (fun c => '0' ≤ c && c ≤ '9') then .error .unreadableInteger
  else if digits.head? = some '0' && digits.length ≠ 1 then .error .unreadableInteger
  else if Text.maxDigits < text.length then .error .integerTooLarge
  else .ok (Binary64.signed negative (Text.ofDigits (digits.map fun c => c.toNat - 0x30)))

/-- The whole number that a string stands for. -/
def ofString (text : String) : Except Problem.Kind Int :=
  match cleaned? text.toList with
  | some text => plain? text
  | none => .error .unreadableInteger

/-- The whole number that a number stands for. Beyond 63 bits a number with a point or an exponent is
too large. -/
def ofFloat (number : Binary64) : Except Problem.Kind Int :=
  match number.truncate?, number.toInt? with
  | none, _ => .error .notFinite
  | some _, none => .error .fractional
  | some _, some n => if -0x8000000000000000 < n ∧ n < 0x8000000000000000 then .ok n else .error .integerTooLarge

/-- The whole number that a value stands for. -/
def ofJson? : Json → Except Problem.Kind Int
  | .int n => .ok n
  | .bool value => .ok (if value then 1 else 0)
  | .float number => ofFloat number
  | .string text => ofString text
  | _ => .error .notInteger

/-- The whole number that a value stands for, or what is wrong with the value. -/
def ofJson (value : Json) : Checked Int :=
  match ofJson? value with
  | .ok n => .ok n
  | .error kind => problem kind value

end WholeNumber

/-! ## Fields -/

/-- A text. -/
def textOfJson : Json → Checked String
  | .string text => .ok text
  | value => problem .notString value

/-- A value that may be null. -/
def orNull {α : Type} (read : Json → Checked α) : Json → Checked (Option α)
  | .null => .ok none
  | value => (read value).map some

/-- A field of an object; `absent` is its value if the object has no such member. -/
def field {α : Type} (members : List (String × Json)) (name : String) (read : Json → Checked α)
    (absent : α) : Checked α :=
  match Json.lastMember? members name with
  | some value => (read value).under name
  | none => .ok absent

/-- The problems of members that are no fields. -/
def strangers (members : List (String × Json)) (fields : List String) : List Problem :=
  (members.filter fun (name, _) => !fields.contains name).map fun (name, value) =>
    ⟨.notAllowed, [name], .ofValue (.ofJson value)⟩

/-- A result unless there are problems. -/
def orProblems {α : Type} (problems : List Problem) (result : Checked α) : Checked α :=
  if problems.isEmpty then result else .error problems

/-- The rule definition that a value states. -/
def RuleDefinition.ofJson : Json → Checked RuleDefinition
  | .object members =>
    let description := field members "description" textOfJson ""
    let trigger := field members "trigger" (orNull textOfJson) none
    let search := field members "search" (orNull textOfJson) none
    let replace := field members "replace" (orNull textOfJson) none
    orProblems
      (description.problems ++ trigger.problems ++ search.problems ++ replace.problems ++
        strangers members ["description", "trigger", "search", "replace"])
      (do return ⟨← description, ← trigger, ← search, ← replace⟩)
  | value => problem .notObject value

/-- The rule definitions of a list, the first of which has index `index`. -/
def rulesFrom (index : Nat) : List Json → Checked (List RuleDefinition)
  | [] => .ok []
  | value :: rest =>
    let rule := (RuleDefinition.ofJson value).under (Text.decimal index)
    let rules := rulesFrom (index + 1) rest
    orProblems (rule.problems ++ rules.problems) (do return (← rule) :: (← rules))

/-- The rule definitions that a value lists. -/
def rulesOfJson : Json → Checked (List RuleDefinition)
  | .array values => rulesFrom 0 values
  | value => problem .notArray value

/-- The document that a value states. -/
def Document.ofJson : Json → Checked Document
  | .object members =>
    let version := field members "version" (orNull WholeNumber.ofJson) none
    let rules := field members "rules" rulesOfJson []
    orProblems
      (version.problems ++ rules.problems ++ strangers members ["version", "rules"])
      (do return ⟨← version, ← rules⟩)
  | value => problem .notObject value

/-- The document of some bytes, or what is wrong with it. -/
def Document.read (bytes : List UInt8) : Except Finding Document :=
  match Json.read bytes with
  | .error fault => .error (.notJson fault)
  | .ok value =>
    match Document.ofJson value with
    | .error problems => .error (.misshapen problems)
    | .ok document => .ok document

end Redaction.Policy
