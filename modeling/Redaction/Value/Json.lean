import Redaction.Json.Basic
import Redaction.Json.Text
import Redaction.Value.Kind
import Redaction.Value.Text

/-!
# Values in JSON

Every value can be written in JSON except for two: a dictionary with a key that is neither a text nor a
number nor a truth value nor nothing, and a whole number with too many digits. What JSON has no form for
is written as the text of the value.

* `Value.json`: a value in JSON.
* `Value.JsonFault`: why a value cannot be written.
* `Value.ofJson`: the value that a JSON value stands for.
-/

namespace Redaction.Value

/-- Why a value cannot be written in JSON. -/
inductive JsonFault
  | tooLong
  | key (typeName : String)
deriving Repr, DecidableEq

/-- The digits of a whole number in JSON. -/
def jsonDigits (n : Int) : Except JsonFault String :=
  match digits n with
  | .ok text => .ok text
  | .error _ => .error .tooLong

/-- A floating-point number in JSON; the ones that are not finite have names. -/
def jsonFloat : Binary64 → String
  | .nan => "NaN"
  | .infinity negative => if negative then "-Infinity" else "Infinity"
  | x => x.text

/-- A truth value in JSON. -/
def jsonBool (value : Bool) : String :=
  if value then "true" else "false"

/-- The text of a key of an object. -/
def jsonKey : Value → Except JsonFault String
  | str text => .ok text
  | none => .ok "null"
  | bool value => .ok (jsonBool value)
  | int n => jsonDigits n
  | float x => .ok (jsonFloat x)
  | value => .error (.key value.typeName)

mutual

/-- A value in JSON. -/
def json : Value → Except JsonFault String
  | none => .ok "null"
  | bool value => .ok (jsonBool value)
  | int n => jsonDigits n
  | float x => .ok (jsonFloat x)
  | str text => .ok (Json.quoted text)
  | bytes items => .ok (Json.quoted (Text.quotedBytes items))
  | object text => .ok (Json.quoted text)
  | list items => do
    let texts ← jsonItems items
    pure ("[" ++ listed texts ++ "]")
  | tuple items => do
    let texts ← jsonItems items
    pure ("[" ++ listed texts ++ "]")
  | dict entries => do
    let texts ← jsonEntries entries
    pure ("\x7b" ++ listed texts ++ "\x7d")

/-- The items of an array. -/
def jsonItems : List Value → Except JsonFault (List String)
  | [] => .ok []
  | item :: rest => do
    let text ← json item
    let texts ← jsonItems rest
    pure (text :: texts)

/-- The members of an object. -/
def jsonEntries : List (Value × Value) → Except JsonFault (List String)
  | [] => .ok []
  | (key, item) :: rest => do
    let name ← jsonKey key
    let text ← json item
    let texts ← jsonEntries rest
    pure ((Json.quoted name ++ ": " ++ text) :: texts)

end

mutual

/-- The value that a JSON value stands for. -/
def ofJson : Json → Value
  | .null => none
  | .bool value => bool value
  | .int n => int n
  | .float x => float x
  | .string text => str text
  | .array items => list (ofJsonItems items)
  | .object members => ofEntries (ofJsonMembers members)

/-- The values of the items of an array. -/
def ofJsonItems : List Json → List Value
  | [] => []
  | item :: rest => ofJson item :: ofJsonItems rest

/-- The keys and values of the members of an object. -/
def ofJsonMembers : List (String × Json) → List (Value × Value)
  | [] => []
  | (name, item) :: rest => (str name, ofJson item) :: ofJsonMembers rest

end

end Redaction.Value
