import Redaction.Number.Binary64

/-!
# JSON values

* `Json`: a JSON value. Whole numbers of any size and numbers with a fraction or an exponent are kept
  apart, and objects keep all their members in the order of the text.
* `Json.member?`: the last member with a name, which is the one that counts.
-/

namespace Redaction

/-- A JSON value. -/
inductive Json
  | null
  | bool (value : Bool)
  | int (value : Int)
  | float (value : Binary64)
  | string (text : String)
  | array (items : List Json)
  | object (members : List (String × Json))
deriving Repr, Inhabited

namespace Json

/-- The last member with a name. -/
def lastMember? (members : List (String × Json)) (name : String) : Option Json :=
  members.reverse.lookup name

/-- The member of an object that counts under a name. -/
def member? (value : Json) (name : String) : Option Json :=
  match value with
  | object members => lastMember? members name
  | _ => none

end Json
end Redaction
