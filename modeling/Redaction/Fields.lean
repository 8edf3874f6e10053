/-!
# Named fields

Rows of names and values in which each name stands once, in the order in which the names came first.

* `Fields.put`: puts a value under a name.
* `Fields.ofList`: the row of a list in which names may come more than once.
-/

namespace Redaction.Fields

variable {α : Type}

/-- Puts a value under a name. A name that is already there keeps its place. -/
def put (name : String) (value : α) : List (String × α) → List (String × α)
  | [] => [(name, value)]
  | (n, v) :: rest => if n = name then (n, value) :: rest else (n, v) :: put name value rest

/-- A row of fields, in which the last value of a name counts. -/
def ofList (fields : List (String × α)) : List (String × α) :=
  fields.foldl (fun row (name, value) => put name value row) []

/-- The value of the last name that is a given one when the case of ASCII letters is put aside. -/
def lookupCaseless (name : String) (fields : List (String × α)) : Option α :=
  (fields.reverse.find? fun (other, _) => other.toLower = name.toLower).map Prod.snd

end Redaction.Fields
