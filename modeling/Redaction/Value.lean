import Redaction.Number.Binary64

/-!
# Values

The values that log records carry: arguments of messages, extra fields, and what stands for a message.

* `Value`: a value. An object of any other class is known by its text alone.
-/

namespace Redaction

/-- A value in a log record. -/
inductive Value
  | none
  | bool (value : Bool)
  | int (value : Int)
  | float (value : Binary64)
  | str (text : String)
  | bytes (bytes : List UInt8)
  | list (items : List Value)
  | tuple (items : List Value)
  /-- Keys and values in the order of insertion. -/
  | dict (items : List (Value × Value))
  /-- Any other object that has a text whenever it is asked for one; it prints as `text`. -/
  | object (text : String)
deriving Repr, Inhabited

namespace Value

/-- A text that may be absent. -/
def ofText? : Option String → Value
  | some text => str text
  | Option.none => none

/-- A natural number. -/
def ofNat (n : Nat) : Value :=
  int n

end Value
end Redaction
