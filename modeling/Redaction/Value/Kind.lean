import Redaction.Value

/-!
# Kinds of values

* `Value.typeName`: the name of the kind of a value, as messages about it say.
* `Value.sameKey`: whether two values are the same key of a dictionary; numbers are compared by size.
* `Value.ofEntries`: a dictionary from keys and values.
-/

namespace Redaction.Value

/-- The name of the kind of a value. -/
def typeName : Value → String
  | none => "NoneType"
  | bool _ => "bool"
  | int _ => "int"
  | float _ => "float"
  | str _ => "str"
  | bytes _ => "bytes"
  | list _ => "list"
  | tuple _ => "tuple"
  | dict _ => "dict"
  | object _ => "Obj"

/-- A whole number; a truth value counts as zero or one. -/
def wholeNumber? : Value → Option Int
  | bool value => some (if value then 1 else 0)
  | int n => some n
  | _ => Option.none

/-- A number of the ones that are equal to others of their size. -/
inductive Size
  | whole (n : Int)
  | other (x : Binary64)
deriving Repr, DecidableEq

/-- The size of a number. A not-a-number has none. -/
def size? : Value → Option Size
  | float .nan => Option.none
  | float x =>
    match x.toInt? with
    | some n => some (.whole n)
    | Option.none => some (.other x)
  | value => value.wholeNumber?.map .whole

mutual

/-- Whether two values are the same key. -/
def sameKey : Value → Value → Bool
  | none, none => true
  | str a, str b => a = b
  | bytes a, bytes b => a = b
  | tuple as, tuple bs => sameKeys as bs
  | a, b =>
    match a.size?, b.size? with
    | some m, some n => m = n
    | _, _ => false

/-- Whether rows have the same keys in the same places. -/
def sameKeys : List Value → List Value → Bool
  | [], [] => true
  | a :: as, b :: bs => sameKey a b && sameKeys as bs
  | _, _ => false

end

/-- Puts a value under a key. A key that is already there keeps its place and its own form. -/
def putEntry (key item : Value) : List (Value × Value) → List (Value × Value)
  | [] => [(key, item)]
  | (k, v) :: rest => if sameKey k key then (k, item) :: rest else (k, v) :: putEntry key item rest

/-- A dictionary; a later entry replaces the value of an earlier one with the same key. -/
def ofEntries (entries : List (Value × Value)) : Value :=
  dict (entries.foldl (fun items (key, item) => putEntry key item items) [])

end Redaction.Value
