import Redaction.Record.Basic
import Redaction.Value.Json

/-!
# Lines of the log

The two ways to write a record: as a JSON object on one line, or as plain text.

* `Record.structured`: the JSON line.
* `Record.plain`: the plain line, with the report of an error after it.
-/

namespace Redaction.Record

/-- Why a record cannot be written. -/
inductive LineFault
  | message (fault : Percent.Fault)
  | field (fault : Value.JsonFault)
deriving Repr, DecidableEq

/-- The wording of a fault. -/
def LineFault.text : LineFault → String
  | message fault => fault.message
  | field .tooLong => Percent.Fault.message .integerTooLong
  | field (.key typeName) => "keys must be str, int, float, bool or None, not " ++ typeName

/-- The text of a record's message, with its fault as one of the line. -/
def lineText (record : Record) : Except LineFault String :=
  record.render.mapError .message

/-! ## The JSON line -/

/-- What every JSON line starts with; `time` says when it was written. -/
def fixedFields (time text : String) (record : Record) : List (String × Value) :=
  [("timestamp", .str time), ("level", .str record.levelName), ("logger", .str record.logger),
    ("message", .str text), ("module", .str record.moduleName), ("function", .ofText? record.function),
    ("line", .int record.line)] ++
  match record.raised with
  | some chain => [("exception", .str (Raised.report chain))]
  | none => []

/-- Names of extra fields that are not written. -/
def hiddenFields : List String :=
  reserved ++ ["taskName"]

/-- All fields of the JSON line. An extra field never replaces one that is there. -/
def fields (time text : String) (record : Record) : List (String × Value) :=
  let start := fixedFields time text record
  start ++ record.extras.filter fun (name, _) =>
    !hiddenFields.contains name && !(start.map Prod.fst).contains name

/-- The members of the JSON object. -/
def members : List (String × Value) → Except Value.JsonFault (List String)
  | [] => .ok []
  | (name, value) :: rest => do
    let text ← value.json
    let texts ← members rest
    pure ((Json.quoted name ++ ": " ++ text) :: texts)

/-- The record as a JSON object on one line. -/
def structured (time : String) (record : Record) : Except LineFault String := do
  let text ← record.lineText
  let texts ← (members (record.fields time text)).mapError .field
  pure ("\x7b" ++ Value.listed texts ++ "\x7d")

/-! ## The plain line -/

/-- Adds the report of an error below a text. -/
def withReport (text : String) (raised : Option (List Raised)) : String :=
  match raised with
  | none => text
  | some chain =>
    let report := Raised.report chain
    if report.isEmpty then text
    else if text.toList.getLast? = some '\n' then text ++ report else text ++ "\n" ++ report

/-- The record as plain text. -/
def plain (time : String) (record : Record) : Except LineFault String := do
  let text ← record.lineText
  let line := time ++ " - " ++ record.logger ++ " - " ++ record.levelName ++ " - " ++ text
  pure (withReport line record.raised)

end Redaction.Record
