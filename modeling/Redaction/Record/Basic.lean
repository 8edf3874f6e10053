import Redaction.Fields
import Redaction.Percent.Format
import Redaction.Record.Raised

/-!
# Log records

* `Record.Draft`: what a record is made of.
* `Record.ofDraft`: the record, unless an extra field would replace something that every record has.
* `Record.render`: the rendered message.
* `Record.levelName`, `Record.moduleName`: what is derived from the parts.
-/

namespace Redaction

/-- A record of the log. -/
structure Record where
  message : Value
  /-- The arguments of the message. None are left once the message has been rewritten. -/
  arguments : Option Percent.Arguments
  logger : String
  level : Int
  path : String
  line : Int
  function : Option String
  /-- The names of extra fields are distinct. -/
  extras : List (String × Value)
  /-- The error that is reported with the record, if any, with its causes. -/
  raised : Option (List Raised)
deriving Inhabited

namespace Record

/-- The parts of a record as the caller gives them. -/
structure Draft where
  message : Value
  arguments : List Value := []
  logger : String
  level : Int
  path : String
  line : Int
  function : Option String
  /-- Of a name that comes more than once, the last value counts. -/
  extras : List (String × Value) := []
  raised : Option (List Raised) := none

/-- The names of what every record has from the start. -/
def attributes : List String :=
  ["name", "msg", "args", "levelname", "levelno", "pathname", "filename", "module", "exc_info", "exc_text",
    "stack_info", "lineno", "funcName", "created", "msecs", "relativeCreated", "thread", "threadName",
    "processName", "process"]

/-- Names that no extra field can have: those of attributes, and of two more that are filled in later. -/
def reserved : List String :=
  attributes ++ ["message", "asctime"]

/-- An extra field with a reserved name. -/
structure Clash where
  name : String
deriving Repr, DecidableEq

/-- The wording of a clash. -/
def Clash.message (clash : Clash) : String :=
  Text.quoted ("Attempt to overwrite " ++ Text.quoted clash.name ++ " in LogRecord")

/-- A dictionary that is the only argument and has entries is the source of named arguments. -/
def argumentsOf : List Value → Percent.Arguments
  | [.dict (entry :: entries)] => .mapping (entry :: entries)
  | items => .row items

/-- The record of a draft. -/
def ofDraft (draft : Draft) : Except Clash Record :=
  let extras := Fields.ofList draft.extras
  match extras.find? fun (name, _) => reserved.contains name with
  | some (name, _) => .error ⟨name⟩
  | none => .ok {
      message := draft.message
      arguments := some (argumentsOf draft.arguments)
      logger := draft.logger
      level := draft.level
      path := draft.path
      line := draft.line
      function := draft.function
      extras := extras
      raised := draft.raised }

/-! ## The message -/

/-- The arguments if there are any. A message without them is not a template. -/
def givenArguments? (record : Record) : Option Percent.Arguments :=
  match record.arguments with
  | some (.row []) | none => none
  | some arguments => some arguments

/-- The rendered message. -/
def render (record : Record) : Except Percent.Fault String := do
  let template ← (Percent.shown record.message.text).map String.ofList
  match record.givenArguments? with
  | none => pure template
  | some arguments => Percent.render template arguments

/-- The arguments as a value. -/
def argumentValue (record : Record) : Value :=
  match record.arguments with
  | none => .none
  | some (.row items) => .tuple items
  | some (.mapping entries) => .dict entries

/-! ## Derived parts -/

/-- The name of a level. -/
def nameOfLevel (level : Int) : String :=
  if level = 0 then "NOTSET"
  else if level = 10 then "DEBUG"
  else if level = 20 then "INFO"
  else if level = 30 then "WARNING"
  else if level = 40 then "ERROR"
  else if level = 50 then "CRITICAL"
  else "Level " ++ Text.signedDecimal level

/-- The name of the level of a record. -/
def levelName (record : Record) : String :=
  nameOfLevel record.level

/-- What follows the last slash. -/
def fileName (path : List Char) : List Char :=
  (path.reverse.takeWhile (· ≠ '/')).reverse

/-- A file name without what follows its last point. Points at the start do not count. -/
def stem (name : List Char) : List Char :=
  let kept := (name.reverse.dropWhile (· ≠ '.')).drop 1
  if kept.all (· = '.') then name else kept.reverse

/-- The name of the module that a record comes from. -/
def moduleName (record : Record) : String :=
  String.ofList (stem (fileName record.path.toList))

end Record
end Redaction
