import Redaction.Engine.Pool
import Redaction.Event
import Redaction.Record.Filter
import Redaction.Record.Layout
import Redaction.Text.Case

/-!
# The log

The log has a level and sinks. A record reaches a sink if its level is high enough for both; there it
passes the filters of the sink and is written as a line.

* `Log.configure`: gives the log a level and a single sink for the console.
* `Log.write`: writes a record.
* `levelOf`: the level that a name means.
-/

namespace Redaction

/-- How a sink writes records. -/
inductive Layout
  | structured
  | plain
deriving Repr, DecidableEq

/-- A line for a record, if it can be written. -/
def Layout.line (layout : Layout) (time : String) (record : Record) : Except Record.LineFault String :=
  match layout with
  | structured => record.structured time
  | plain => record.plain time

/-- Where records go. A sink without a layout drops everything. -/
structure Sink where
  level : Int
  layout : Option Layout
  /-- The filters, each with its name and its engine. -/
  filters : List (String × Engine) := []

/-- The log. -/
structure Log where
  level : Int
  sinks : List Sink
  pool : Pool := {}
  place : Place := ⟨"main", none⟩

/-! ## Levels -/

/-- The names of levels. -/
def levelNames : List (String × Int) :=
  [("CRITICAL", 50), ("FATAL", 50), ("ERROR", 40), ("WARNING", 30), ("WARN", 30), ("INFO", 20),
    ("DEBUG", 10), ("NOTSET", 0)]

/-- A name that looks like one of a level and means something that is none. -/
inductive LevelFault
  | template
  | styles
deriving Repr, DecidableEq

/-- The template of plain lines in the long run of things, under a name of its own. -/
def basicTemplate : String := "%(levelname)s:%(name)s:%(message)s"

/-- How the table of template styles is shown. -/
def stylesText : String :=
  "\x7b'%': (<class 'logging.PercentStyle'>, '%(levelname)s:%(name)s:%(message)s'), '\x7b': (<class " ++
  "'logging.StrFormatStyle'>, '\x7blevelname\x7d:\x7bname\x7d:\x7bmessage\x7d'), '$': (<class " ++
  "'logging.StringTemplateStyle'>, '$\x7blevelname\x7d:$\x7bname\x7d:$\x7bmessage\x7d')\x7d"

/-- The wording of a fault. -/
def LevelFault.message : LevelFault → String
  | template => "Unknown level: " ++ Text.quoted basicTemplate
  | styles => "Level not an integer or a valid string: " ++ stylesText

/-- The level that is used for names that mean nothing. -/
def defaultLevel : Int := 20

/-- The level that a name means; the case of its letters does not matter. -/
def levelOf (name : String) : Except LevelFault Int :=
  let upper := String.ofList (Text.Case.upperText name.toList)
  match levelNames.lookup upper with
  | some level => .ok level
  | none =>
    if upper = "BASIC_FORMAT" then .error .template
    else if upper = "_STYLES" then .error .styles
    else .ok defaultLevel

/-! ## Writing -/

namespace Log

/-- Work on the log. -/
abbrev Action (α : Type) := StateM Log α

/-- Redacts a text. There is no new text if the very same one came back. -/
def rewrite (engine : Engine) (text : String) : Action (Option String) := do
  let log ← get
  let (out, place, _, pool) := log.pool.rewriteAt log.place engine text
  set { log with place, pool }
  pure out

/-- Passes a record through filters in order, up to the first that holds it back: whether the record goes
on after all of them, and the record as it is then. -/
def filterAll (record : Record) : List (String × Engine) → Action (Bool × Record)
  | [] => pure (true, record)
  | (name, engine) :: rest => do
    let (goesOn, record) ← record.filter name (rewrite engine)
    if goesOn then filterAll record rest else pure (false, record)

/-- Passes a record through the sinks in order: what they write, each line with a line break. A record that
cannot be written leaves nothing. -/
def emit (time : String) (record : Record) : List Sink → Action String
  | [] => pure ""
  | sink :: rest =>
    match sink.layout with
    | some layout => do
      if sink.level ≤ record.level then
        let (goesOn, record) ← filterAll record sink.filters
        let line := match goesOn, layout.line time record with
          | true, .ok line => line ++ "\n"
          | _, _ => ""
        return line ++ (← emit time record rest)
      else emit time record rest
    | none => emit time record rest

/-- Whether the log takes records of a level. -/
def isEnabledFor (log : Log) (level : Int) : Bool :=
  0 < level && log.level ≤ level

/-- Writes a record: what appears on the console. -/
def write (time : String) (record : Record) : Action String := do
  let log ← get
  if log.isEnabledFor record.level then emit time record log.sinks else pure ""

/-! ## Setting up -/

/-- The record that says that the log is set up. -/
def announcement (level version : String) : Record where
  message := .str "Logging configured successfully"
  arguments := some (.row [])
  logger := "root"
  level := Severity.info.level
  path := "logging_config.py"
  line := 0
  function := some "configure_logging"
  extras := [("log_level", .str level), ("python_version", .str version)]
  raised := none

/-- Gives the log a level by name and a single sink, and announces it: what appears on the console. A name
that is taken by something else changes nothing. -/
def configure (time version level : String) (structured : Bool) (log : Log) :
    Except LevelFault String × Log :=
  match levelOf level with
  | .error fault => (.error fault, log)
  | .ok number =>
    let sink : Sink := { level := number, layout := some (if structured then .structured else .plain) }
    let (text, log) := (write time (announcement level version)).run
      { log with level := number, sinks := [sink] }
    (.ok text, log)

/-- Adds a filter to every sink. -/
def addFilter (name : String) (engine : Engine) (log : Log) : Log :=
  { log with sinks := log.sinks.map fun sink => { sink with filters := sink.filters ++ [(name, engine)] } }

end Log
end Redaction
