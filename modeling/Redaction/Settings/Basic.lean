import Redaction.FileTree
import Redaction.Log
import Redaction.Number.Binary64
import Redaction.Settings.EnvFile
import Redaction.Text.Utf8
import Redaction.Value.Kind

/-!
# Settings

Three settings, each of which may be given directly, by a variable of the environment, or by one of an
environment file; the first of these that has it counts.

* `Settings`: the settings.
* `Settings.read`: the settings from their sources, or all problems with them.
-/

namespace Redaction

/-- The settings. -/
structure Settings where
  policyPath : Option FilePath := none
  logLevel : String := "INFO"
  structuredLogging : Bool := true
deriving Repr, DecidableEq

namespace Settings

/-- What is wrong with a setting. -/
inductive Problem.Kind
  | notPath
  | notText
  | unreadableText
  | unknownLevel (text : String)
  | notTruth
  | unreadableTruth
deriving Repr, DecidableEq

/-- A short name for each kind of problem. -/
def Problem.Kind.code : Problem.Kind → String
  | notPath => "path_type"
  | notText => "string_type"
  | unreadableText => "string_unicode"
  | unknownLevel _ => "value_error"
  | notTruth => "bool_type"
  | unreadableTruth => "bool_parsing"

/-- The wording of a kind of problem. -/
def Problem.Kind.message : Problem.Kind → String
  | notPath => "Input is not a valid path for <class 'pathlib.Path'>"
  | notText => "Input should be a valid string"
  | unreadableText => "Input should be a valid string, unable to parse raw data as a unicode string"
  | unknownLevel text => "Value error, Unknown log level: " ++ text
  | notTruth => "Input should be a valid boolean"
  | unreadableTruth => "Input should be a valid boolean, unable to interpret input"

/-- A problem with a setting. -/
structure Problem where
  setting : String
  kind : Problem.Kind
deriving Repr, DecidableEq

/-! ## Values of settings -/

/-- A path, or nothing. -/
def pathOf : Value → Except Problem.Kind (Option FilePath)
  | .none => .ok none
  | .str text => .ok (some (FilePath.ofString text))
  | _ => .error .notPath

/-- A text. Bytes stand for the text that they encode. -/
def textOf : Value → Except Problem.Kind String
  | .str text => .ok text
  | .bytes bytes =>
    match Text.Utf8.decode bytes with
    | .ok text => .ok (String.ofList text)
    | .error _ => .error .unreadableText
  | _ => .error .notText

/-- The name of a level in its usual form: in upper case and without white space around it. -/
def levelName (text : String) : String :=
  String.ofList (Text.Case.upperText (Text.strip text.toList))

/-- The name of a level. -/
def levelOf (value : Value) : Except Problem.Kind String := do
  let text ← textOf value
  let name := levelName text
  if (levelNames.lookup name).isSome then .ok name else .error (.unknownLevel text)

/-- The texts that mean yes, and those that mean no. -/
def yesTexts : List String := ["1", "t", "y", "on", "yes", "true"]

@[inherit_doc yesTexts]
def noTexts : List String := ["0", "f", "n", "no", "off", "false"]

/-- The truth value that a text means. The case of ASCII letters does not matter. -/
def truthOfText (text : String) : Except Problem.Kind Bool :=
  if yesTexts.contains text.toLower then .ok true
  else if noTexts.contains text.toLower then .ok false
  else .error .unreadableTruth

/-- The truth value that a whole number means. -/
def truthOfInt (n : Int) : Except Problem.Kind Bool :=
  if n = 0 then .ok false
  else if n = 1 then .ok true
  else if (Binary64.ofInt? n).isSome then .error .unreadableTruth
  else .error .notTruth

/-- A truth value. -/
def truthOf : Value → Except Problem.Kind Bool
  | .bool value => .ok value
  | .str text => truthOfText text
  | .bytes bytes =>
    match Text.Utf8.decode bytes with
    | .ok text => truthOfText (String.ofList text)
    | .error _ => .error .unreadableTruth
  | .int n => truthOfInt n
  | .float x =>
    match x.toInt? with
    | some n => truthOfInt n
    | none => .error .notTruth
  | _ => .error .notTruth

/-! ## Sources -/

/-- What the names of variables start with. -/
def variablePrefix : String := "LOG_REDACTOR_"

/-- Where settings come from. -/
structure Sources where
  /-- Settings given directly. -/
  given : List (String × Value) := []
  environment : List (String × String) := []
  /-- The text of the environment file, if there is one. -/
  file : Option String := none

/-- The variables of the environment file. -/
def Sources.fileVariables (sources : Sources) : List EnvFile.Variable :=
  match sources.file with
  | some text => EnvFile.read (Fields.ofList sources.environment) text
  | none => []

/-- The value of a setting, if some source has one. The case of its name does not matter. -/
def Sources.value? (sources : Sources) (setting : String) : Option Value :=
  let variable_ := variablePrefix ++ setting
  let given := Fields.lookupCaseless setting (Fields.ofList sources.given)
  let environment := Fields.lookupCaseless variable_ (Fields.ofList sources.environment)
  let file := (Fields.lookupCaseless variable_ sources.fileVariables).join
  given <|> environment.map .str <|> file.map .str

/-- A setting from its sources, or its default if no source has it. -/
def setting {α : Type} (sources : Sources) (name : String) (fallback : α)
    (check : Value → Except Problem.Kind α) : Except Problem α :=
  match sources.value? name with
  | none => .ok fallback
  | some value => (check value).mapError (⟨name, ·⟩)

/-- The problem of a result, if it has one. -/
def problem? {α : Type} : Except Problem α → Option Problem
  | .ok _ => none
  | .error problem => some problem

/-- The settings from their sources, or the problems with them in the order of the settings. -/
def read (sources : Sources) : Except (List Problem) Settings :=
  let defaults : Settings := {}
  let path := setting sources "policy_path" defaults.policyPath pathOf
  let level := setting sources "log_level" defaults.logLevel levelOf
  let structured := setting sources "structured_logging" defaults.structuredLogging truthOf
  match path, level, structured with
  | .ok policyPath, .ok logLevel, .ok structuredLogging =>
    .ok { policyPath, logLevel, structuredLogging }
  | path, level, structured =>
    .error ((problem? path).toList ++ (problem? level).toList ++ (problem? structured).toList)

end Settings
end Redaction
