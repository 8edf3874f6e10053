import Redaction.Policy.Error
import Redaction.Value

/-!
# Events

What the library itself reports to the log while it works. Events are data; their level, channel,
wording and extra fields are functions of them.

* `Event`: an event.
* `Logged`: computations that report events and may fail; events stay reported when they do.
-/

namespace Redaction

/-- How serious an event is. -/
inductive Severity
  | debug
  | info
  | warning
  | error
deriving Repr, DecidableEq

/-- The name of a level in the log. -/
def Severity.name : Severity → String
  | debug => "DEBUG"
  | info => "INFO"
  | warning => "WARNING"
  | error => "ERROR"

/-- The number of a level in the log. -/
def Severity.level : Severity → Int
  | debug => 10
  | info => 20
  | warning => 30
  | error => 40

/-- The part of the library that reports an event. -/
inductive Channel
  | loader
  | engine
  | cache
  | service
deriving Repr, DecidableEq

/-- The name of the logger of a part. -/
def Channel.logger : Channel → String
  | loader => "log_redactor.core.loader"
  | engine => "log_redactor.engine.redactor"
  | cache => "log_redactor.engine.matchers"
  | service => "log_redactor.service.pipeline"

/-- Something that the library reports. -/
inductive Event
  | emptyPolicy (source : Option String)
  | emptyPolicyFile (source : String)
  | unreadablePolicy (source : String) (error : FileError)
  | malformedPolicy (source : Option String) (complaint : Policy.Complaint)
  | versionMissing (source : Option String)
  | versionUnsupported (source : Option String) (version : Int)
  | invalidRule (source : Option String) (message : String)
  | ruleCompiled (index : Nat) (trigger description : String)
  | policyLoaded (source : Option String) (rules groups : Nat)
  | engineReady (rules groups : Nat)
  | cacheCreated (groups : Nat)
  | serviceStarting (path : Option String)
  | noPolicy
  | serviceReady
  | serviceFailed
deriving Repr, DecidableEq

namespace Event

/-- How serious an event is. -/
def severity : Event → Severity
  | emptyPolicy _ | emptyPolicyFile _ | policyLoaded _ _ _ | engineReady _ _ => .info
  | serviceStarting _ | serviceReady => .info
  | unreadablePolicy _ _ | malformedPolicy _ _ | versionMissing _ | versionUnsupported _ _ => .error
  | invalidRule _ _ | serviceFailed => .error
  | ruleCompiled _ _ _ | cacheCreated _ => .debug
  | noPolicy => .warning

/-- Which part reports an event. -/
def channel : Event → Channel
  | engineReady _ _ => .engine
  | cacheCreated _ => .cache
  | serviceStarting _ | noPolicy | serviceReady | serviceFailed => .service
  | _ => .loader

/-- The wording of an event. -/
def message : Event → String
  | emptyPolicy _ => "Empty policy, no rules loaded"
  | emptyPolicyFile _ => "Empty policy file, no rules loaded"
  | unreadablePolicy source error => "Cannot read policy file: " ++ error.message source
  | malformedPolicy _ complaint => "Policy parsing error: " ++ complaint.message
  | versionMissing _ => "Policy has no version"
  | versionUnsupported _ version => "Unsupported policy version: " ++ Text.signedDecimal version
  | invalidRule _ message => "Invalid redaction rule: " ++ message
  | ruleCompiled _ _ _ => "Compiled redaction rule"
  | policyLoaded _ _ _ => "Redaction policy loaded"
  | engineReady _ _ => "Redaction engine ready"
  | cacheCreated _ => "MatcherCache created for current context"
  | serviceStarting _ => "Initializing redaction engine"
  | noPolicy => "No redaction policy configured"
  | serviceReady => "Redaction engine initialized successfully"
  | serviceFailed => "Failed to initialize redaction engine"

/-- The extra fields of an event. -/
def extras : Event → List (String × Value)
  | emptyPolicy source | malformedPolicy source _ | versionMissing source => [("source", .ofText? source)]
  | versionUnsupported source _ | invalidRule source _ => [("source", .ofText? source)]
  | emptyPolicyFile source | unreadablePolicy source _ => [("source", .str source)]
  | ruleCompiled index trigger description =>
    [("rule_index", .ofNat index), ("trigger", .str trigger), ("rule", .str description)]
  | policyLoaded source rules groups =>
    [("source", .ofText? source), ("rule_count", .ofNat rules), ("trigger_count", .ofNat groups)]
  | engineReady rules groups => [("rule_count", .ofNat rules), ("trigger_count", .ofNat groups)]
  | cacheCreated groups => [("trigger_count", .ofNat groups)]
  | serviceStarting path => [("policy_path", .str (path.getD "None"))]
  | noPolicy | serviceReady | serviceFailed => []

end Event

/-- Computations that report events and may fail. -/
abbrev Logged (ε α : Type) := ExceptT ε (StateM (List Event)) α

namespace Logged

variable {ε α : Type}

/-- Reports an event. -/
def report (event : Event) : Logged ε Unit :=
  modify (· ++ [event])

/-- The result and the events of a computation. -/
def run (action : Logged ε α) : Except ε α × List Event :=
  (ExceptT.run action).run []

end Logged
end Redaction
