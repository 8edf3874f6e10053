import Redaction.Event
import Redaction.Policy.Reader
import Redaction.Policy.Rule

/-!
# Loading policies

A policy is loaded all at once: the document is read, its version is checked, and its rules are compiled
in order until one is found wanting.

* `Policy.supportedVersion`: the only version of documents.
* `Policy.compileRule`: a checked rule from its definition.
* `Policy.load`: the store of a policy given as a text or as bytes. One of no length has no rules.
* `Policy.loadFile`: the store of a policy file. A file of no bytes has no rules and is not read.
-/

namespace Redaction.Policy

/-- The version of policy documents. -/
def supportedVersion : Int := 1

/-- The trigger of a rule that names none; it occurs in every message. -/
def defaultTrigger : String := ""

/-- A text that is there and not empty. -/
def nonEmpty? : Option String → Option String
  | some text => if text.isEmpty then none else some text
  | none => none

/-- Accepts what was not refused; a fault is a defect of the policy, a limit is not. -/
def accepted {α : Type} (defect : Pattern.Fault → Defect) :
    Except Pattern.Refusal α → Except (Defect ⊕ Pattern.Limit) α
  | .ok a => .ok a
  | .error (.fault fault) => .error (.inl (defect fault))
  | .error (.limit limit) => .error (.inr limit)

/-- Checks a rule definition and compiles it. The pattern is looked at before the replacement. -/
def compileRule (definition : RuleDefinition) : Except (Defect ⊕ Pattern.Limit) Rule := do
  match nonEmpty? definition.search with
  | none => throw (.inl .emptySearch)
  | some search =>
    let pattern ← accepted (.invalidPattern search) (Pattern.compile search)
    match nonEmpty? definition.replace with
    | none => throw (.inl .emptyReplacement)
    | some replacement =>
      let template ← accepted (.invalidReplacement replacement) (Template.parse pattern replacement)
      return {
        pattern, replacement, template
        description := definition.description
        trigger := definition.trigger.getD defaultTrigger }

/-- Rejects a policy for a defect. -/
def reject {α : Type} (defect : Defect) (source : Option String) (rule : Option Nat) :
    Logged Failure α :=
  throw (.rejected ⟨defect, source, rule⟩)

/-- Compiles rule definitions in order, the first of which has index `index`. -/
def compileRules (source : Option String) (index : Nat) :
    List RuleDefinition → Logged Failure (List Rule)
  | [] => return []
  | definition :: rest => do
    match compileRule definition with
    | .ok rule =>
      Logged.report (.ruleCompiled index rule.trigger rule.description)
      return rule :: (← compileRules source (index + 1) rest)
    | .error (.inl defect) =>
      let rejection : Rejection := ⟨defect, source, some index⟩
      Logged.report (.invalidRule source rejection.message)
      throw (.rejected rejection)
    | .error (.inr limit) => throw (.limit limit)

/-- Builds the store of a document. -/
def store (source : Option String) (document : Document) : Logged Failure RuleStore := do
  match document.version with
  | none =>
    Logged.report (.versionMissing source)
    reject .missingVersion source none
  | some version =>
    if version ≠ supportedVersion then
      Logged.report (.versionUnsupported source version)
      reject (.unsupportedVersion version) source none
    else
      let store := RuleStore.ofRules (← compileRules source 0 document.rules)
      Logged.report (.policyLoaded source store.ruleCount store.size)
      return store

/-- Loads a policy document; `source` says where it came from. One of no length is not read, and has no
rules. -/
def load (reader : Reader) (data : Data) (source : Option String) : Logged Failure RuleStore := do
  if data.length = 0 then
    Logged.report (.emptyPolicy source)
    return .empty
  else
    match reader.read data.encoded with
    | .error finding =>
      let complaint := reader.complaint finding data
      Logged.report (.malformedPolicy source complaint)
      reject (.malformed complaint) source none
    | .ok document => store source document

/-- Whether a path leads to a regular file without content. What lies behind a path with a zero
character, or behind no path at all, is no such file; a path that is too long is an error. -/
def isEmptyFile (tree : FileTree) (path : FilePath) : Except FileError Bool :=
  if path.hasNul then .ok false
  else
    match tree.stat path with
    | .ok (.file bytes) => .ok bytes.isEmpty
    | .ok _ => .ok false
    | .error .nameTooLong => .error .nameTooLong
    | .error _ => .ok false

/-- Loads a policy file. -/
def loadFile (reader : Reader) (tree : FileTree) (path : FilePath) : Logged Failure RuleStore := do
  let source := path.toString
  let unreadable (error : FileError) : Logged Failure RuleStore := do
    Logged.report (.unreadablePolicy source error)
    reject (.unreadable error source) (some source) none
  match isEmptyFile tree path with
  | .error error => unreadable error
  | .ok true =>
    Logged.report (.emptyPolicyFile source)
    return .empty
  | .ok false =>
    if path.hasNul then throw .nulInPath
    else
      match tree.read path with
      | .error error => unreadable error
      | .ok bytes => load reader (.bytes bytes) (some source)

end Redaction.Policy
