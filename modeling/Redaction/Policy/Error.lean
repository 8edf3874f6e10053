import Redaction.FileTree
import Redaction.Pattern.Fault
import Redaction.Policy.Complaint
import Redaction.Value.Text

/-!
# Why a policy is rejected

* `ErrorKind`: the kinds of errors, each of which belongs to more general ones.
* `Policy.Defect`: what is wrong with a policy.
* `Policy.Rejection`: a defect with the source of the policy and the index of the rule.
* `Policy.Failure`: a rejection, or a limit that stops the loading of a policy for another reason.
-/

namespace Redaction

/-- The kinds of errors. -/
inductive ErrorKind
  | redaction
  | configuration
  | initialization
  | policyLoad
  | policySource
  | malformedPolicy
  | missingVersion
  | unsupportedVersion
  | emptySearch
  | invalidPattern
  | emptyReplacement
  | invalidReplacement
deriving Repr, DecidableEq

namespace ErrorKind

/-- The next more general kind. -/
def parent? : ErrorKind → Option ErrorKind
  | redaction => none
  | configuration | initialization => some redaction
  | policyLoad => some configuration
  | _ => some policyLoad

/-- How many more general kinds there are. -/
def depth : ErrorKind → Nat
  | redaction => 0
  | configuration | initialization => 1
  | policyLoad => 2
  | _ => 3

theorem depth_of_parent? {kind parent : ErrorKind} (h : kind.parent? = some parent) :
    kind.depth = parent.depth + 1 := by
  cases kind <;> cases parent <;> simp_all [parent?, depth]

/-- The kind and all more general ones, the most general last. -/
def ancestors (kind : ErrorKind) : List ErrorKind :=
  match _h : kind.parent? with
  | none => [kind]
  | some parent => kind :: parent.ancestors
termination_by kind.depth
decreasing_by
  have := depth_of_parent? _h
  omega

/-- The kinds that arise while a policy is loaded. -/
def isPolicyLoad (kind : ErrorKind) : Bool :=
  kind.ancestors.contains policyLoad

end ErrorKind

namespace Policy

/-- A message with the place it is about: the source of the policy and the index of a rule, as far as
they are known. -/
def located (message : String) (source : Option String) (rule : Option Int) : String :=
  let parts := (source.map ("file " ++ ·)).toList ++ (rule.map ("rule #" ++ Text.signedDecimal ·)).toList
  if parts.isEmpty then message else message ++ " (" ++ String.intercalate ", " parts ++ ")"

/-- What is wrong with a policy. -/
inductive Defect
  | unreadable (error : FileError) (path : String)
  | malformed (complaint : Complaint)
  | missingVersion
  | unsupportedVersion (version : Int)
  | emptySearch
  | invalidPattern (search : String) (fault : Pattern.Fault)
  | emptyReplacement
  | invalidReplacement (replacement : String) (fault : Pattern.Fault)
deriving Repr, DecidableEq

namespace Defect

/-- The kind of error that a defect is. -/
def kind : Defect → ErrorKind
  | unreadable _ _ => .policySource
  | malformed _ => .malformedPolicy
  | missingVersion => .missingVersion
  | unsupportedVersion _ => .unsupportedVersion
  | emptySearch => .emptySearch
  | invalidPattern _ _ => .invalidPattern
  | emptyReplacement => .emptyReplacement
  | invalidReplacement _ _ => .invalidReplacement

/-- The wording of an unsupported version. -/
def versionMessage (version : String) : String :=
  "Unknown policy version " ++ version

/-- The wording of a version of any kind that is not supported. -/
def versionText (version : Value) : Except Value.TooLong String :=
  version.literal.map versionMessage

/-- The wording of a defect. -/
def message : Defect → String
  | unreadable error path => "Cannot read policy: " ++ error.message path
  | malformed complaint => "Malformed policy: " ++ complaint.message
  | missingVersion => "No version specified"
  | unsupportedVersion version => versionMessage (Text.signedDecimal version)
  | emptySearch => "The search regular expression cannot be empty"
  | invalidPattern search fault =>
    "Invalid search pattern " ++ Text.quoted search ++ ": " ++ fault.message search
  | emptyReplacement => "The replacement text cannot be empty"
  | invalidReplacement replacement fault =>
    "Invalid replacement " ++ Text.quoted replacement ++ ": " ++ fault.message replacement

end Defect

/-- A defect, where the policy came from, and the index of the rule that has it. -/
structure Rejection where
  defect : Defect
  source : Option String
  rule : Option Nat
deriving Repr, DecidableEq

/-- The wording of a rejection. -/
def Rejection.message (rejection : Rejection) : String :=
  located rejection.defect.message rejection.source (rejection.rule.map Int.ofNat)

/-- Why loading a policy failed. -/
inductive Failure
  | rejected (rejection : Rejection)
  /-- A pattern is well formed and still beyond what can be compiled. -/
  | limit (limit : Pattern.Limit)
  /-- The path holds a zero character. -/
  | nulInPath
deriving Repr, DecidableEq

/-- The wording of a failure. -/
def Failure.message : Failure → String
  | rejected reason => reason.message
  | limit reason => reason.message
  | nulInPath => "embedded null byte"

end Policy
end Redaction
