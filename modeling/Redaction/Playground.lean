import Redaction.Engine.Cache
import Redaction.Policy.Loader
import Redaction.Text.Lines

/-!
# The playground

A page with a policy and sample lines that shows how each line would be written.

* `Playground.examplePolicy`: the policy the page starts with.
* `Playground.Output`: what the page shows.
* `Playground.submit`: the outputs for a policy and sample lines.
-/

namespace Redaction.Playground

/-- Something that the page shows. -/
inductive Output
  | error (text : String)
  | textArea (label value : String)
  | success (text : String)
deriving Repr, DecidableEq

/-- The policy the page starts with. -/
def examplePolicy : String :=
  "\x7b\n  \"version\": 1,\n  \"rules\": [\n" ++
  "    \x7b \"description\": \"US social security numbers\",\n" ++
  "      \"trigger\": \"SSN\",\n" ++
  "      \"search\": \"\\\\d\x7b3\x7d-\\\\d\x7b2\x7d-\\\\d\x7b4\x7d\",\n" ++
  "      \"replace\": \"XXX-XX-XXXX\" \x7d,\n" ++
  "    \x7b \"description\": \"Passwords in key=value form\",\n" ++
  "      \"search\": \"password=\\\\S+\",\n" ++
  "      \"replace\": \"password=***\" \x7d\n  ]\n\x7d"

/-- Where the policy of the page comes from, as errors report it. -/
def source : String := "playground"

/-- Redacts lines one after the other with the same cache. -/
def redactLines (engine : Engine) (cache : Cache) : List String → List String
  | [] => []
  | line :: rest =>
    let (text, cache) := engine.redact cache line
    text :: redactLines engine cache rest

/-- The outputs for sample lines, once the policy of the page has been loaded. Nothing but a rejected policy
is shown as an error. -/
def respond (loaded : Except Policy.Failure RuleStore) (log : String) :
    Except Policy.Failure (List Output) :=
  match loaded with
  | .error (.rejected rejection) => .ok [.error ("Policy rejected: " ++ rejection.message)]
  | .error failure => .error failure
  | .ok store =>
    let engine : Engine := ⟨0, store⟩
    let lines := Text.lines log
    let redacted := redactLines engine (Cache.ofStore store "main") lines
    let changed := ((lines.zip redacted).filter fun (line, text) => line ≠ text).length
    .ok [
      .textArea "Redacted messages" (String.intercalate "\n" redacted),
      .success (Text.decimal store.ruleCount ++ " rules loaded, " ++ Text.decimal changed ++ " of " ++
        Text.decimal lines.length ++ " lines redacted.")]

/-- The outputs for a policy and sample lines, once the page is submitted. -/
def submit (reader : Policy.Reader) (policy log : String) : Except Policy.Failure (List Output) :=
  respond (Policy.load reader (.text policy) (some source)).run.1 log

end Redaction.Playground
