import Redaction.Playground
import Redaction.Proofs.Policy.Outcome

/-!
# The ways in

A policy gets in as a text, as bytes, or as a file.  Each way has an emptiness test of its own — the number
of characters, the number of bytes, the size of the file — and past that test they meet: a text is parsed by
its bytes, and so is a file.  They part once more where the text is no JSON.  Then it is quoted whole, and it is
quoted as what it was handed in.

* `FileTree.Holds` — a path leads to a regular file that can be read.
* `loadFile_of_holds` — the emptiness tests make no difference.
* `Failure.withSource`, `Failure.about` — the same failure of a policy from elsewhere, and of one that was handed
  in otherwise.
* **`outcome_withSource`** — where a policy comes from shows in its rejection and nowhere else.
* **`outcome_about`** — what a policy was handed in as shows in what is quoted and nowhere else.
* **`ways_agree`** — all ways give the same store, or the same failure but for the quote.
-/

namespace Redaction

/-- A path leads to a regular file that can be read, with these bytes. -/
structure FileTree.Holds (tree : FileTree) (path : FilePath) (bytes : List UInt8) : Prop where
  named : path.hasNul = false
  file : tree.stat path = .ok (.file bytes)

namespace Policy

variable {reader : Reader}

/-! ## Emptiness -/

/-- A file of no bytes is not opened, but that makes no difference to what comes of it. -/
lemma loadFile_of_holds {tree : FileTree} {path : FilePath} {bytes : List UInt8}
    (h : tree.Holds path bytes) :
    (loadFile reader tree path).run.1 = outcome reader (.bytes bytes) (some path.toString) := by
  have hempty : isEmptyFile tree path = .ok bytes.isEmpty := by
    rw [isEmptyFile, h.named, h.file]
    rfl
  have hread : tree.read path = .ok bytes := by
    rw [FileTree.read, h.file]
    rfl
  cases bytes with
  | nil =>
      rw [loadFile, hempty]
      rfl
  | cons b rest =>
      rw [loadFile, hempty, outcome]
      simp only [List.isEmpty_cons, h.named, hread, Bool.false_eq_true, if_false]

/-! ## Where a policy comes from -/

/-- The same failure of a policy that comes from elsewhere. -/
def Failure.withSource (source : Option String) : Failure → Failure
  | .rejected rejection => .rejected { rejection with source }
  | failure => failure

/-- **Where a policy comes from** shows in its rejection and nowhere else. -/
lemma outcome_withSource (reader : Reader) (data : Data) (source source' : Option String) :
    outcome reader data source' = (outcome reader data source).mapError (Failure.withSource source') := by
  rw [outcome_eq, outcome_eq]
  by_cases hempty : data.length = 0
  · rw [if_pos hempty, if_pos hempty]
    rfl
  · rw [if_neg hempty, if_neg hempty]
    rcases reader.read data.encoded with finding | ⟨_ | version, definitions⟩
    · rfl
    · rfl
    · dsimp only
      by_cases hversion : version = supportedVersion
      · rw [if_neg (by simpa using hversion), if_neg (by simpa using hversion)]
        rcases compileAll 0 definitions with ⟨index, defect | limit⟩ | rules <;> rfl
      · rw [if_pos hversion, if_pos hversion]
        rfl

/-! ## What a policy is handed in as -/

/-- The same defect of a policy that is handed in otherwise. -/
def Defect.about (data : Data) : Defect → Defect
  | malformed complaint => malformed { complaint with given := data }
  | defect => defect

/-- The same failure of a policy that is handed in otherwise. -/
def Failure.about (data : Data) : Failure → Failure
  | .rejected rejection => .rejected { rejection with defect := rejection.defect.about data }
  | failure => failure

/-- The defects of rules are not about the document as a whole. -/
lemma failureAt_about {definitions : List RuleDefinition} {failed : Nat × (Defect ⊕ Pattern.Limit)}
    (h : compileAll 0 definitions = .error failed) (data : Data) (source : Option String) :
    (failureAt source failed).about data = failureAt source failed := by
  obtain ⟨index, defect | limit⟩ := failed
  · obtain ⟨_, -, _, _, _, -, -, -, hdefect⟩ := compileAll_eq_defect_iff.mp h
    cases hdefect <;> rfl
  · rfl

/-- **What a policy is handed in as** shows in what is quoted and nowhere else. -/
lemma outcome_about {data data' : Data} (h : data.encoded = data'.encoded) (reader : Reader)
    (source : Option String) :
    outcome reader data' source = (outcome reader data source).mapError (Failure.about data') := by
  have hlength : data.length = 0 ↔ data'.length = 0 := by
    rw [← Data.encoded_eq_nil_iff, h, Data.encoded_eq_nil_iff]
  rw [outcome_eq, outcome_eq, h]
  by_cases hempty : data'.length = 0
  · rw [if_pos hempty, if_pos (hlength.mpr hempty)]
    rfl
  · rw [if_neg hempty, if_neg (mt hlength.mp hempty)]
    rcases reader.read data'.encoded with finding | ⟨_ | version, definitions⟩
    · rfl
    · rfl
    · dsimp only
      split_ifs
      · rfl
      · cases hall : compileAll 0 definitions with
        | error failed => exact congrArg Except.error (failureAt_about hall _ source).symm
        | ok rules => rfl

/-! ## What failures have in common -/

namespace Defect

/-- The version that is not supported, if that is the defect. -/
def version? : Defect → Option Int
  | unsupportedVersion version => some version
  | _ => none

/-- The kinds, paths and wordings of the problems of a document. -/
def details : Defect → List (String × List String × String)
  | malformed complaint => complaint.entries.map fun entry => (entry.code, entry.path, entry.message)
  | _ => []

/-- Whether the defect is that a document is no JSON text. -/
def isNotJson : Defect → Bool
  | malformed ⟨.notJson _, _, _⟩ => true
  | _ => false

lemma about_kind (defect : Defect) (data : Data) : (defect.about data).kind = defect.kind := by
  cases defect <;> rfl

lemma about_version? (defect : Defect) (data : Data) : (defect.about data).version? = defect.version? := by
  cases defect <;> rfl

lemma about_details (defect : Defect) (data : Data) : (defect.about data).details = defect.details := by
  cases defect with
  | malformed complaint =>
      obtain ⟨finding, given, pages⟩ := complaint
      cases finding <;> rfl
  | _ => rfl

/-- The wording quotes the document as a whole only if it is no JSON. -/
lemma about_message {defect : Defect} (h : defect.isNotJson = false) (data : Data) :
    (defect.about data).message = defect.message := by
  cases defect with
  | malformed complaint =>
      obtain ⟨finding, given, pages⟩ := complaint
      cases finding with
      | notJson fault => cases h
      | misshapen problems => rfl
  | _ => rfl

end Defect

/-- Two rejections tell the same but for the wording. -/
structure Rejection.SameFacts (rejection rejection' : Rejection) : Prop where
  kind : rejection.defect.kind = rejection'.defect.kind
  source : rejection.source = rejection'.source
  rule : rejection.rule = rejection'.rule
  version : rejection.defect.version? = rejection'.defect.version?
  details : rejection.defect.details = rejection'.defect.details

/-! ## What is quoted -/

/-- Texts that go on with names of different kinds differ, whatever comes after these. -/
lemma append_str_ne_append_bytes (first second rest : String) :
    first ++ "str" ++ rest ≠ second ++ "bytes" ++ rest := by
  intro h
  have hchars : (first.toList ++ "str".toList) ++ rest.toList
      = (second.toList ++ "bytes".toList) ++ rest.toList := by
    simpa only [String.toList_append] using congrArg String.toList h
  have hlast := congrArg List.getLast? (List.append_cancel_right hchars)
  simp at hlast

/-- Messages about the same place are the same just if they are so without it. -/
lemma located_inj {message message' : String} {source : Option String} {rule : Option Int} :
    located message source rule = located message' source rule ↔ message = message' := by
  have happend : ∀ message, located message source rule = message ++ located "" source rule := by
    intro message
    rw [located, located]
    split <;> simp [String.append_assoc]
  rw [happend message, happend message', String.append_left_inj]

/-- A complaint about a document that is no JSON names the kind of what was handed in, and after that it is
the same for all documents. -/
lemma message_notJson (fault : Json.Fault) (data : Data) (pages : Option String) :
    (Complaint.mk (.notJson fault) data pages).message
      = "1 validation error for Policy\n  Invalid JSON: " ++ fault.message ++ " [type=" ++ "json_invalid"
        ++ ", input_value=" ++ (Quote.ofData data).text ++ ", input_type=" ++ (Quote.ofData data).typeName
        ++ ("]" ++ Complaint.pageLine pages "json_invalid") := by
  have hhead : Text.decimal 1 ++ " validation error" ++ " for Policy\n" ++ ("" ++ "  " ++ "Invalid JSON: ")
      = "1 validation error for Policy\n  Invalid JSON: " := by decide +kernel
  rw [← hhead]
  simp only [Complaint.message, Complaint.entries, Complaint.Entry.text, List.map_cons, List.map_nil,
    List.length_cons, List.length_nil, String.intercalate_singleton, List.isEmpty_nil, Nat.zero_add, if_true,
    String.append_assoc]

/-- What is said about a text that is no JSON and about bytes differs. -/
lemma message_text_ne_message_bytes (fault : Json.Fault) (text : String) (bytes : List UInt8)
    (pages : Option String) :
    (Complaint.mk (.notJson fault) (.text text) pages).message
      ≠ (Complaint.mk (.notJson fault) (.bytes bytes) pages).message := by
  rw [message_notJson, message_notJson]
  exact append_str_ne_append_bytes _ _ _

/-- What is said about a document that was handed in as bytes is said in the same words about a text, if and
only if it is not that the document is no JSON. -/
lemma message_about_iff {bytes : List UInt8} {source : Option String} {rejection : Rejection}
    (h : outcome reader (.bytes bytes) source = .error (.rejected rejection)) (text : String) :
    (rejection.defect.about (.text text)).message = rejection.defect.message
      ↔ rejection.defect.isNotJson = false := by
  refine ⟨fun hsame => ?_, fun hjson => Defect.about_message hjson _⟩
  rcases outcome_rejected_cases h
    with ⟨finding, hrejection⟩ | hrejection | ⟨version, hrejection⟩ | ⟨_, _, -, -, -, hfirst⟩
  · rw [hrejection] at hsame ⊢
    cases finding with
    | notJson fault =>
        have hwords := (String.append_right_inj _).mp hsame
        exact absurd hwords (message_text_ne_message_bytes fault text bytes reader.pages)
    | misshapen problems => rfl
  · rw [hrejection]
    rfl
  · rw [hrejection]
    rfl
  · obtain ⟨_, _, _, -, -, -, hdefect⟩ := hfirst
    generalize rejection.defect = defect at hdefect
    cases hdefect <;> rfl

/-! ## All ways -/

/-- **All ways in give the same but for the quote.**  A text, its bytes, and a file that holds them, are loaded
to the same store or fail for the same reason, down to the index of the rule and the problems of the document.
The bytes and the file fail in the same words.  So does the text unless it is no JSON: then it is quoted as a
text, and they are quoted as bytes.  With another source only the source is another, so that the playground
shows what comes of the file. -/
theorem ways_agree (reader : Reader) {tree : FileTree} {path : FilePath} {text : String}
    (hfile : tree.Holds path (Text.Utf8.encode text)) :
    (load reader (.bytes (Text.Utf8.encode text)) (some path.toString)).run.1 = (loadFile reader tree path).run.1
      ∧ (∀ source, (load reader (.text text) source).run.1
        = (loadFile reader tree path).run.1.mapError
          fun failure => (failure.about (.text text)).withSource source)
      ∧ (∀ store, (load reader (.text text) (some path.toString)).run.1 = .ok store
        ↔ (loadFile reader tree path).run.1 = .ok store)
      ∧ (∀ rejection, (loadFile reader tree path).run.1 = .error (.rejected rejection) →
        ∃ rejection', (load reader (.text text) (some path.toString)).run.1 = .error (.rejected rejection')
          ∧ rejection'.SameFacts rejection
          ∧ (rejection'.message = rejection.message ↔ rejection.defect.isNotJson = false))
      ∧ ∀ log, Playground.submit reader text log
        = Playground.respond
          ((loadFile reader tree path).run.1.mapError
            fun failure => (failure.about (.text text)).withSource (some Playground.source)) log := by
  have hencoded : (Data.bytes (Text.Utf8.encode text)).encoded = (Data.text text).encoded := rfl
  have hsame : (load reader (.text text) (some path.toString)).run.1
      = (loadFile reader tree path).run.1.mapError (Failure.about (.text text)) := by
    rw [loadFile_of_holds hfile]
    exact outcome_about hencoded reader _
  have hway : ∀ source, (load reader (.text text) source).run.1
      = (loadFile reader tree path).run.1.mapError
        fun failure => (failure.about (.text text)).withSource source := by
    intro source
    refine (outcome_withSource reader (.text text) (some path.toString) source).trans ?_
    rw [outcome, hsame]
    cases (loadFile reader tree path).run.1 <;> rfl
  refine ⟨(loadFile_of_holds hfile).symm, hway, fun store => ?_, fun rejection hrejected => ?_, fun log => ?_⟩
  · rw [hsame]
    cases (loadFile reader tree path).run.1 <;> simp [Except.mapError]
  · refine ⟨{ rejection with defect := rejection.defect.about (.text text) }, by rw [hsame, hrejected]; rfl,
      ⟨Defect.about_kind .., rfl, rfl, Defect.about_version? .., Defect.about_details ..⟩, ?_⟩
    rw [Rejection.message, Rejection.message, located_inj]
    exact message_about_iff ((loadFile_of_holds hfile).symm.trans hrejected) text
  · rw [Playground.submit, hway]

/-- A policy whose search is no pattern, with a letter beyond ASCII before the place of the fault. -/
def accentedText : String :=
  "\x7b\"version\": 1, \"rules\": [\x7b\"search\": \"é(\", \"replace\": \"é\"\x7d]\x7d"

/-- Files that hold this policy, an empty one, and one that is no JSON. -/
def policyTree : FileTree where
  entries := [(["etc"], .directory), (["etc", "é.json"], .file (Text.Utf8.encode accentedText)),
    (["etc", "none.json"], .file []), (["etc", "x.json"], .file (Text.Utf8.encode "x"))]
  working := ["etc"]

/-- The policy is refused for the same fault at the same place, whichever way it gets in.  A file of no bytes
is the empty text. -/
theorem ways_agree_accented :
    policyTree.Holds (.ofString "é.json") (Text.Utf8.encode accentedText)
      ∧ (∃ rejection, (load .standard (.text accentedText) (some "é.json")).run.1 = .error (.rejected rejection)
        ∧ rejection.SameFacts
          ⟨.invalidPattern "é(" ⟨.unterminatedSubpattern, some 1⟩, some "é.json", some 0⟩
        ∧ rejection.message
          = "Invalid search pattern 'é(': missing ), unterminated subpattern at position 1 (file é.json, rule #0)")
      ∧ (∃ outputs, Playground.submit .standard accentedText "" = .ok outputs)
      ∧ policyTree.Holds (.ofString "none.json") (Text.Utf8.encode "")
      ∧ (load .standard (.text "") (some "none.json")).run.1 = .ok .empty := by
  have hfile : policyTree.Holds (.ofString "é.json") (Text.Utf8.encode accentedText) :=
    ⟨by decide +kernel, by decide +kernel⟩
  have hnone : policyTree.Holds (.ofString "none.json") (Text.Utf8.encode "") :=
    ⟨by decide +kernel, by decide +kernel⟩
  have hrejected : (loadFile .standard policyTree (.ofString "é.json")).run.1
      = .error (.rejected ⟨.invalidPattern "é(" ⟨.unterminatedSubpattern, some 1⟩, some "é.json", some 0⟩) := by
    decide +kernel
  obtain ⟨-, -, -, htext, hshown⟩ := ways_agree .standard hfile
  obtain ⟨-, -, hempty, -⟩ := ways_agree .standard hnone
  obtain ⟨rejection, hrejection, hfacts, hwords⟩ := htext _ hrejected
  refine ⟨hfile, ⟨rejection, hrejection, hfacts, (hwords.mpr rfl).trans (by decide +kernel)⟩, ?_, hnone,
    (hempty _).mpr rfl⟩
  rw [hshown, hrejected]
  exact ⟨_, rfl⟩

/-- A text that is no JSON and a file that holds it are refused in different words: the letter is quoted as a
text and as bytes. -/
theorem not_ways_agree_quoted :
    (policyTree.Holds (.ofString "x.json") (Text.Utf8.encode "x")
      ∧ (load .standard (.text "x") (some "x.json")).run.1.mapError Failure.message
        = .error ("Malformed policy: 1 validation error for Policy\n  Invalid JSON: "
          ++ "expected value at line 1 column 1 [type=json_invalid, input_value='x', input_type=str] (file x.json)")
      ∧ (loadFile .standard policyTree (.ofString "x.json")).run.1.mapError Failure.message
        = .error ("Malformed policy: 1 validation error for Policy\n  Invalid JSON: "
          ++ "expected value at line 1 column 1 [type=json_invalid, input_value=b'x', input_type=bytes] (file x.json)"))
    ∧ ¬ ∀ (reader : Reader) (tree : FileTree) (path : FilePath) (text : String),
        tree.Holds path (Text.Utf8.encode text) →
        (load reader (.text text) (some path.toString)).run.1.mapError Failure.message
          = (loadFile reader tree path).run.1.mapError Failure.message := by
  have hfile : policyTree.Holds (.ofString "x.json") (Text.Utf8.encode "x") :=
    ⟨by decide +kernel, by decide +kernel⟩
  have htext : (load .standard (.text "x") (some "x.json")).run.1.mapError Failure.message
      = .error ("Malformed policy: 1 validation error for Policy\n  Invalid JSON: "
        ++ "expected value at line 1 column 1 [type=json_invalid, input_value='x', input_type=str] (file x.json)") := by
    decide +kernel
  have hbytes : (loadFile .standard policyTree (.ofString "x.json")).run.1.mapError Failure.message
      = .error ("Malformed policy: 1 validation error for Policy\n  Invalid JSON: "
        ++ "expected value at line 1 column 1 [type=json_invalid, input_value=b'x', input_type=bytes] (file x.json)") := by
    decide +kernel
  refine ⟨⟨hfile, htext, hbytes⟩, fun hall => ?_⟩
  have hsame := hall .standard policyTree (.ofString "x.json") "x" hfile
  rw [show (FilePath.ofString "x.json").toString = "x.json" by decide +kernel, htext, hbytes] at hsame
  exact absurd (Except.error.inj hsame) (by decide +kernel)

end Policy
end Redaction
