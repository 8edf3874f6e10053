import Redaction.Proofs.FileTree
import Redaction.Proofs.Policy.Routes

/-!
# Files that cannot be read

A policy file is looked at twice: to see whether it is empty, and to read it.  Either look can fail, and for
different reasons.  Whatever the reason, the path is to be refused as the source of a policy, with one report.

* `RefusesSource` — a path is refused as a source, and that is all that is reported.
* `loadFile_of_unread` — what comes of a path at which nothing can be read.
* `kind_of_rejected` — what is read is never refused as a source, whatever is wrong with it.
* **`refusesSource_iff`** — a path is refused exactly if something is wrong with it and it can be written down
  without a zero character.  With a zero character the reading fails in a way of its own, and nothing is
  reported.
-/

namespace Redaction.Policy

/-- A path is refused as the source of a policy, and nothing but that is reported, as an error. -/
def RefusesSource (reader : Reader) (tree : FileTree) (path : FilePath) : Prop :=
  ∃ rejection event, (loadFile reader tree path).run = (.error (.rejected rejection), [event])
    ∧ rejection.defect.kind = .policySource
    ∧ rejection.source = some path.toString
    ∧ rejection.rule = none
    ∧ event.severity = .error
    ∧ event.extras = [("source", .str path.toString)]

variable {reader : Reader} {tree : FileTree} {path : FilePath}

/-! ## What comes of a path -/

/-- The first look at a file passes over all errors but one, which the second look would meet as well. -/
lemma isEmptyFile_of_unread {error : FileError} (hnul : path.hasNul = false)
    (hread : tree.read path = .error error) :
    isEmptyFile tree path = .error error ∨ isEmptyFile tree path = .ok false := by
  rw [isEmptyFile, hnul]
  rcases hstat : tree.stat path with found | (_ | bytes | bytes) <;> rw [FileTree.read, hstat] at hread
  · obtain rfl : found = error := Except.error.inj hread
    cases found with
    | nameTooLong => exact .inl rfl
    | missing => exact .inr rfl
    | notDirectory => exact .inr rfl
    | isDirectory => exact .inr rfl
  · exact .inr rfl
  · cases hread
  · cases hread

/-- A path at which nothing can be read is refused, whichever look fails. -/
lemma loadFile_of_unread {error : FileError} (hnul : path.hasNul = false)
    (hread : tree.read path = .error error) :
    (loadFile reader tree path).run
      = (.error (.rejected ⟨.unreadable error path.toString, some path.toString, none⟩),
          [.unreadablePolicy path.toString error]) := by
  rw [loadFile]
  rcases isEmptyFile_of_unread hnul hread with hlook | hlook
  · rw [hlook]
    rfl
  · rw [hlook, hread]
    simp only [hnul, Bool.false_eq_true, if_false]
    rfl

/-- A zero character fails the second look only, and not with an error of files. -/
lemma loadFile_of_hasNul (hnul : path.hasNul = true) :
    (loadFile reader tree path).run = (.error .nulInPath, []) := by
  rw [loadFile, isEmptyFile]
  simp only [hnul, if_true]
  rfl

/-- A device is read like a file, but never taken for an empty one. -/
lemma loadFile_of_device {bytes : List UInt8} (hnul : path.hasNul = false)
    (h : tree.LeadsTo path (.device bytes)) :
    (loadFile reader tree path).run = (load reader (.bytes bytes) (some path.toString)).run := by
  have hlook : isEmptyFile tree path = .ok false := by
    rw [isEmptyFile, hnul, FileTree.stat_eq_ok_iff.mpr h]
    rfl
  rw [loadFile, hlook, FileTree.read_eq_ok_iff.mpr (.inr h)]
  simp only [hnul, Bool.false_eq_true, if_false]

/-! ## What is read -/

/-- The defects of a rule are not about files. -/
lemma RuleDefinition.Defective.kind {definition : RuleDefinition} {defect : Defect}
    (h : definition.Defective defect) : defect.kind ≠ .policySource := by
  cases h <;> exact ErrorKind.noConfusion

/-- What was read is never refused as a source. -/
lemma kind_of_rejected {data : Data} {source : Option String} {rejection : Rejection}
    (h : outcome reader data source = .error (.rejected rejection)) : rejection.defect.kind ≠ .policySource := by
  rcases outcome_rejected_cases h with ⟨_, rfl⟩ | rfl | ⟨_, rfl⟩ | ⟨_, _, -, -, -, hfirst⟩
  · exact ErrorKind.noConfusion
  · exact ErrorKind.noConfusion
  · exact ErrorKind.noConfusion
  · obtain ⟨_, _, _, -, -, -, hdefect⟩ := hfirst
    exact hdefect.kind

/-- What comes of a path at which something can be read is what comes of the bytes that are read. -/
lemma exists_loadFile_eq (h : tree.Readable path) :
    ∃ bytes, (loadFile reader tree path).run.1 = outcome reader (.bytes bytes) (some path.toString) := by
  obtain ⟨hnul, bytes, hfile | hdevice⟩ := h
  · exact ⟨bytes, loadFile_of_holds ⟨hnul, FileTree.stat_eq_ok_iff.mpr hfile⟩⟩
  · exact ⟨bytes, congrArg Prod.fst (loadFile_of_device hnul hdevice)⟩

/-! ## The result -/

/-- **What is refused as a source.**  A path is refused exactly if something is wrong with it — it leads to
nothing, or on through something that is no directory, or to a directory, or it is too long, or a name in it
is — and it is written without a zero character.  If there is a zero character in it nothing can be read at it
either, but what comes of it is another failure, without a report. -/
theorem refusesSource_iff (reader : Reader) (tree : FileTree) (text : String) :
    (RefusesSource reader tree (.ofString text) ↔ tree.Lacks (.ofString text) ∧ '\x00' ∉ text.toList)
      ∧ ('\x00' ∈ text.toList → tree.Lacks (.ofString text)
        ∧ (loadFile reader tree (.ofString text)).run = (.error .nulInPath, [])) := by
  rw [← FilePath.hasNul_ofString]
  generalize FilePath.ofString text = path
  refine ⟨⟨?_, ?_⟩, ?_⟩
  · rintro ⟨rejection, event, hrun, hkind, -⟩
    have hresult : (loadFile reader tree path).run.1 = .error (.rejected rejection) := congrArg Prod.fst hrun
    constructor
    · rw [FileTree.lacks_iff]
      intro hreadable
      obtain ⟨bytes, hbytes⟩ := exists_loadFile_eq hreadable
      exact kind_of_rejected (hbytes.symm.trans hresult) hkind
    · intro hnul
      rw [loadFile_of_hasNul hnul] at hresult
      cases hresult
  · rintro ⟨hlacks, hnamed⟩
    have hnul : path.hasNul = false := by simpa using hnamed
    obtain ⟨error, hread⟩ := hlacks.exists_error hnul
    exact ⟨_, _, loadFile_of_unread hnul hread, rfl, rfl, rfl, rfl, rfl⟩
  · intro hnul
    exact ⟨.unnameable hnul, loadFile_of_hasNul hnul⟩

/-- Something is wrong with each of these paths, and they are refused: nothing is there, the path leads on through
a file, or it leads to a directory.  An empty file is fine. -/
theorem refusesSource_astray :
    RefusesSource .standard policyTree (.ofString "gone.json")
      ∧ RefusesSource .standard policyTree (.ofString "../etc/./é.json/x")
      ∧ RefusesSource .standard policyTree (.ofString "")
      ∧ ¬ RefusesSource .standard policyTree (.ofString "none.json")
      ∧ (loadFile .standard policyTree (.ofString "\x00")).run = (.error .nulInPath, []) := by
  have hgone : policyTree.Lacks (.ofString "gone.json") :=
    @FileTree.Lacks.missing _ _ ["gone.json"] (by decide +kernel) (by decide +kernel)
  have hthrough : policyTree.Lacks (.ofString "../etc/./é.json/x") :=
    @FileTree.Lacks.notDirectory _ _ ["..", "etc", "é.json"] (.file (Text.Utf8.encode accentedText))
      (by decide +kernel) (by decide +kernel) (by decide +kernel) (by simp)
  have hhere : policyTree.Lacks (.ofString "") := .directory (by decide +kernel)
  have hempty : policyTree.Readable (.ofString "none.json") :=
    ⟨by decide +kernel, [], .inl (FileTree.stat_eq_ok_iff.mp (by decide +kernel))⟩
  refine ⟨(refusesSource_iff .standard _ _).1.mpr ⟨hgone, by decide⟩,
    (refusesSource_iff .standard _ _).1.mpr ⟨hthrough, by decide⟩,
    (refusesSource_iff .standard _ _).1.mpr ⟨hhere, by decide⟩, ?_,
    ((refusesSource_iff .standard _ _).2 (by decide)).2⟩
  intro hrefused
  exact FileTree.lacks_iff.mp ((refusesSource_iff .standard _ _).1.mp hrefused).1 hempty

/-- A zero character is not told like other things that are wrong with a path. -/
theorem not_refusesSource_nul :
    (policyTree.Lacks (.ofString "é.json\x00")
      ∧ (loadFile .standard policyTree (.ofString "é.json\x00")).run = (.error .nulInPath, []))
    ∧ ¬ ∀ tree text, FileTree.Lacks tree (.ofString text) → RefusesSource .standard tree (.ofString text) := by
  have hnul : (FilePath.ofString "é.json\x00").hasNul = true := by decide +kernel
  have hlacks : policyTree.Lacks (.ofString "é.json\x00") := .unnameable hnul
  have hrun : (loadFile .standard policyTree (.ofString "é.json\x00")).run = (.error .nulInPath, []) :=
    loadFile_of_hasNul hnul
  refine ⟨⟨hlacks, hrun⟩, fun hall => ?_⟩
  obtain ⟨rejection, event, hrefused, -⟩ := hall policyTree "é.json\x00" hlacks
  rw [hrun] at hrefused
  cases hrefused

end Redaction.Policy
