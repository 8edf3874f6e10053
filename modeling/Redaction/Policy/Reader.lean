import Redaction.Policy.Document

/-!
# What reads policy documents

Documents are read by a library of its own, whose versions differ in what they take for a number, say.
Policies are loaded with any such library; `Reader` says what loading relies on.

* `Policy.Reader`: a library that reads documents.
* `Reader.standard`: the one that reads them as `Document.read` does.
-/

namespace Redaction.Policy

/-- A library that reads policy documents. -/
structure Reader where
  /-- The document of some bytes, or what is wrong with it. -/
  read : List UInt8 → Except Finding Document
  /-- Where the pages about kinds of problems are, if the library names them. -/
  pages : Option String
  /-- No bytes are no document. -/
  read_nil : ∀ document, read [] ≠ .ok document

/-- The library that reads documents as `Document.read` does and names no pages. -/
def Reader.standard : Reader where
  read := Document.read
  pages := none
  read_nil document h := by
    have hnone : ¬ (Document.read []).isOk := by decide +kernel
    exact hnone (by rw [h]; rfl)

/-- What a library says about a document. -/
def Reader.complaint (reader : Reader) (finding : Finding) (data : Data) : Complaint where
  finding
  given := data
  pages := reader.pages

end Redaction.Policy
