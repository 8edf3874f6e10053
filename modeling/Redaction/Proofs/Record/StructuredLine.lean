import Redaction.Proofs.Json.Values
import Redaction.Record.Layout
import Mathlib.Data.List.Forall2

/-!
# What a structured line says

A structured line is a JSON object with the fields of a record.  Whatever the extra fields of the record hold
and however they are named, the object is read again field by field, and its message is that of the record.

* `written_members` — fields that are written one after another.
* **`read_structured`** — the line is read as an object whose members are the fields, in their order.
* **`message_of_structured`** — one of them is the message, and no other one has its name.
-/

namespace Redaction.Record

open Json

variable {time line : String} {record : Record}

/-- A field of a record is read as a member: under its own name, and as what its value is read as. -/
def FieldReadAs (field : String × Value) (member : String × Json) : Prop :=
  member.1 = field.1 ∧ field.2.ReadAs member.2

lemma written_members {fields : List (String × Value)} {texts : List String} (h : members fields = .ok texts) :
    ∃ read : List WrittenMember, read.map memberText = texts
      ∧ (∀ member ∈ read, Written member.2.1 member.2.2)
      ∧ List.Forall₂ (fun field member => FieldReadAs field (member.1, member.2.2)) fields read := by
  induction fields generalizing texts with
  | nil =>
      obtain rfl : [] = texts := Except.ok.inj h
      exact ⟨[], rfl, by simp, .nil⟩
  | cons field rest ih =>
      obtain ⟨name, value⟩ := field
      rw [members] at h
      obtain ⟨text, htext, h⟩ := exists_of_bind h
      obtain ⟨more, hmore, h⟩ := exists_of_bind h
      obtain ⟨v, hv, hreadAs⟩ := written_json value htext
      obtain ⟨read, rfl, hread, hfields⟩ := ih hmore
      obtain rfl := Except.ok.inj h
      exact ⟨(name, text, v) :: read, rfl, List.forall_mem_cons.mpr ⟨hv, hread⟩, .cons ⟨rfl, hreadAs⟩ hfields⟩

/-- **A structured line** is read as an object whose members are the fields of the record, in their order. -/
theorem read_structured (h : record.structured time = .ok line) :
    ∃ text found, record.render = .ok text
      ∧ Reads line (.object found)
      ∧ List.Forall₂ FieldReadAs (record.fields time text) found := by
  rw [structured] at h
  obtain ⟨text, htext, h⟩ := exists_of_bind h
  obtain ⟨texts, htexts, h⟩ := exists_of_bind h
  obtain ⟨read, rfl, hread, hfields⟩ := written_members (ok_of_mapError htexts)
  obtain rfl := Except.ok.inj h
  refine ⟨text, read.map fun member => (member.1, member.2.2), ok_of_mapError htext,
    reads_of_written (written_object read hread), ?_⟩
  rw [List.forall₂_map_right_iff]
  exact hfields

/-! ## The message -/

/-- One field is the message: an extra field that is named like a field of every line is left out. -/
lemma filter_fields (time text : String) (record : Record) :
    (record.fields time text).filter (·.1 = "message") = [("message", .str text)] := by
  have hextras : ∀ (extras : List (String × Value)) (shown : String × Value → Bool),
      (∀ value, shown ("message", value) = false) → (extras.filter shown).filter (·.1 = "message") = [] := by
    intro extras shown hhidden
    rw [List.filter_filter, List.filter_eq_nil_iff]
    rintro ⟨name, value⟩ -
    simp only [Bool.and_eq_true, decide_eq_true_eq]
    rintro ⟨rfl, hshown⟩
    rw [hhidden] at hshown
    cases hshown
  rw [fields, List.filter_append, hextras _ _ fun _ => rfl, List.append_nil, fixedFields]
  cases record.raised <;> rfl

/-- **The message of a structured line** is that of the record, and no other member has its name. -/
theorem message_of_structured {text : String} (h : record.structured time = .ok line)
    (hrender : record.render = .ok text) :
    ∃ found, Reads line (.object found)
      ∧ found.filter (·.1 = "message") = [("message", .string text)] := by
  obtain ⟨text', found, hrender', hread, hfields⟩ := read_structured h
  obtain rfl : text = text' := Except.ok.inj (hrender.symm.trans hrender')
  refine ⟨found, hread, ?_⟩
  have hmessages : List.Forall₂ FieldReadAs ((record.fields time text).filter (·.1 = "message"))
      (found.filter (·.1 = "message")) :=
    List.rel_filter (fun field member hfield => by simp [hfield.1]) hfields
  rw [filter_fields] at hmessages
  obtain ⟨⟨name, v⟩, rest, ⟨hname, hv⟩, hrest, hfound⟩ := List.forall₂_cons_left_iff.mp hmessages
  obtain rfl : rest = [] := List.forall₂_nil_left_iff.mp hrest
  obtain rfl : name = "message" := hname
  obtain rfl : v = .string text := hv
  exact hfound

end Redaction.Record
