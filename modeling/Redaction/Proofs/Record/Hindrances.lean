import Redaction.Proofs.Json.Obstacles
import Redaction.Proofs.Record.StructuredFields

/-!
# What keeps a record out of a structured log

A record whose message can be rendered should reach the log, whatever else its caller has put into it.  Values
that JSON has no form for are written as texts for this reason.  Texts do not help everywhere, though: the keys
of a dictionary are not turned into texts, nor are whole numbers with too many digits.

* `Record.Hindrance` — what such a part of a record is: it lies in an extra field that would be written, or it is
  the number of the source line.
* `structured_eq` — a line is the dictionary of its fields.
* `hindrance_iff` — the hindrances are the parts of this dictionary that stand in the way.
* **`structured_returns_iff`** — a record is written exactly if it holds no hindrance, and one that is not written
  fails for a hindrance.
-/

namespace Redaction.Record

open Value (JsonFault)

/-- What keeps a record out of a structured line.  An extra field that is left out is none, whatever it holds. -/
inductive Hindrance (record : Record) : JsonFault → Prop
  | line (h : Text.digitBound ≤ record.line.natAbs) : Hindrance record .tooLong
  | extra {name : String} {value part : Value} {fault : JsonFault} (hextra : (name, value) ∈ record.extras)
      (hwritten : record.Writes name) (hpart : part.Within value) (h : part.Obstacle fault) :
      Hindrance record fault

variable {record : Record} {time text : String} {fault : JsonFault}

/-! ## The fields of a record -/

/-- Fields as a dictionary, of which the names are texts. -/
def asDict (fields : List (String × Value)) : Value :=
  .dict (fields.map fun field => (.str field.1, field.2))

/-- The members of a line are written like the entries of this dictionary. -/
lemma members_eq_jsonEntries (fields : List (String × Value)) :
    members fields = Value.jsonEntries (fields.map fun field => (.str field.1, field.2)) := by
  induction fields with
  | nil => rfl
  | cons field rest ih =>
      rw [members, List.map_cons, Value.jsonEntries, ih]
      rfl

/-- The line of a record whose message can be rendered is the dictionary of its fields. -/
lemma structured_eq (hrender : record.render = .ok text) (time : String) :
    record.structured time = (asDict (record.fields time text)).json.mapError .field := by
  have hline : record.structured time = ((members (record.fields time text)).mapError .field >>=
      fun texts => pure ("\x7b" ++ Value.listed texts ++ "\x7d")) := by
    rw [structured, lineText, hrender]
    rfl
  rw [hline, asDict, Value.json, ← members_eq_jsonEntries]
  cases members (record.fields time text) <;> rfl

/-- The parts of the dictionary are those of its fields, and it itself. -/
lemma within_asDict_iff {part : Value} {fields : List (String × Value)} :
    part.Within (asDict fields) ↔ part = asDict fields ∨ ∃ field ∈ fields, part.Within field.2 := by
  constructor
  · intro h
    cases h with
    | self => exact .inl rfl
    | entry hentry h =>
        obtain ⟨field, hfield, heq⟩ := List.mem_map.mp hentry
        obtain ⟨-, rfl⟩ := Prod.mk.inj heq
        exact .inr ⟨field, hfield, h⟩
  · rintro (rfl | ⟨field, hfield, h⟩)
    · exact .self
    · exact .entry (List.mem_map.mpr ⟨field, hfield, rfl⟩) h

/-- The names of fields do not stand in the way. -/
lemma not_obstacle_asDict (fields : List (String × Value)) : ¬ (asDict fields).Obstacle fault := by
  intro h
  cases h with
  | key hentry hname =>
      obtain ⟨field, -, heq⟩ := List.mem_map.mp hentry
      obtain ⟨rfl, -⟩ := Prod.mk.inj heq
      cases hname with
      | kind hkind => exact absurd (by simp [Value.typeName]) hkind

lemma mem_fields {field : String × Value} :
    field ∈ record.fields time text
      ↔ field ∈ record.fixedFields time text ∨ field ∈ record.extras ∧ record.Writes field.1 := by
  rw [fields_eq, List.mem_append, List.mem_filter, decide_eq_true_eq]

/-- What a line starts with are texts, but for the number of the source line and a function that has no name. -/
lemma cases_fixedFields {field : String × Value} (h : field ∈ record.fixedFields time text) :
    (∃ shown, field.2 = .str shown) ∨ field.2 = .none ∨ field.2 = .int record.line := by
  rw [fixedFields, List.mem_append] at h
  rcases h with hfirst | hreport
  · simp only [List.mem_cons, List.not_mem_nil, or_false] at hfirst
    rcases hfirst with rfl | rfl | rfl | rfl | rfl | rfl | rfl
    · exact .inl ⟨time, rfl⟩
    · exact .inl ⟨record.levelName, rfl⟩
    · exact .inl ⟨record.logger, rfl⟩
    · exact .inl ⟨text, rfl⟩
    · exact .inl ⟨record.moduleName, rfl⟩
    · cases record.function with
      | none => exact .inr (.inl rfl)
      | some name => exact .inl ⟨name, rfl⟩
    · exact .inr (.inr rfl)
  · cases hraised : record.raised with
    | none =>
        rw [hraised] at hreport
        cases hreport
    | some chain =>
        rw [hraised] at hreport
        obtain rfl := List.mem_singleton.mp hreport
        exact .inl ⟨Raised.report chain, rfl⟩

/-- **The hindrances of a record** are the parts of its fields that stand in the way. -/
theorem hindrance_iff (time text : String) :
    record.Hindrance fault
      ↔ ∃ part : Value, part.Within (asDict (record.fields time text)) ∧ part.Obstacle fault := by
  constructor
  · intro h
    cases h with
    | line hlong =>
        have hfield : ("line", .int record.line) ∈ record.fields time text := by
          rw [mem_fields, fixedFields]
          simp
        exact ⟨.int record.line, within_asDict_iff.mpr (.inr ⟨_, hfield, .self⟩), .long hlong⟩
    | @extra name value part _ hextra hwritten hpart hobstacle =>
        have hfield : (name, value) ∈ record.fields time text := mem_fields.mpr (.inr ⟨hextra, hwritten⟩)
        exact ⟨_, within_asDict_iff.mpr (.inr ⟨_, hfield, hpart⟩), hobstacle⟩
  · rintro ⟨part, hpart, hobstacle⟩
    rcases within_asDict_iff.mp hpart with rfl | ⟨⟨name, value⟩, hfield, hpart⟩
    · exact absurd hobstacle (not_obstacle_asDict _)
    rcases mem_fields.mp hfield with hfixed | ⟨hextra, hwritten⟩
    · rcases cases_fixedFields hfixed with ⟨shown, rfl⟩ | rfl | rfl
      · cases hpart
        cases hobstacle
      · cases hpart
        cases hobstacle
      · cases hpart
        cases hobstacle with
        | long hlong => exact .line hlong
    · exact .extra hextra hwritten hpart hobstacle

/-! ## The line -/

/-- **Which records are written.**  A record whose message can be rendered is written exactly if it holds no
hindrance.  If it does hold one, writing fails for a hindrance that it holds.

This is about values as `Value` has them.  Objects always have a text there, so that none fails when it is asked
for it, and values are written however deep they are. -/
theorem structured_returns_iff (record : Record) (time text : String) (hrender : record.render = .ok text) :
    ((∃ line, record.structured time = .ok line) ↔ ∀ fault, ¬ record.Hindrance fault)
      ∧ ∀ lineFault, record.structured time = .error lineFault →
        ∃ fault, lineFault = .field fault ∧ record.Hindrance fault := by
  rw [structured_eq hrender]
  cases hjson : (asDict (record.fields time text)).json with
  | ok line =>
      refine ⟨⟨fun _ fault hhindrance => ?_, fun _ => ⟨line, rfl⟩⟩, fun lineFault h => by cases h⟩
      obtain ⟨part, hpart, hobstacle⟩ := (hindrance_iff time text).mp hhindrance
      exact (Value.exists_json_iff _).mp ⟨line, hjson⟩ part hpart fault hobstacle
  | error fault =>
      have hhindrance : record.Hindrance fault := (hindrance_iff time text).mpr (Value.obstacle_of_json _ hjson)
      refine ⟨⟨?_, fun hfree => absurd hhindrance (hfree fault)⟩, fun lineFault h => ?_⟩
      · rintro ⟨line, hline⟩
        cases hline
      · exact ⟨fault, (Except.error.inj h).symm, hhindrance⟩

/-- A record with one extra field of its own, and one that is left out and could not be written. -/
def ladenWith (value : Value) : Record where
  message := .str "%s"
  arguments := some (.row [.bytes [0]])
  logger := "app"
  level := 20
  path := "app.py"
  line := 7
  function := some "work"
  extras := [("context", value), ("taskName", .dict [(.object "<task>", .none)])]
  raised := none

/-- Values of all kinds, one inside the other.  The last key is that of a place on a board. -/
def boardAt (place : Value) : Value :=
  .dict [(.int (-1), .list [.float .nan, .tuple [.bytes [255], .object "<unit>"]]),
    (.none, .dict [(.bool true, .int (-100000000000000000000000000000)), (.str "moved", .list [.dict [(place, .float (.infinity true))]])])]

/-- A board is written if its place is named by a text, and is not if it is named by a row of two numbers. -/
theorem structured_returns_board :
    (ladenWith (boardAt (.str "1, 2"))).render = .ok "b'\\x00'"
      ∧ (∀ fault, ¬ (ladenWith (boardAt (.str "1, 2"))).Hindrance fault)
      ∧ (ladenWith (boardAt (.tuple [.int 1, .int 2]))).render = .ok "b'\\x00'"
      ∧ (ladenWith (boardAt (.tuple [.int 1, .int 2]))).Hindrance (.key "tuple") := by
  have hrender : (ladenWith (boardAt (.str "1, 2"))).render = .ok "b'\\x00'" := by decide +kernel
  have hwritten : ((ladenWith (boardAt (.str "1, 2"))).structured "now").isOk := by decide +kernel
  have hrender' : (ladenWith (boardAt (.tuple [.int 1, .int 2]))).render = .ok "b'\\x00'" := by decide +kernel
  have hlost : (ladenWith (boardAt (.tuple [.int 1, .int 2]))).structured "now"
      = .error (.field (.key "tuple")) := by decide +kernel
  have hfree := (structured_returns_iff _ "now" _ hrender).1.mp ⟨_, eq_ok_of_isOk hwritten ""⟩
  obtain ⟨fault, hfault, hhindrance⟩ := (structured_returns_iff _ "now" _ hrender').2 _ hlost
  obtain rfl : JsonFault.key "tuple" = fault := LineFault.field.inj hfault
  exact ⟨hrender, hfree, hrender', hhindrance⟩

/-- Not every record whose message can be rendered is written. -/
theorem not_structured_returns_tupleKey :
    ¬ ∀ (record : Record) (time text : String), record.render = .ok text →
      ∃ line, record.structured time = .ok line := by
  intro h
  have hrender : (ladenWith (.dict [(.tuple [.int 1, .int 2], .int 3)])).render = .ok "b'\\x00'" := by
    decide +kernel
  have hlost : (ladenWith (.dict [(.tuple [.int 1, .int 2], .int 3)])).structured "now"
      = .error (.field (.key "tuple")) := by decide +kernel
  obtain ⟨line, hline⟩ := h _ "now" _ hrender
  rw [hlost] at hline
  cases hline

end Redaction.Record
