import Redaction.Proofs.Json.PrintableAscii
import Redaction.Proofs.Record.StructuredLine

/-!
# The fields of a structured line

Whoever reads the log trusts the fields that every line has: the level, the logger, the message.  A record also
carries fields that its caller has named, and texts that nobody has looked at.  Neither may take the place of
what belongs to the record, hide it behind a second field of the same name, or end the line early.

* `lineKeys` — the names that a line has before extra fields are written.
* `Writes` — which extra fields are written after them; **`fields_eq`** says that these are all fields.
* `ofDraft_extras_nodup` — records are made with extra fields of different names.
* **`printableAscii_structured`** — a structured line is of printable ASCII characters.
* **`structured_fields`** — read again it is an object of these fields, each name once, in their order, and the
  fields of the record are exactly what the record holds.
-/

namespace Redaction

/-! ## Names of extra fields -/

namespace Fields

variable {α : Type}

lemma mem_names_put {name other : String} {value : α} {row : List (String × α)}
    (h : other ∈ (put name value row).map Prod.fst) : other = name ∨ other ∈ row.map Prod.fst := by
  induction row with
  | nil => exact .inl (List.mem_singleton.mp h)
  | cons field rest ih =>
      obtain ⟨first, kept⟩ := field
      by_cases hsame : first = name
      · rw [put, if_pos hsame] at h
        exact .inr h
      · rw [put, if_neg hsame] at h
        rcases List.mem_cons.mp h with heq | hmem
        · exact .inr (List.mem_cons.mpr (.inl heq))
        · exact (ih hmem).imp id (List.mem_cons_of_mem _)

/-- A value is put under a name that is there, or under a new one. -/
lemma nodup_put {name : String} {value : α} {row : List (String × α)} (h : (row.map Prod.fst).Nodup) :
    ((put name value row).map Prod.fst).Nodup := by
  induction row with
  | nil => simp [put]
  | cons field rest ih =>
      obtain ⟨first, kept⟩ := field
      obtain ⟨hfirst, hrest⟩ := List.nodup_cons.mp h
      by_cases hsame : first = name
      · rw [put, if_pos hsame]
        exact h
      · rw [put, if_neg hsame]
        refine List.nodup_cons.mpr ⟨fun hmem => ?_, ih hrest⟩
        rcases mem_names_put hmem with heq | hmem
        · exact hsame heq
        · exact hfirst hmem

lemma nodup_ofList (fields : List (String × α)) : ((ofList fields).map Prod.fst).Nodup := by
  rw [ofList]
  exact List.foldlRecOn (motive := fun row : List (String × α) => (row.map Prod.fst).Nodup) fields _
    List.nodup_nil fun row h field _ => nodup_put h

end Fields

/-! ## Values that are read exactly -/

namespace Value

/-- What texts, whole numbers, truth values and nothing are in JSON. -/
def plainJson? : Value → Option Json
  | .str text => some (.string text)
  | .int n => some (.int n)
  | .bool value => some (.bool value)
  | .none => some .null
  | _ => Option.none

lemma eq_of_readAs {value : Value} {v expected : Json} (h : value.ReadAs v)
    (hplain : plainJson? value = some expected) : v = expected := by
  cases value <;> simp_all [ReadAs, plainJson?]

end Value

namespace Record

open Json

/-- Records are made with extra fields of different names. -/
lemma ofDraft_extras_nodup {draft : Draft} {record : Record} (h : ofDraft draft = .ok record) :
    (record.extras.map Prod.fst).Nodup := by
  rw [ofDraft] at h
  split at h
  · cases h
  · cases h
    exact Fields.nodup_ofList draft.extras

/-! ## The fields of a line -/

/-- The names that a line has before extra fields are written. -/
def lineKeys (record : Record) : List String :=
  ["timestamp", "level", "logger", "message", "module", "function", "line"]
    ++ if record.raised.isSome then ["exception"] else []

/-- An extra field is written unless it is named like something that records have of their own, or like a field
that is there. -/
def Writes (record : Record) (name : String) : Prop :=
  name ∉ attributes ∧ name ∉ ["message", "asctime", "taskName"] ∧ name ∉ record.lineKeys

instance decidableWrites (record : Record) (name : String) : Decidable (record.Writes name) :=
  inferInstanceAs (Decidable (_ ∧ _))

lemma fixedFields_names (time text : String) (record : Record) :
    (record.fixedFields time text).map Prod.fst = record.lineKeys := by
  rw [fixedFields, lineKeys]
  cases record.raised <;> rfl

lemma nodup_lineKeys (record : Record) : record.lineKeys.Nodup := by
  rw [lineKeys]
  cases record.raised <;> simp

/-- **The fields of a line** are those of the record, and then the extra fields that may be written. -/
theorem fields_eq (time text : String) (record : Record) :
    record.fields time text
      = record.fixedFields time text ++ record.extras.filter fun extra => record.Writes extra.1 := by
  rw [fields, fixedFields_names]
  congr 1
  refine List.filter_congr fun extra _ => ?_
  obtain ⟨name, value⟩ := extra
  by_cases hkey : name ∈ record.lineKeys
  · simp [Writes, hkey]
  · simp [Writes, hkey, hiddenFields, reserved]

/-- No name comes twice. -/
lemma nodup_fields {record : Record} (hnames : (record.extras.map Prod.fst).Nodup) (time text : String) :
    ((record.fields time text).map Prod.fst).Nodup := by
  rw [fields_eq, List.map_append, fixedFields_names]
  refine List.nodup_append.mpr ⟨record.nodup_lineKeys, ?_, ?_⟩
  · exact hnames.sublist (List.filter_sublist.map Prod.fst)
  · rintro name hkey _ hname rfl
    obtain ⟨extra, hextra, rfl⟩ := List.mem_map.mp hname
    have hwritten : record.Writes extra.1 := by simpa using (List.mem_filter.mp hextra).2
    exact hwritten.2.2 hkey

/-! ## What they are read as -/

lemma names_eq {fields : List (String × Value)} {found : List (String × Json)}
    (h : List.Forall₂ FieldReadAs fields found) : found.map Prod.fst = fields.map Prod.fst := by
  induction h with
  | nil => rfl
  | cons hfield _ ih => rw [List.map_cons, List.map_cons, hfield.1, ih]

/-- Fields of which it is known what they are in JSON are read as that. -/
lemma eq_of_plainJson? {fields : List (String × Value)} {found expected : List (String × Json)}
    (h : List.Forall₂ FieldReadAs fields found)
    (hplain : fields.map (fun field => (field.1, field.2.plainJson?))
      = expected.map fun member => (member.1, some member.2)) : found = expected := by
  induction h generalizing expected with
  | nil => exact (List.map_eq_nil_iff.mp hplain.symm).symm
  | @cons field member fields found hfield _ ih =>
      cases expected with
      | nil => cases hplain
      | cons first rest =>
          obtain ⟨hfirst, hrest⟩ := List.cons.inj hplain
          obtain ⟨hname, hvalue⟩ := Prod.mk.inj hfirst
          rw [ih hrest]
          exact congrArg (· :: rest) (Prod.ext (hfield.1.trans hname) (Value.eq_of_readAs hfield.2 hvalue))

/-- The members that a line has for its record. -/
def ownMembers (time text : String) (record : Record) : List (String × Json) :=
  [("timestamp", .string time), ("level", .string record.levelName), ("logger", .string record.logger),
    ("message", .string text), ("module", .string record.moduleName),
    ("function", (record.function.map Json.string).getD .null), ("line", .int record.line)]
    ++ (record.raised.map fun chain => ("exception", .string (Raised.report chain))).toList

lemma fixedFields_plainJson? (time text : String) (record : Record) :
    (record.fixedFields time text).map (fun field => (field.1, field.2.plainJson?))
      = (record.ownMembers time text).map fun member => (member.1, some member.2) := by
  rw [fixedFields, ownMembers]
  cases record.raised <;> cases record.function <;> rfl

/-! ## The line -/

lemma printableAscii_members {fields : List (String × Value)} {texts : List String}
    (h : members fields = .ok texts) : ∀ text ∈ texts, PrintableAscii text := by
  induction fields generalizing texts with
  | nil =>
      obtain rfl : [] = texts := Except.ok.inj h
      exact List.forall_mem_nil _
  | cons field rest ih =>
      obtain ⟨name, value⟩ := field
      rw [members] at h
      obtain ⟨text, htext, h⟩ := exists_of_bind h
      obtain ⟨more, hmore, h⟩ := exists_of_bind h
      obtain rfl := Except.ok.inj h
      exact List.forall_mem_cons.mpr ⟨(printableAscii_json value htext).member name, ih hmore⟩

/-- **A structured line** is of printable ASCII characters, whatever the record holds. -/
theorem printableAscii_structured {record : Record} {time line : String}
    (h : record.structured time = .ok line) : PrintableAscii line := by
  rw [structured] at h
  obtain ⟨text, -, h⟩ := exists_of_bind h
  obtain ⟨texts, htexts, h⟩ := exists_of_bind h
  obtain rfl := Except.ok.inj h
  exact .enclosed (printableAscii_members (ok_of_mapError htexts)) (by decide) (by decide)

/-- **What a structured line holds.**  It is one line of printable ASCII characters, and is read as an object
in which no name comes twice.  First come the fields of the record, with exactly what the record holds, the
rendered text for the message, and the report of an error if and only if there is one.  Then come the extra
fields, in their order, but for those that are named like something that records have of their own or like a
field that is there. -/
theorem structured_fields (record : Record) (time line : String) (h : record.structured time = .ok line)
    (hnames : (record.extras.map Prod.fst).Nodup) :
    PrintableAscii line ∧ '\n' ∉ line.toList
      ∧ ∃ text found extras, record.render = .ok text
        ∧ Reads line (.object found)
        ∧ found = record.ownMembers time text ++ extras
        ∧ List.Forall₂ FieldReadAs (record.extras.filter fun extra => record.Writes extra.1) extras
        ∧ found.map Prod.fst
          = record.lineKeys ++ (record.extras.map Prod.fst).filter (record.Writes ·)
        ∧ (found.map Prod.fst).Nodup := by
  have hshown := printableAscii_structured h
  obtain ⟨text, found, hrender, hread, hfields⟩ := read_structured h
  have hnodup := nodup_fields hnames time text
  rw [← names_eq hfields] at hnodup
  rw [fields_eq] at hfields
  have hown := List.forall₂_take (record.fixedFields time text).length hfields
  have hextras := List.forall₂_drop (record.fixedFields time text).length hfields
  rw [List.take_left] at hown
  rw [List.drop_left] at hextras
  have hfound : found = record.ownMembers time text ++ found.drop (record.fixedFields time text).length := by
    rw [← eq_of_plainJson? hown (record.fixedFields_plainJson? time text), List.take_append_drop]
  refine ⟨hshown, fun hbreak => absurd (hshown _ hbreak) (by decide), text, found, _, hrender, hread, hfound,
    hextras, ?_, hnodup⟩
  rw [names_eq hfields, List.map_append, fixedFields_names, List.filter_map]
  rfl

/-- A record whose texts try to end the line, and whose extra fields are named like others. -/
def forgedDraft : Draft where
  message := .str "\x7d\n\x7b%s"
  arguments := [.str "😀"]
  logger := "app"
  level := 25
  path := "/srv/é.py"
  line := -1
  function := none
  extras := [("timestamp", .str "never"), ("user\n", .int 1), ("taskName", .none), ("exception", .str "\r"),
    ("user\n", .list [.float .nan, .bytes [10]])]

/-- The record of this draft. -/
def forgedRecord : Record where
  message := .str "\x7d\n\x7b%s"
  arguments := some (.row [.str "😀"])
  logger := "app"
  level := 25
  path := "/srv/é.py"
  line := -1
  function := none
  extras := [("timestamp", .str "never"), ("user\n", .list [.float .nan, .bytes [10]]), ("taskName", .none),
    ("exception", .str "\r")]
  raised := none

/-- Its line.  There is no error, so that the name of its field can be used. -/
def forgedLine : String :=
  "\x7b\"timestamp\": \"now\", \"level\": \"Level 25\", \"logger\": \"app\", "
    ++ "\"message\": \"\x7d\\n\x7b\\ud83d\\ude00\", \"module\": \"\\u00e9\", \"function\": null, \"line\": -1, "
    ++ "\"user\\n\": [NaN, \"b'\\\\n'\"], \"exception\": \"\\r\"\x7d"

/-- The forged time is not written, and the forged line break is part of the message. -/
theorem structured_fields_forged :
    ofDraft forgedDraft = .ok forgedRecord
      ∧ forgedRecord.structured "now" = .ok forgedLine
      ∧ (forgedRecord.extras.map Prod.fst).Nodup
      ∧ PrintableAscii forgedLine
      ∧ ∃ found, Reads forgedLine (.object found)
        ∧ found.take 7 = forgedRecord.ownMembers "now" "\x7d\n\x7b😀"
        ∧ found.map Prod.fst = ["timestamp", "level", "logger", "message", "module", "function", "line",
            "user\n", "exception"] := by
  have hmade : ofDraft forgedDraft = .ok forgedRecord := rfl
  have hline : forgedRecord.structured "now" = .ok forgedLine := by decide +kernel
  have hnames := ofDraft_extras_nodup hmade
  obtain ⟨hshown, -, text, found, extras, hrender, hread, hfound, -, hkeys, -⟩ :=
    structured_fields forgedRecord "now" forgedLine hline hnames
  have hrender' : forgedRecord.render = .ok "\x7d\n\x7b😀" := by decide +kernel
  obtain rfl : "\x7d\n\x7b😀" = text := Except.ok.inj (hrender'.symm.trans hrender)
  refine ⟨hmade, hline, hnames, hshown, found, hread, ?_, hkeys.trans (by decide)⟩
  rw [hfound]
  rfl

end Record
end Redaction
