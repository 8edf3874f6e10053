import Redaction.Proofs.Effects
import Redaction.Value.Json

/-!
# What cannot be written in JSON

Most values can be written in JSON, be it as a text only.  Where a value cannot be written, this is not for its
size or its nesting but for a single part of it, which may lie deep inside.

* `Value.Within` — the parts of a value.
* `Value.Obstacle` — a part that stands in the way: a whole number with too many digits, or a dictionary with a key
  that no member can have for a name (`Value.NoName`).
* **`obstacle_of_json`** — the fault for which a value is not written is that of a part of it.
* **`exists_json_iff`** — a value can be written exactly if no part of it stands in the way.
-/

namespace Redaction.Value

/-- A part of a value: the value itself, or a part of one of its items.  Keys are no parts. -/
inductive Within (part : Value) : Value → Prop
  | self : Within part part
  | listed {item : Value} {items : List Value} (hitem : item ∈ items) (h : Within part item) :
      Within part (.list items)
  | row {item : Value} {items : List Value} (hitem : item ∈ items) (h : Within part item) :
      Within part (.tuple items)
  | entry {key item : Value} {entries : List (Value × Value)} (hentry : (key, item) ∈ entries)
      (h : Within part item) : Within part (.dict entries)

/-- A key that no member can have for a name: a number with too many digits, or no text, number, truth value or
nothing at all. -/
inductive NoName : Value → JsonFault → Prop
  | long {n : Int} (h : Text.digitBound ≤ n.natAbs) : NoName (.int n) .tooLong
  | kind {key : Value} (h : key.typeName ∉ ["str", "int", "float", "bool", "NoneType"]) :
      NoName key (.key key.typeName)

/-- A part for which a value cannot be written. -/
inductive Obstacle : Value → JsonFault → Prop
  | long {n : Int} (h : Text.digitBound ≤ n.natAbs) : Obstacle (.int n) .tooLong
  | key {key item : Value} {entries : List (Value × Value)} {fault : JsonFault}
      (hentry : (key, item) ∈ entries) (h : key.NoName fault) : Obstacle (.dict entries) fault

variable {value part : Value} {fault : JsonFault}

/-! ## Numbers and keys -/

lemma jsonDigits_eq_error_iff {n : Int} :
    jsonDigits n = .error fault ↔ Text.digitBound ≤ n.natAbs ∧ fault = .tooLong := by
  -- the bound is too large a number to be computed, so it is never compared with anything by its value
  rcases Nat.lt_or_ge n.natAbs Text.digitBound with hshort | hlong
  · have hdigits : digits n = .ok (Text.signedDecimal n) := by rw [digits, if_pos hshort]
    delta jsonDigits
    rw [hdigits]
    exact ⟨fun h => absurd h (by simp), fun h => absurd h.1 (Nat.not_le.mpr hshort)⟩
  · have hdigits : digits n = .error {} := by rw [digits, if_neg (Nat.not_lt.mpr hlong)]
    delta jsonDigits
    rw [hdigits]
    exact ⟨fun h => ⟨hlong, (Except.error.inj h).symm⟩, fun h => by rw [h.2]⟩

/-- A key is not written just for what keeps it from being a name. -/
lemma jsonKey_eq_error_iff {key : Value} : jsonKey key = .error fault ↔ key.NoName fault := by
  constructor
  · intro h
    cases key with
    | int n =>
        rw [jsonKey] at h
        obtain ⟨hlong, rfl⟩ := jsonDigits_eq_error_iff.mp h
        exact .long hlong
    | none | bool _ | float _ | str _ => cases h
    | bytes _ | list _ | tuple _ | dict _ | object _ =>
        obtain rfl := Except.error.inj h
        exact .kind (by simp [typeName])
  · intro h
    cases h with
    | long hlong =>
        rw [jsonKey]
        exact jsonDigits_eq_error_iff.mpr ⟨hlong, rfl⟩
    | kind hkind =>
        cases key with
        | none | bool _ | int _ | float _ | str _ => exact absurd (by simp [typeName]) hkind
        | bytes _ | list _ | tuple _ | dict _ | object _ => rfl

/-! ## What is written part by part -/

/-- Items that are written are written each. -/
lemma exists_json_of_mem {items : List Value} {texts : List String} (h : jsonItems items = .ok texts)
    {item : Value} (hitem : item ∈ items) : ∃ text, item.json = .ok text := by
  induction items generalizing texts with
  | nil => cases hitem
  | cons first rest ih =>
      rw [jsonItems] at h
      obtain ⟨text, htext, h⟩ := exists_of_bind h
      obtain ⟨more, hmore, -⟩ := exists_of_bind h
      rcases List.mem_cons.mp hitem with rfl | hitem
      · exact ⟨text, htext⟩
      · exact ih hmore hitem

/-- Entries that are written have names, and values that are written. -/
lemma exists_jsonKey_of_mem {entries : List (Value × Value)} {texts : List String}
    (h : jsonEntries entries = .ok texts) {key item : Value} (hentry : (key, item) ∈ entries) :
    (∃ name, jsonKey key = .ok name) ∧ ∃ text, item.json = .ok text := by
  induction entries generalizing texts with
  | nil => cases hentry
  | cons first rest ih =>
      obtain ⟨key', item'⟩ := first
      rw [jsonEntries] at h
      obtain ⟨name, hname, h⟩ := exists_of_bind h
      obtain ⟨text, htext, h⟩ := exists_of_bind h
      obtain ⟨more, hmore, -⟩ := exists_of_bind h
      rcases List.mem_cons.mp hentry with heq | hentry
      · obtain ⟨rfl, rfl⟩ := Prod.mk.inj heq
        exact ⟨⟨name, hname⟩, text, htext⟩
      · exact ih hmore hentry

/-- The parts of what can be written can be written. -/
lemma Within.exists_json (h : part.Within value) (hvalue : ∃ text, value.json = .ok text) :
    ∃ text, part.json = .ok text := by
  induction h with
  | self => exact hvalue
  | listed hitem _ ih =>
      obtain ⟨text, htext⟩ := hvalue
      rw [json] at htext
      obtain ⟨texts, htexts, -⟩ := exists_of_bind htext
      exact ih (exists_json_of_mem htexts hitem)
  | row hitem _ ih =>
      obtain ⟨text, htext⟩ := hvalue
      rw [json] at htext
      obtain ⟨texts, htexts, -⟩ := exists_of_bind htext
      exact ih (exists_json_of_mem htexts hitem)
  | entry hentry _ ih =>
      obtain ⟨text, htext⟩ := hvalue
      rw [json] at htext
      obtain ⟨texts, htexts, -⟩ := exists_of_bind htext
      exact ih (exists_jsonKey_of_mem htexts hentry).2

/-- An obstacle cannot be written by itself. -/
lemma Obstacle.not_json (h : value.Obstacle fault) : ¬ ∃ text, value.json = .ok text := by
  rintro ⟨text, htext⟩
  cases h with
  | long hlong =>
      rw [json, jsonDigits_eq_error_iff.mpr ⟨hlong, rfl⟩] at htext
      cases htext
  | key hentry hname =>
      rw [json] at htext
      obtain ⟨texts, htexts, -⟩ := exists_of_bind htext
      obtain ⟨name, hok⟩ := (exists_jsonKey_of_mem htexts hentry).1
      rw [jsonKey_eq_error_iff.mpr hname] at hok
      cases hok

/-! ## Where writing stops -/

mutual

/-- **What stops the writing of a value** is a part of it, with the fault that is told. -/
theorem obstacle_of_json (value : Value) {fault : JsonFault} (h : value.json = .error fault) :
    ∃ part : Value, part.Within value ∧ part.Obstacle fault := by
  cases value with
  | none => cases h
  | bool value => cases h
  | int n =>
      rw [json] at h
      obtain ⟨hlong, rfl⟩ := jsonDigits_eq_error_iff.mp h
      exact ⟨.int n, .self, .long hlong⟩
  | float x => cases h
  | str text => cases h
  | bytes items => cases h
  | object text => cases h
  | list items =>
      rw [json] at h
      rcases error_of_bind h with hitems | ⟨texts, -, hdone⟩
      · obtain ⟨item, hitem, part, hpart, hobstacle⟩ := obstacle_of_jsonItems items hitems
        exact ⟨part, .listed hitem hpart, hobstacle⟩
      · cases hdone
  | tuple items =>
      rw [json] at h
      rcases error_of_bind h with hitems | ⟨texts, -, hdone⟩
      · obtain ⟨item, hitem, part, hpart, hobstacle⟩ := obstacle_of_jsonItems items hitems
        exact ⟨part, .row hitem hpart, hobstacle⟩
      · cases hdone
  | dict entries =>
      rw [json] at h
      rcases error_of_bind h with hentries | ⟨texts, -, hdone⟩
      · obtain ⟨key, item, hentry, hname | ⟨part, hpart, hobstacle⟩⟩ := obstacle_of_jsonEntries entries hentries
        · exact ⟨.dict entries, .self, .key hentry hname⟩
        · exact ⟨part, .entry hentry hpart, hobstacle⟩
      · cases hdone

lemma obstacle_of_jsonItems (items : List Value) {fault : JsonFault} (h : jsonItems items = .error fault) :
    ∃ item ∈ items, ∃ part : Value, part.Within item ∧ part.Obstacle fault := by
  cases items with
  | nil => cases h
  | cons item rest =>
      rw [jsonItems] at h
      rcases error_of_bind h with hitem | ⟨text, -, h⟩
      · exact ⟨item, List.mem_cons_self, obstacle_of_json item hitem⟩
      · rcases error_of_bind h with hrest | ⟨more, -, hdone⟩
        · obtain ⟨other, hother, hpart⟩ := obstacle_of_jsonItems rest hrest
          exact ⟨other, List.mem_cons_of_mem _ hother, hpart⟩
        · cases hdone

lemma obstacle_of_jsonEntries (entries : List (Value × Value)) {fault : JsonFault}
    (h : jsonEntries entries = .error fault) :
    ∃ key item, (key, item) ∈ entries
      ∧ (key.NoName fault ∨ ∃ part : Value, part.Within item ∧ part.Obstacle fault) := by
  cases entries with
  | nil => cases h
  | cons entry rest =>
      obtain ⟨key, item⟩ := entry
      rw [jsonEntries] at h
      rcases error_of_bind h with hkey | ⟨name, -, h⟩
      · exact ⟨key, item, List.mem_cons_self, .inl (jsonKey_eq_error_iff.mp hkey)⟩
      · rcases error_of_bind h with hitem | ⟨text, -, h⟩
        · exact ⟨key, item, List.mem_cons_self, .inr (obstacle_of_json item hitem)⟩
        · rcases error_of_bind h with hrest | ⟨more, -, hdone⟩
          · obtain ⟨key', item', hentry, hpart⟩ := obstacle_of_jsonEntries rest hrest
            exact ⟨key', item', List.mem_cons_of_mem _ hentry, hpart⟩
          · cases hdone

end

/-- **What can be written** is what no part stands in the way of. -/
theorem exists_json_iff (value : Value) :
    (∃ text, value.json = .ok text) ↔ ∀ part : Value, part.Within value → ∀ fault, ¬ part.Obstacle fault := by
  constructor
  · intro hvalue part hpart fault hobstacle
    exact hobstacle.not_json (hpart.exists_json hvalue)
  · intro hfree
    cases hjson : value.json with
    | ok text => exact ⟨text, rfl⟩
    | error fault =>
        obtain ⟨part, hpart, hobstacle⟩ := obstacle_of_json value hjson
        exact absurd hobstacle (hfree part hpart fault)

end Redaction.Value
