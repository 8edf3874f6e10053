import Redaction.Proofs.Effects
import Redaction.Proofs.Json.Decimals
import Redaction.Value.Json

/-!
# Reading what was written: values

Every value that is written in JSON is read again.  How deeply a value may be nested and how long its numbers
may be is bounded by its length, so a text that is shorter than the limits of a reader is not refused for them.

* `Json.Written` — a text that is read as a value by every reader whose limits it keeps.
* `Json.Reads` — such a text by itself, read with limits that are wide enough.
* `Value.ReadAs` — what texts, whole numbers and truth values are read as.
* **`written_json`** — a value in JSON.
-/

namespace Redaction
namespace Json

open Text

/-- A text that is read as a value by every reader whose limits it keeps by its length alone. -/
def Written (text : String) (v : Json) : Prop :=
  ∀ digits depth, (Utf8.encode text).length < digits → (Utf8.encode text).length ≤ depth →
    Readable digits depth (Utf8.encode text) v

/-- A text is read as a value, within limits that nothing of its length goes beyond. -/
def Reads (text : String) (v : Json) : Prop :=
  readWithin ⟨(Utf8.encode text).length + 1, (Utf8.encode text).length⟩ (Utf8.encode text) = .ok v

lemma reads_of_written {text : String} {v : Json} (h : Written text v) : Reads text v :=
  readWithin_of_readable (h _ _ (Nat.lt_succ_self _) (Nat.le_refl _))

lemma written_quoted (text : String) : Written (quoted text) (.string text) :=
  fun _ _ _ _ => readable_quoted _ _ text

/-! ## Words and numbers -/

/-- A word that is read by its first letter. -/
lemma written_word {text : String} {c : Char} {letters : List Char} {v : Json}
    (htext : text.toList = c :: letters)
    (hascii : (c :: letters).all (·.toNat < 0x80) = true) (hspace : isSpace (byte c) = false)
    (hlist : byte c ≠ byte ']' ∧ byte c ≠ byte '[' ∧ byte c ≠ byte '\x7b')
    (hscalar : ∀ digits, scalar digits (byte c) = do word (c :: letters); return v) : Written text v := by
  intro digits depth _ _
  have hbytes : Utf8.encode text = byte c :: letters.map byte := by
    rw [Utf8.encode_eq, htext, flatMap_utf8_of_ascii (by simpa using hascii)]
    rfl
  rw [hbytes]
  refine readable_scalar hspace hlist.1 hlist.2.1 hlist.2.2 fun index rest _ => ?_
  rw [hscalar]
  exact Takes.last (takes_word c letters index rest) (.pure _)

lemma written_null : Written "null" .null :=
  written_word rfl rfl (by decide) (by decide) fun _ => rfl

lemma written_bool (value : Bool) : Written (Value.jsonBool value) (.bool value) := by
  cases value
  · exact written_word rfl rfl (by decide) (by decide) fun _ => rfl
  · exact written_word rfl rfl (by decide) (by decide) fun _ => rfl

/-- A whole number is written by its digits, if there are not too many. -/
lemma eq_of_jsonDigits {n : Int} {text : String} (h : Value.jsonDigits n = .ok text) :
    text = signedDecimal n := by
  -- the bound is too large a number to be computed, so nothing may look at it
  obtain ⟨bound, hbound⟩ : ∃ bound,
      Value.digits n = if n.natAbs < bound then .ok (signedDecimal n) else .error {} :=
    ⟨digitBound, by rw [Value.digits]⟩
  delta Value.jsonDigits at h
  rw [hbound] at h
  by_cases hlt : n.natAbs < bound
  · rw [if_pos hlt] at h
    exact (Except.ok.inj h).symm
  · rw [if_neg hlt] at h
    cases h

lemma written_int {n : Int} {text : String} (h : Value.jsonDigits n = .ok text) : Written text (.int n) := by
  intro digits depth hlimit _
  rw [eq_of_jsonDigits h] at hlimit ⊢
  exact readable_int n hlimit

lemma written_negativeInfinity : Written "-Infinity" (.float (.infinity true)) := by
  intro digits depth _ _
  have hbytes : Utf8.encode "-Infinity"
      = byte '-' :: byte 'I' :: ['n', 'f', 'i', 'n', 'i', 't', 'y'].map byte := by
    rw [Utf8.encode_eq]
    rfl
  rw [hbytes]
  refine readable_scalar (by decide) (by decide) (by decide) (by decide) fun index rest _ => ?_
  rw [scalar_of_startsNumber (.inl rfl), number]
  refine Takes.get (Takes.peek (Takes.skip (Takes.peek ?_)))
  exact Takes.last (takes_word 'I' ['n', 'f', 'i', 'n', 'i', 't', 'y'] _ rest) (.pure _)

lemma written_float (x : Binary64) : ∃ v, Written (Value.jsonFloat x) v := by
  cases x with
  | nan => exact ⟨.float .nan, written_word rfl rfl (by decide) (by decide) fun _ => rfl⟩
  | infinity negative =>
      cases negative
      · exact ⟨.float (.infinity false), written_word rfl rfl (by decide) (by decide) fun _ => rfl⟩
      · exact ⟨_, written_negativeInfinity⟩
  | finite negative mantissa exponent =>
      obtain ⟨parts, hproper, hwritten⟩ := Decimal.exists_parts negative mantissa exponent
      refine ⟨parts.value, fun digits depth hdigits _ => ?_⟩
      show Readable digits depth (Utf8.encode (Binary64.finite negative mantissa exponent).text) parts.value
      rw [hwritten]
      exact readable_number parts hproper (hwritten ▸ hdigits)

/-! ## Lists -/

lemma length_le_listBytes {items : List (List UInt8)} {item : List UInt8} (h : item ∈ items) :
    item.length ≤ (listBytes items).length := by
  have hfurther : ∀ items : List (List UInt8), item ∈ items → item.length ≤ (furtherBytes items).length := by
    intro items hmem
    obtain ⟨before, after, rfl⟩ := List.append_of_mem hmem
    simp only [furtherBytes, List.flatMap_append, List.flatMap_cons, List.length_append, List.length_cons]
    omega
  cases items with
  | nil => cases h
  | cons first items =>
      rw [listBytes, List.length_append]
      rcases List.mem_cons.mp h with rfl | h
      · omega
      · have hle := hfurther items h
        omega

lemma encode_enclosed {opening closing : String} {c c' : UInt8} (hopening : Utf8.encode opening = [c])
    (hclosing : Utf8.encode closing = [c']) (texts : List String) :
    Utf8.encode (opening ++ Value.listed texts ++ closing)
      = c :: (listBytes (texts.map Utf8.encode) ++ [c']) := by
  rw [encode_append, encode_append, hopening, hclosing, encode_listed]
  rfl

/-- What stands between brackets leaves a level of nesting for them. -/
lemma exists_depth {items : List (List UInt8)} {c c' : UInt8} {depth : Nat}
    (h : (c :: (listBytes items ++ [c'])).length ≤ depth) :
    ∃ n, depth = n + 1 ∧ ∀ item ∈ items, item.length ≤ n := by
  simp only [List.length_cons, List.length_append] at h
  refine ⟨depth - 1, by omega, fun item hitem => ?_⟩
  have hle := length_le_listBytes hitem
  omega

lemma written_array (items : List (String × Json)) (h : ∀ item ∈ items, Written item.1 item.2) :
    Written ("[" ++ Value.listed (items.map (·.1)) ++ "]") (.array (items.map (·.2))) := by
  intro digits depth hdigits hdepth
  have hopening : Utf8.encode "[" = [byte '['] := by
    rw [Utf8.encode_eq]
    rfl
  have hclosing : Utf8.encode "]" = [byte ']'] := by
    rw [Utf8.encode_eq]
    rfl
  rw [encode_enclosed hopening hclosing] at hdigits hdepth ⊢
  obtain ⟨depth, rfl, hlength⟩ := exists_depth hdepth
  have hitems : ∀ item ∈ items.map fun item => (Utf8.encode item.1, item.2),
      Readable digits depth item.1 item.2 := by
    intro _ hmem
    obtain ⟨item, hitem, rfl⟩ := List.mem_map.mp hmem
    have hmem' : Utf8.encode item.1 ∈ (items.map (·.1)).map Utf8.encode :=
      List.mem_map_of_mem (List.mem_map_of_mem hitem)
    refine h item hitem digits depth ?_ (hlength _ hmem')
    have hle := length_le_listBytes hmem'
    simp only [List.length_cons, List.length_append] at hdigits
    omega
  have hreadable := readable_array _ hitems
  simpa only [List.map_map, Function.comp_def] using hreadable

/-- Members of an object by name, with the texts of their values and what these are read as. -/
abbrev WrittenMember := String × String × Json

/-- The text of a member of an object. -/
def memberText (member : WrittenMember) : String :=
  quoted member.1 ++ ": " ++ member.2.1

lemma encode_memberText (member : WrittenMember) :
    Utf8.encode (memberText member) = memberBytes member.1 (Utf8.encode member.2.1) := by
  have hcolon : Utf8.encode ": " = [byte ':', byte ' '] := by
    rw [Utf8.encode_eq]
    rfl
  rw [memberText, encode_append, encode_append, hcolon, memberBytes, List.append_assoc]
  rfl

lemma written_object (members : List WrittenMember) (h : ∀ member ∈ members, Written member.2.1 member.2.2) :
    Written ("\x7b" ++ Value.listed (members.map memberText) ++ "\x7d")
      (.object (members.map fun member => (member.1, member.2.2))) := by
  intro digits depth hdigits hdepth
  have hopening : Utf8.encode "\x7b" = [byte '\x7b'] := by
    rw [Utf8.encode_eq]
    rfl
  have hclosing : Utf8.encode "\x7d" = [byte '\x7d'] := by
    rw [Utf8.encode_eq]
    rfl
  rw [encode_enclosed hopening hclosing] at hdigits hdepth ⊢
  obtain ⟨depth, rfl, hlength⟩ := exists_depth hdepth
  have hmembers : ∀ member ∈ members.map fun member => (member.1, Utf8.encode member.2.1, member.2.2),
      Readable digits depth member.2.1 member.2.2 := by
    intro _ hmem
    obtain ⟨member, hmember, rfl⟩ := List.mem_map.mp hmem
    have hmem' : Utf8.encode (memberText member) ∈ (members.map memberText).map Utf8.encode :=
      List.mem_map_of_mem (List.mem_map_of_mem hmember)
    have hvalue : (Utf8.encode member.2.1).length ≤ (Utf8.encode (memberText member)).length := by
      rw [encode_memberText, memberBytes]
      simp only [List.length_append, List.length_cons]
      omega
    refine h member hmember digits depth ?_ (Nat.le_trans hvalue (hlength _ hmem'))
    have hle := length_le_listBytes hmem'
    simp only [List.length_cons, List.length_append] at hdigits
    omega
  have hreadable := readable_object _ hmembers
  simpa only [List.map_map, Function.comp_def, encode_memberText] using hreadable

end Json

/-! ## Values -/

/-- What texts, whole numbers, truth values and nothing are read as.  Of other values it only matters that
they are read. -/
def Value.ReadAs : Value → Json → Prop
  | .str text, v => v = .string text
  | .int n, v => v = .int n
  | .bool value, v => v = .bool value
  | .none, v => v = .null
  | _, _ => True

namespace Json

mutual

/-- **A value in JSON** is read again. -/
theorem written_json (value : Value) {text : String} (h : value.json = .ok text) :
    ∃ v, Written text v ∧ value.ReadAs v := by
  cases value with
  | none =>
      obtain rfl : "null" = text := Except.ok.inj h
      exact ⟨.null, written_null, rfl⟩
  | bool value =>
      obtain rfl : Value.jsonBool value = text := Except.ok.inj h
      exact ⟨.bool value, written_bool value, rfl⟩
  | int n =>
      rw [Value.json] at h
      exact ⟨.int n, written_int h, rfl⟩
  | float x =>
      obtain rfl : Value.jsonFloat x = text := Except.ok.inj h
      obtain ⟨v, hv⟩ := written_float x
      exact ⟨v, hv, trivial⟩
  | str content =>
      obtain rfl : quoted content = text := Except.ok.inj h
      exact ⟨.string content, written_quoted content, rfl⟩
  | bytes items =>
      obtain rfl : quoted (Text.quotedBytes items) = text := Except.ok.inj h
      exact ⟨_, written_quoted _, trivial⟩
  | object shown =>
      obtain rfl : quoted shown = text := Except.ok.inj h
      exact ⟨_, written_quoted _, trivial⟩
  | list items =>
      rw [Value.json] at h
      obtain ⟨texts, htexts, htext⟩ := exists_of_bind h
      obtain ⟨read, rfl, hread⟩ := written_jsonItems items htexts
      obtain rfl := Except.ok.inj htext
      exact ⟨_, written_array read hread, trivial⟩
  | tuple items =>
      rw [Value.json] at h
      obtain ⟨texts, htexts, htext⟩ := exists_of_bind h
      obtain ⟨read, rfl, hread⟩ := written_jsonItems items htexts
      obtain rfl := Except.ok.inj htext
      exact ⟨_, written_array read hread, trivial⟩
  | dict entries =>
      rw [Value.json] at h
      obtain ⟨texts, htexts, htext⟩ := exists_of_bind h
      obtain ⟨read, rfl, hread⟩ := written_jsonEntries entries htexts
      obtain rfl := Except.ok.inj htext
      exact ⟨_, written_object read hread, trivial⟩

lemma written_jsonItems (items : List Value) {texts : List String} (h : Value.jsonItems items = .ok texts) :
    ∃ read : List (String × Json), read.map (·.1) = texts ∧ ∀ item ∈ read, Written item.1 item.2 := by
  cases items with
  | nil =>
      obtain rfl : [] = texts := Except.ok.inj h
      exact ⟨[], rfl, by simp⟩
  | cons item rest =>
      rw [Value.jsonItems] at h
      obtain ⟨text, htext, h⟩ := exists_of_bind h
      obtain ⟨more, hmore, h⟩ := exists_of_bind h
      obtain ⟨v, hv, -⟩ := written_json item htext
      obtain ⟨read, rfl, hread⟩ := written_jsonItems rest hmore
      obtain rfl := Except.ok.inj h
      exact ⟨(text, v) :: read, rfl, List.forall_mem_cons.mpr ⟨hv, hread⟩⟩

lemma written_jsonEntries (entries : List (Value × Value)) {texts : List String}
    (h : Value.jsonEntries entries = .ok texts) :
    ∃ read : List WrittenMember, read.map memberText = texts
      ∧ ∀ member ∈ read, Written member.2.1 member.2.2 := by
  cases entries with
  | nil =>
      obtain rfl : [] = texts := Except.ok.inj h
      exact ⟨[], rfl, by simp⟩
  | cons entry rest =>
      obtain ⟨key, item⟩ := entry
      rw [Value.jsonEntries] at h
      obtain ⟨name, -, h⟩ := exists_of_bind h
      obtain ⟨text, htext, h⟩ := exists_of_bind h
      obtain ⟨more, hmore, h⟩ := exists_of_bind h
      obtain ⟨v, hv, -⟩ := written_json item htext
      obtain ⟨read, rfl, hread⟩ := written_jsonEntries rest hmore
      obtain rfl := Except.ok.inj h
      exact ⟨(name, text, v) :: read, rfl, List.forall_mem_cons.mpr ⟨hv, hread⟩⟩

end

end Json
end Redaction
