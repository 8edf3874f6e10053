import Redaction.Proofs.Json.Values

/-!
# What JSON is written in

Texts come from everywhere: from messages, from errors, from fields that a caller names and fills.  Written in
JSON they are of printable ASCII characters alone, and no text can break a line, hide something, or turn what
follows it around.  This is not a property of the escapes only: numbers, words and what stands between the
parts of a value are written without them.

* `PrintableAscii` — a text of these characters alone.
* `printableAscii_quoted` — a text in quotes, whatever it holds.
* `printableAscii_float` — a floating-point number, which is written digit by digit.
* **`printableAscii_json`** — a value of any kind, and however deeply it is nested.
-/

namespace Redaction
namespace Json

open Text

/-- A printable ASCII character. -/
def Shown (c : Char) : Prop :=
  0x20 ≤ c.toNat ∧ c.toNat ≤ 0x7E

instance decidableShown (c : Char) : Decidable (Shown c) :=
  inferInstanceAs (Decidable (_ ∧ _))

/-- A text of printable ASCII characters alone. -/
def PrintableAscii (text : String) : Prop :=
  ∀ c ∈ text.toList, Shown c

instance decidablePrintableAscii (text : String) : Decidable (PrintableAscii text) :=
  List.decidableBAll Shown text.toList

lemma printableAscii_ofList {chars : List Char} (h : ∀ c ∈ chars, Shown c) :
    PrintableAscii (String.ofList chars) := by
  rw [PrintableAscii, String.toList_ofList]
  exact h

lemma PrintableAscii.append {first second : String} (h : PrintableAscii first) (h' : PrintableAscii second) :
    PrintableAscii (first ++ second) := by
  intro c hc
  rw [String.toList_append, List.mem_append] at hc
  exact hc.elim (h c) (h' c)

/-- What stands between the parts of a value can be shown as well. -/
lemma printableAscii_listed {texts : List String} (h : ∀ text ∈ texts, PrintableAscii text) :
    PrintableAscii (Value.listed texts) := by
  rw [Value.listed]
  induction texts with
  | nil =>
      intro c hc
      simp at hc
  | cons text rest ih =>
      obtain ⟨htext, hrest⟩ := List.forall_mem_cons.mp h
      cases rest with
      | nil =>
          rw [String.intercalate_singleton]
          exact htext
      | cons next rest =>
          rw [String.intercalate_cons_cons]
          exact (htext.append (by decide)).append (ih hrest)

/-! ## Texts -/

lemma shown_hexDigit (n : Nat) : Shown (hexDigit (n % 16)) := by
  have hdigits : ∀ digit < 16, Shown (hexDigit digit) := by decide
  exact hdigits _ (Nat.mod_lt _ (by decide))

lemma shown_unitEscape (unit : Nat) : ∀ c ∈ unitEscape unit, Shown c := by
  have hbackslash : Shown '\\' := by decide
  have hmark : Shown 'u' := by decide
  simp [unitEscape, hex, shown_hexDigit, hbackslash, hmark]

/-- Outside the printable ASCII characters everything is written by its units. -/
lemma shown_codeEscape (code : Nat) : ∀ c ∈ codeEscape code, Shown c := by
  rw [codeEscape]
  split
  · exact shown_unitEscape code
  · exact List.forall_mem_append.mpr ⟨shown_unitEscape _, shown_unitEscape _⟩

/-- An escape of one character is a backslash with another one. -/
lemma shown_backslash {c : Char} (h : Shown c) : ∀ d ∈ ['\\', c], Shown d :=
  List.forall_mem_cons.mpr ⟨by decide, List.forall_mem_singleton.mpr h⟩

lemma shown_quotedChar (c : Char) : ∀ d ∈ quotedChar c, Shown d := by
  rw [quotedChar]
  split_ifs with _ _ _ _ _ _ _ hshown
  · exact shown_backslash (by decide)
  · exact shown_backslash (by decide)
  · exact shown_backslash (by decide)
  · exact shown_backslash (by decide)
  · exact shown_backslash (by decide)
  · exact shown_backslash (by decide)
  · exact shown_backslash (by decide)
  · simpa [Shown] using hshown
  · exact shown_codeEscape c.toNat

/-- **Any text** in quotes. -/
theorem printableAscii_quoted (text : String) : PrintableAscii (quoted text) := by
  have hquote : Shown '"' := by decide
  refine printableAscii_ofList fun c hc => ?_
  rcases List.mem_append.mp hc with hc | hc
  · rcases List.mem_cons.mp hc with rfl | hc
    · exact hquote
    · obtain ⟨d, -, hc⟩ := List.mem_flatMap.mp hc
      exact shown_quotedChar d c hc
  · obtain rfl := List.mem_singleton.mp hc
    exact hquote

/-! ## Numbers -/

lemma shown_of_isDigit {c : Char} (h : c.isDigit = true) : Shown c := by
  have hbounds := toNat_bounds_of_isDigit h
  rw [Shown]
  omega

lemma printableAscii_signedDecimal (n : Int) : PrintableAscii (signedDecimal n) := by
  have hdigits : ∀ size : Nat, PrintableAscii (decimal size) := fun size =>
    printableAscii_ofList fun c hc => shown_of_isDigit (isDigit_of_mem_toDigits hc)
  rw [signedDecimal]
  split
  · exact PrintableAscii.append (by decide) (hdigits _)
  · exact hdigits _

lemma shown_positional {d : Decimal} (h : d.Proper) (places : Nat) :
    ∀ c ∈ d.positional places false, Shown c := by
  have hbefore : ∀ c ∈ d.before, Shown c := fun c hc => shown_of_isDigit (h.before_digits c hc)
  have hafter : ∀ c ∈ d.after places, Shown c := fun c hc => shown_of_isDigit (h.after_digits places c hc)
  rw [Decimal.positional]
  split
  · exact hbefore
  · exact List.forall_mem_append.mpr ⟨hbefore, List.forall_mem_cons.mpr ⟨by decide, hafter⟩⟩

lemma shown_exponentText (exponent : Int) : ∀ c ∈ Decimal.exponentText 'e' exponent, Shown c := by
  have hdigits := (Decimal.exponentDigits_digits exponent).1
  rw [Decimal.exponentText_eq, Decimal.powerChars]
  refine List.forall_mem_cons.mpr ⟨by decide, List.forall_mem_cons.mpr ⟨?_, ?_⟩⟩
  · split <;> decide
  · intro c hc
    exact shown_of_isDigit (hdigits c hc)

/-- **Any floating-point number**, with an exponent or without one. -/
theorem printableAscii_float (x : Binary64) : PrintableAscii (Value.jsonFloat x) := by
  cases x with
  | nan => decide
  | infinity negative => cases negative <;> decide
  | finite negative mantissa exponent =>
      have h := Decimal.proper_shortest mantissa exponent
      show PrintableAscii (Binary64.finite negative mantissa exponent).text
      rw [Binary64.text]
      generalize Decimal.shortest mantissa exponent = d at h
      have hdigits : ∀ c ∈ (if d.point ≤ -4 || 16 < d.point then d.scientific 0 false 'e'
          else d.positional 1 false), Shown c := by
        split
        · exact List.forall_mem_append.mpr ⟨shown_positional h.point 0, shown_exponentText _⟩
        · exact shown_positional h 1
      refine printableAscii_ofList ?_
      cases negative
      · exact hdigits
      · exact List.forall_mem_cons.mpr ⟨by decide, hdigits⟩

/-! ## Values -/

/-- What stands between brackets of either kind. -/
lemma PrintableAscii.enclosed {texts : List String} (h : ∀ text ∈ texts, PrintableAscii text)
    {opening closing : String} (hopening : PrintableAscii opening) (hclosing : PrintableAscii closing) :
    PrintableAscii (opening ++ Value.listed texts ++ closing) :=
  (hopening.append (printableAscii_listed h)).append hclosing

lemma PrintableAscii.member {text : String} (h : PrintableAscii text) (name : String) :
    PrintableAscii (quoted name ++ ": " ++ text) :=
  ((printableAscii_quoted name).append (by decide)).append h

mutual

/-- **Any value** that can be written in JSON. -/
theorem printableAscii_json (value : Value) {text : String} (h : value.json = .ok text) :
    PrintableAscii text := by
  cases value with
  | none =>
      obtain rfl : "null" = text := Except.ok.inj h
      decide
  | bool value =>
      obtain rfl : Value.jsonBool value = text := Except.ok.inj h
      cases value <;> decide
  | int n =>
      rw [Value.json] at h
      rw [eq_of_jsonDigits h]
      exact printableAscii_signedDecimal n
  | float x =>
      obtain rfl : Value.jsonFloat x = text := Except.ok.inj h
      exact printableAscii_float x
  | str content =>
      obtain rfl : quoted content = text := Except.ok.inj h
      exact printableAscii_quoted content
  | bytes items =>
      obtain rfl : quoted (quotedBytes items) = text := Except.ok.inj h
      exact printableAscii_quoted _
  | object shown =>
      obtain rfl : quoted shown = text := Except.ok.inj h
      exact printableAscii_quoted shown
  | list items =>
      rw [Value.json] at h
      obtain ⟨texts, htexts, htext⟩ := exists_of_bind h
      obtain rfl := Except.ok.inj htext
      exact .enclosed (printableAscii_jsonItems items htexts) (by decide) (by decide)
  | tuple items =>
      rw [Value.json] at h
      obtain ⟨texts, htexts, htext⟩ := exists_of_bind h
      obtain rfl := Except.ok.inj htext
      exact .enclosed (printableAscii_jsonItems items htexts) (by decide) (by decide)
  | dict entries =>
      rw [Value.json] at h
      obtain ⟨texts, htexts, htext⟩ := exists_of_bind h
      obtain rfl := Except.ok.inj htext
      exact .enclosed (printableAscii_jsonEntries entries htexts) (by decide) (by decide)

lemma printableAscii_jsonItems (items : List Value) {texts : List String}
    (h : Value.jsonItems items = .ok texts) : ∀ text ∈ texts, PrintableAscii text := by
  cases items with
  | nil =>
      obtain rfl : [] = texts := Except.ok.inj h
      exact List.forall_mem_nil _
  | cons item rest =>
      rw [Value.jsonItems] at h
      obtain ⟨text, htext, h⟩ := exists_of_bind h
      obtain ⟨more, hmore, h⟩ := exists_of_bind h
      obtain rfl := Except.ok.inj h
      exact List.forall_mem_cons.mpr ⟨printableAscii_json item htext, printableAscii_jsonItems rest hmore⟩

lemma printableAscii_jsonEntries (entries : List (Value × Value)) {texts : List String}
    (h : Value.jsonEntries entries = .ok texts) : ∀ text ∈ texts, PrintableAscii text := by
  cases entries with
  | nil =>
      obtain rfl : [] = texts := Except.ok.inj h
      exact List.forall_mem_nil _
  | cons entry rest =>
      obtain ⟨key, item⟩ := entry
      rw [Value.jsonEntries] at h
      obtain ⟨name, -, h⟩ := exists_of_bind h
      obtain ⟨text, htext, h⟩ := exists_of_bind h
      obtain ⟨more, hmore, h⟩ := exists_of_bind h
      obtain rfl := Except.ok.inj h
      exact List.forall_mem_cons.mpr
        ⟨(printableAscii_json item htext).member name, printableAscii_jsonEntries rest hmore⟩

end

end Json
end Redaction
