import Redaction.Json.Reader
import Redaction.Json.Text
import Redaction.Proofs.Text.Utf8

/-!
# Reading what was written: texts

A reader takes bytes from the front of what is there.  What is written as a sequence of pieces is read piece
by piece, each reader leaving the next piece in place.

* `Takes` — a reader takes some bytes, answers, and leaves the rest; `Takes.bind` follows a sequence.
* `Takes.char` — a character in quotes is written as itself, or by an escape of one of three kinds.
* **`takes_quotedText`** — a text in quotes is read as that text, whatever characters it has.
-/

namespace Redaction.Json

open Redaction.Text

/-- Where a reader meets bytes at an index, it takes them, gives an answer and leaves the rest. -/
def Takes {α : Type} (reader : Read α) (index : Nat) (bytes : List UInt8) (answer : α)
    (rest : List UInt8) : Prop :=
  reader.run ⟨bytes ++ rest, index⟩ = .ok (answer, ⟨rest, index + bytes.length⟩)

section
variable {α β : Type} {reader : Read α} {further : α → Read β} {index : Nat} {bytes more rest : List UInt8}
  {a : α} {b : β}

lemma Takes.pure (a : α) : Takes (pure a) index [] a rest := rfl

lemma Takes.bind (h : Takes reader index bytes a (more ++ rest))
    (hfurther : Takes (further a) (index + bytes.length) more b rest) :
    Takes (reader >>= further) index (bytes ++ more) b rest := by
  rw [Takes, StateT.run_bind, List.append_assoc, h]
  exact hfurther.trans (by rw [List.length_append, Nat.add_assoc])

/-- What follows the last reader takes nothing. -/
lemma Takes.last (h : Takes reader index bytes a rest)
    (hfurther : Takes (further a) (index + bytes.length) [] b rest) :
    Takes (reader >>= further) index bytes b rest := by
  have hbind : Takes (reader >>= further) index (bytes ++ []) b rest := Takes.bind h hfurther
  rwa [List.append_nil] at hbind

lemma Takes.map (h : Takes reader index bytes a rest) (f : α → β) :
    Takes (f <$> reader) index bytes (f a) rest := by
  rw [map_eq_pure_bind]
  exact Takes.last h (.pure _)

lemma takes_skip (c : UInt8) : Takes skip index [c] () rest := rfl

lemma takes_peek : Takes peek index [] rest.head? rest := rfl

lemma takes_get : Takes get index [] ⟨rest, index⟩ rest := rfl

lemma Takes.skip {c : UInt8} {further : Unit → Read β} (h : Takes (further ()) (index + 1) bytes b rest) :
    Takes (Json.skip >>= further) index (c :: bytes) b rest :=
  Takes.bind (takes_skip c) h

lemma Takes.peek {further : Option UInt8 → Read β}
    (h : Takes (further (bytes ++ rest).head?) index bytes b rest) :
    Takes (Json.peek >>= further) index bytes b rest :=
  Takes.bind takes_peek h

lemma Takes.get {further : Cursor → Read β} (h : Takes (further ⟨bytes ++ rest, index⟩) index bytes b rest) :
    Takes (MonadState.get >>= further) index bytes b rest :=
  Takes.bind takes_get h

end

/-- What is taken while a test succeeds stops where the test first fails. -/
lemma takeWhile_append_eq {test : UInt8 → Bool} {bytes rest : List UInt8} (h : ∀ c ∈ bytes, test c = true)
    (hrest : ∀ c ∈ rest.head?, test c = false) : (bytes ++ rest).takeWhile test = bytes := by
  have hnone : rest.takeWhile test = [] := by
    cases rest with
    | nil => rfl
    | cons c rest => simp [hrest c rfl]
  rw [List.takeWhile_append_of_pos h, hnone, List.append_nil]

/-! ## ASCII -/

/-- An ASCII character is one byte. -/
lemma utf8EncodeChar_of_ascii {c : Char} (h : c.toNat < 0x80) : String.utf8EncodeChar c = [byte c] := by
  have hle : c.val.toNat ≤ 0x7F := Nat.le_of_lt_succ h
  rw [String.utf8EncodeChar]
  simp only [hle, if_true]
  rfl

lemma toNat_byte {c : Char} (h : c.toNat < 0x80) : (byte c).toNat = c.toNat :=
  Utf8.toNat_ofNat_of_lt (by omega)

/-- Different ASCII characters are different bytes. -/
lemma byte_ne {c c' : Char} (h : c.toNat < 0x80) (h' : c'.toNat < 0x80) (hne : c ≠ c') : byte c ≠ byte c' := by
  intro heq
  refine hne (Char.toNat_inj.mp ?_)
  rw [← toNat_byte h, ← toNat_byte h', heq]

lemma flatMap_utf8_of_ascii {chars : List Char} (h : ∀ c ∈ chars, c.toNat < 0x80) :
    chars.flatMap String.utf8EncodeChar = chars.map byte := by
  induction chars with
  | nil => rfl
  | cons c rest ih =>
      rw [List.flatMap_cons, utf8EncodeChar_of_ascii (h c List.mem_cons_self),
        ih fun c' hc' => h c' (List.mem_cons_of_mem _ hc')]
      rfl

/-! ## Escapes by number -/

lemma hexDigit_ascii (n : Nat) : (hexDigit (n % 16)).toNat < 0x80 := by
  have hlt : n % 16 < 16 := Nat.mod_lt _ (by decide)
  generalize n % 16 = digit at hlt
  revert digit
  decide

lemma hexValue?_hexDigit (n : Nat) : hexValue? (byte (hexDigit (n % 16))) = some (n % 16) := by
  have hlt : n % 16 < 16 := Nat.mod_lt _ (by decide)
  generalize n % 16 = digit at hlt
  revert digit
  decide

/-- The bytes of the four digits of a number. -/
def fourBytes (n : Nat) : List UInt8 :=
  (hex 4 n).map byte

lemma unitEscape_bytes (unit : Nat) :
    (unitEscape unit).flatMap String.utf8EncodeChar = byte '\\' :: byte 'u' :: fourBytes unit := by
  have hascii : ∀ c ∈ unitEscape unit, c.toNat < 0x80 := by
    simp [unitEscape, hex, hexDigit_ascii]
  rw [flatMap_utf8_of_ascii hascii]
  rfl

lemma takes_fourHex {n index : Nat} (h : n < 0x10000) (rest : List UInt8) :
    Takes fourHex index (fourBytes n) n rest := by
  have hbytes : fourBytes n = [byte (hexDigit (n / 16 / 16 / 16 % 16)), byte (hexDigit (n / 16 / 16 % 16)),
      byte (hexDigit (n / 16 % 16)), byte (hexDigit (n % 16))] := rfl
  have hvalue : 16 * (16 * (16 * (n / 16 / 16 / 16 % 16) + n / 16 / 16 % 16) + n / 16 % 16) + n % 16 = n := by
    omega
  rw [hbytes, Takes, fourHex]
  simp only [peek, skip, List.range, List.range.loop, List.forIn_cons, List.forIn_nil, bind_pure_comp,
    bind_map_left, bind_assoc, bind_pure, pure_bind, map_pure, StateT.run_bind, StateT.run_get, StateT.run_map,
    StateT.run_modify, StateT.run_pure, List.length_take, List.length_cons, Nat.le_add_left, Nat.min_eq_left,
    Nat.lt_irrefl, ↓reduceIte, List.cons_append, List.nil_append, List.head?_cons, List.tail_cons,
    Option.bind_some, hexValue?_hexDigit, Nat.mul_zero, Nat.zero_add, hvalue]
  rfl

/-- An escape of one unit. -/
lemma takes_unicodeEscape_unit {code index : Nat} (h : code < 0xD800 ∨ 0xDFFF < code ∧ code < 0x10000)
    (rest : List UInt8) : Takes unicodeEscape index (fourBytes code) (Char.ofNat code) rest := by
  have hlow : ¬ (0xDC00 ≤ code ∧ code ≤ 0xDFFF) := by omega
  have hhigh : ¬ (0xD800 ≤ code ∧ code ≤ 0xDBFF) := by omega
  rw [unicodeEscape]
  refine Takes.last (takes_fourHex (by omega) _) (Takes.get ?_)
  simp only [Bool.and_eq_true, decide_eq_true_eq, hlow, hhigh, if_false]
  exact .pure _

/-- An escape of two units. -/
lemma takes_unicodeEscape_pair {offset index : Nat} (h : offset < 0x100000) (rest : List UInt8) :
    Takes unicodeEscape index
      (fourBytes (0xD800 + offset / 0x400)
        ++ byte '\\' :: byte 'u' :: fourBytes (0xDC00 + offset % 0x400))
      (Char.ofNat (offset + 0x10000)) rest := by
  have hlow : ¬ (0xDC00 ≤ 0xD800 + offset / 0x400 ∧ 0xD800 + offset / 0x400 ≤ 0xDFFF) := by omega
  have hhigh : 0xD800 ≤ 0xD800 + offset / 0x400 ∧ 0xD800 + offset / 0x400 ≤ 0xDBFF := by omega
  have hpartner : ¬ (0xDC00 + offset % 0x400 < 0xDC00 ∨ 0xDFFF < 0xDC00 + offset % 0x400) := by omega
  have hcode : (0xD800 + offset / 0x400 - 0xD800) * 0x400 + (0xDC00 + offset % 0x400 - 0xDC00) + 0x10000
      = offset + 0x10000 := by omega
  rw [unicodeEscape]
  refine Takes.bind (takes_fourHex (by omega) _) (Takes.get ?_)
  simp only [Bool.and_eq_true, decide_eq_true_eq, hlow, if_false, hhigh, and_self, if_true]
  refine Takes.get ?_
  simp only [List.cons_append, if_true]
  refine Takes.skip (Takes.skip (Takes.last (takes_fourHex (by omega) _) ?_))
  simp only [Bool.or_eq_true, decide_eq_true_eq, hpartner, if_false, hcode]
  exact .pure _

/-! ## Texts in quotes -/

section
variable {rounds index : Nat} {taken bytes more rest out answer : List UInt8}

lemma takes_closing : Takes (stringBytes (rounds + 1) taken) index [byte '"'] taken.reverse rest := by
  rw [stringBytes]
  exact Takes.peek (Takes.skip (.pure _))

lemma Takes.verbatim {b : UInt8} (hquote : b ≠ byte '"') (hslash : b ≠ byte '\\') (hcontrol : ¬ b < 0x20)
    (h : Takes (stringBytes rounds (b :: taken)) (index + 1) more out rest) :
    Takes (stringBytes (rounds + 1) taken) index (b :: more) out rest := by
  rw [stringBytes]
  refine Takes.peek ?_
  simp only [List.cons_append, List.head?_cons, hquote, hslash, hcontrol, if_false]
  exact Takes.skip h

lemma Takes.escaped (hescape : Takes escape (index + 1) bytes answer (more ++ rest))
    (h : Takes (stringBytes rounds (answer.reverse ++ taken)) (index + (bytes.length + 1)) more out rest) :
    Takes (stringBytes (rounds + 1) taken) index (byte '\\' :: (bytes ++ more)) out rest := by
  have hquote : byte '\\' ≠ byte '"' := by decide
  rw [stringBytes]
  refine Takes.peek ?_
  simp only [List.cons_append, List.head?_cons, hquote, if_false, if_true]
  rw [Nat.add_comm bytes.length, ← Nat.add_assoc] at h
  exact Takes.skip (Takes.bind hescape h)

lemma takes_escape_number {c : Char} (h : Takes unicodeEscape (index + 1) bytes c rest) :
    Takes escape index (byte 'u' :: bytes) (String.utf8EncodeChar c) rest := by
  have hencode : Utf8.encode c.toString = String.utf8EncodeChar c := by
    rw [Utf8.encode_eq]
    simp
  rw [escape]
  refine Takes.peek ?_
  show Takes (do skip; return Utf8.encode (← unicodeEscape).toString) _ _ _ _
  refine Takes.skip (Takes.last h ?_)
  rw [hencode]
  exact .pure _

/-- **A character in quotes** is taken as the bytes of the character. -/
lemma Takes.char (c : Char)
    (h : Takes (stringBytes rounds ((String.utf8EncodeChar c).reverse ++ taken))
      (index + ((quotedChar c).flatMap String.utf8EncodeChar).length) more out rest) :
    Takes (stringBytes (rounds + 1) taken) index ((quotedChar c).flatMap String.utf8EncodeChar ++ more) out
      rest := by
  revert h
  rw [quotedChar]
  split_ifs with hquote hslash hfeed hreturn htab hback hform hshown
  · subst hquote
    exact Takes.escaped (show Takes escape (index + 1) [byte '"'] [byte '"'] (more ++ rest) from rfl)
  · subst hslash
    exact Takes.escaped (show Takes escape (index + 1) [byte '\\'] [byte '\\'] (more ++ rest) from rfl)
  · subst hfeed
    exact Takes.escaped (show Takes escape (index + 1) [byte 'n'] [byte '\n'] (more ++ rest) from rfl)
  · subst hreturn
    exact Takes.escaped (show Takes escape (index + 1) [byte 'r'] [byte '\r'] (more ++ rest) from rfl)
  · subst htab
    exact Takes.escaped (show Takes escape (index + 1) [byte 't'] [byte '\t'] (more ++ rest) from rfl)
  · subst hback
    exact Takes.escaped (show Takes escape (index + 1) [byte 'b'] [byte '\x08'] (more ++ rest) from rfl)
  · subst hform
    exact Takes.escaped (show Takes escape (index + 1) [byte 'f'] [byte '\x0c'] (more ++ rest) from rfl)
  · obtain ⟨hleast, hmost⟩ : 0x20 ≤ c.toNat ∧ c.toNat ≤ 0x7E := by simpa using hshown
    have hbyte : (byte c).toNat = c.toNat := toNat_byte (by omega)
    rw [List.flatMap_singleton, utf8EncodeChar_of_ascii (by omega)]
    refine Takes.verbatim (byte_ne (by omega) (by decide) hquote) (byte_ne (by omega) (by decide) hslash) ?_
    rw [UInt8.lt_iff_toNat_lt, hbyte]
    exact Nat.not_lt.mpr hleast
  · have hvalid : c.toNat < 0xD800 ∨ (0xDFFF < c.toNat ∧ c.toNat < 0x110000) := c.valid
    rw [codeEscape]
    split_ifs with hsmall
    · rw [unitEscape_bytes]
      have hunit : Takes unicodeEscape (index + 1 + 1) (fourBytes c.toNat) (Char.ofNat c.toNat)
          (more ++ rest) := takes_unicodeEscape_unit (by omega) _
      rw [Char.ofNat_toNat] at hunit
      exact Takes.escaped (takes_escape_number hunit)
    · rw [List.flatMap_append, unitEscape_bytes, unitEscape_bytes]
      have hpair : Takes unicodeEscape (index + 1 + 1)
          (fourBytes (0xD800 + (c.toNat - 0x10000) / 0x400)
            ++ byte '\\' :: byte 'u' :: fourBytes (0xDC00 + (c.toNat - 0x10000) % 0x400))
          (Char.ofNat (c.toNat - 0x10000 + 0x10000)) (more ++ rest) :=
        takes_unicodeEscape_pair (by omega) _
      rw [Nat.sub_add_cancel (by omega), Char.ofNat_toNat] at hpair
      exact Takes.escaped (takes_escape_number hpair)

/-- The characters of a text in quotes are taken up to the quote that closes it. -/
lemma takes_characters (chars : List Char) (hrounds : chars.length < rounds) :
    Takes (stringBytes rounds taken) index
      (chars.flatMap (fun c => (quotedChar c).flatMap String.utf8EncodeChar) ++ [byte '"'])
      (taken.reverse ++ chars.flatMap String.utf8EncodeChar) rest := by
  induction chars generalizing rounds index taken with
  | nil =>
      obtain ⟨rounds, rfl⟩ := Nat.exists_eq_add_one_of_ne_zero (Nat.ne_zero_of_lt hrounds)
      rw [List.flatMap_nil, List.flatMap_nil, List.append_nil]
      exact takes_closing
  | cons c chars ih =>
      obtain ⟨rounds, rfl⟩ := Nat.exists_eq_add_one_of_ne_zero (Nat.ne_zero_of_lt hrounds)
      rw [List.flatMap_cons, List.append_assoc]
      have hout : taken.reverse ++ (c :: chars).flatMap String.utf8EncodeChar
          = ((String.utf8EncodeChar c).reverse ++ taken).reverse ++ chars.flatMap String.utf8EncodeChar := by
        simp
      rw [hout]
      exact Takes.char c (ih (Nat.lt_of_succ_lt_succ hrounds))

end

lemma encode_quoted (text : String) :
    Utf8.encode (quoted text) = byte '"' ::
      (text.toList.flatMap (fun c => (quotedChar c).flatMap String.utf8EncodeChar) ++ [byte '"']) := by
  rw [quoted, Utf8.encode_ofList, List.flatMap_append, List.flatMap_cons, List.flatMap_assoc]
  rfl

lemma quotedChar_ne_nil (c : Char) : quotedChar c ≠ [] := by
  rw [quotedChar]
  split_ifs <;> simp [codeEscape, unitEscape]
  split_ifs <;> simp

/-- Every character in quotes has a byte at least. -/
lemma length_le_flatMap_quoted (chars : List Char) :
    chars.length ≤ (chars.flatMap fun c => (quotedChar c).flatMap String.utf8EncodeChar).length := by
  induction chars with
  | nil => exact Nat.le_refl _
  | cons c chars ih =>
      have hpos : 0 < ((quotedChar c).flatMap String.utf8EncodeChar).length := by
        obtain ⟨c', rest, hcons⟩ := List.exists_cons_of_ne_nil (quotedChar_ne_nil c)
        rw [hcons, List.flatMap_cons, List.length_append]
        exact Nat.add_pos_left (List.length_pos_iff.mpr String.utf8EncodeChar_ne_nil) _
      rw [List.flatMap_cons, List.length_append, List.length_cons]
      omega

/-- **A text in quotes** is read as that text. -/
theorem takes_quotedText (text : String) (index : Nat) (rest : List UInt8) :
    Takes quotedText index (Utf8.encode (quoted text)) text rest := by
  rw [encode_quoted, quotedText]
  refine Takes.skip (Takes.get ?_)
  refine Takes.last (takes_characters text.toList ?_) ?_
  · have hle := length_le_flatMap_quoted text.toList
    simp only [List.length_append]
    omega
  · rw [List.reverse_nil, List.nil_append, ← Utf8.encode_eq, Utf8.decode_encode]
    show Takes (pure (String.ofList text.toList)) _ _ _ _
    rw [String.ofList_toList]
    exact .pure _

end Redaction.Json
