import Redaction.Text.Utf8
import Mathlib.Tactic.Lemma
import Mathlib.Tactic.SplitIfs

/-!
# Encoding and decoding texts

A text is encoded character by character, and decoding takes the characters off the bytes again.  The two
are written quite differently — encoding goes by the size of a code, decoding by the ranges in which the
first bytes lie — so that they fit together is a fact about each of the four sizes.

* `encode_ofList` — the bytes of a text are those of its characters, in a row.
* `first?_encodeChar` — the first character of bytes that start with the bytes of a character.
* **`decode_encode`** — decoding gives the encoded text back.
-/

namespace Redaction.Text.Utf8

/-! ## The bytes of a text -/

lemma toList_loop_eq (bytes : ByteArray) (index : Nat) (taken : List UInt8) :
    ByteArray.toList.loop bytes index taken = taken.reverse ++ bytes.data.toList.drop index := by
  fun_induction ByteArray.toList.loop bytes index taken with
  | case1 index taken hlt ih =>
      have hindex : index < bytes.data.toList.length := by simpa using hlt
      rw [ih, List.drop_eq_getElem_cons hindex]
      simp [ByteArray.get!, hlt]
  | case2 index taken hge =>
      have hend : bytes.data.toList.length ≤ index := by simpa using hge
      rw [List.drop_eq_nil_of_le hend, List.append_nil]

lemma toList_eq (bytes : ByteArray) : bytes.toList = bytes.data.toList := by
  rw [ByteArray.toList, toList_loop_eq]
  rfl

/-- The bytes of a text are those of its characters, in a row. -/
lemma encode_ofList (chars : List Char) :
    encode (String.ofList chars) = chars.flatMap String.utf8EncodeChar := by
  rw [encode, toList_eq, String.toUTF8, String.toByteArray_ofList, List.utf8Encode,
    List.toList_data_toByteArray]

lemma encode_eq (text : String) : encode text = text.toList.flatMap String.utf8EncodeChar := by
  rw [← encode_ofList, String.ofList_toList]

/-- Only the empty text has no bytes: every character has at least one. -/
lemma encode_eq_nil_iff {text : String} : encode text = [] ↔ text = "" := by
  rw [encode_eq, List.flatMap_eq_nil_iff]
  constructor
  · intro h
    refine String.toList_eq_nil_iff.mp (List.eq_nil_iff_forall_not_mem.mpr fun c hc => ?_)
    exact String.utf8EncodeChar_ne_nil (h c hc)
  · rintro rfl c hc
    simp at hc

/-! ## Taking a character off -/

lemma toNat_ofNat_of_lt {n : Nat} (h : n < 0x100) : (UInt8.ofNat n).toNat = n := by
  rw [UInt8.toNat_ofNat']
  exact Nat.mod_eq_of_lt h

/-- A byte that carries six bits is one that continues a character. -/
lemma isContinuation_ofNat (n : Nat) : isContinuation (UInt8.ofNat (n % 0x40 + 0x80)) = true := by
  have h : (UInt8.ofNat (n % 0x40 + 0x80)).toNat = n % 0x40 + 0x80 := toNat_ofNat_of_lt (by omega)
  simp only [isContinuation, UInt8.le_iff_toNat_le, Bool.and_eq_true, decide_eq_true_eq, h,
    UInt8.reduceToNat]
  omega

lemma low_ofNat (n : Nat) : low (UInt8.ofNat (n % 0x40 + 0x80)) = n % 0x40 := by
  rw [low, toNat_ofNat_of_lt (by omega)]
  omega

variable {a b c d : UInt8} (rest : List UInt8)

lemma first?_one (ha : a.toNat < 0x80) : first? (a :: rest) = some (Char.ofNat a.toNat, rest) := by
  have hlt : a < 0x80 := UInt8.lt_iff_toNat_lt.mpr ha
  simp [first?, hlt]

lemma first?_two (ha : 0xC2 ≤ a.toNat ∧ a.toNat ≤ 0xDF) (hb : isContinuation b = true) :
    first? (a :: b :: rest) = some (Char.ofNat (a.toNat % 0x20 * 0x40 + low b), rest) := by
  simp only [first?, hb, UInt8.lt_iff_toNat_lt, UInt8.le_iff_toNat_le, UInt8.reduceToNat,
    Bool.and_eq_true, decide_eq_true_eq, if_true]
  rw [if_neg (by omega), if_pos ha]

lemma first?_three (ha : 0xE0 ≤ a.toNat ∧ a.toNat ≤ 0xEF) (hb : isContinuation b = true)
    (hleast : a.toNat = 0xE0 → 0xA0 ≤ b.toNat) (hgreatest : a.toNat = 0xED → b.toNat ≤ 0x9F)
    (hc : isContinuation c = true) :
    first? (a :: b :: c :: rest)
      = some (Char.ofNat ((a.toNat % 0x10 * 0x40 + low b) * 0x40 + low c), rest) := by
  simp only [isContinuation, UInt8.le_iff_toNat_le, Bool.and_eq_true, decide_eq_true_eq,
    UInt8.reduceToNat] at hb
  simp only [first?, hc, UInt8.lt_iff_toNat_lt, UInt8.le_iff_toNat_le, UInt8.reduceToNat,
    Bool.and_eq_true, decide_eq_true_eq, and_true, ← UInt8.toNat_inj]
  rw [if_neg (by omega), if_neg (by omega), if_pos ha, if_pos]
  constructor <;> split_ifs <;> simp <;> omega

lemma first?_four (ha : 0xF0 ≤ a.toNat ∧ a.toNat ≤ 0xF4) (hb : isContinuation b = true)
    (hleast : a.toNat = 0xF0 → 0x90 ≤ b.toNat) (hgreatest : a.toNat = 0xF4 → b.toNat ≤ 0x8F)
    (hc : isContinuation c = true) (hd : isContinuation d = true) :
    first? (a :: b :: c :: d :: rest)
      = some (Char.ofNat (((a.toNat % 0x08 * 0x40 + low b) * 0x40 + low c) * 0x40 + low d), rest) := by
  simp only [isContinuation, UInt8.le_iff_toNat_le, Bool.and_eq_true, decide_eq_true_eq,
    UInt8.reduceToNat] at hb
  simp only [first?, hc, hd, UInt8.lt_iff_toNat_lt, UInt8.le_iff_toNat_le, UInt8.reduceToNat,
    Bool.and_eq_true, decide_eq_true_eq, and_true, ← UInt8.toNat_inj]
  rw [if_neg (by omega), if_neg (by omega), if_neg (by omega), if_pos ha, if_pos]
  constructor <;> split_ifs <;> simp <;> omega

/-- **The first character** of bytes that start with those of a character is that character.  The cases are
the four sizes; in each of them the first byte lies in a range of its own. -/
lemma first?_encodeChar (c : Char) (rest : List UInt8) :
    first? (String.utf8EncodeChar c ++ rest) = some (c, rest) := by
  have hvalid : c.toNat < 0xD800 ∨ (0xDFFF < c.toNat ∧ c.toNat < 0x110000) := c.valid
  have hchar : Char.ofNat c.toNat = c := Char.ofNat_toNat c
  rw [String.utf8EncodeChar, show c.val.toNat = c.toNat from rfl]
  generalize c.toNat = code at hvalid hchar
  subst hchar
  split_ifs with hone htwo hthree
  · have ha : (UInt8.ofNat code).toNat = code := toNat_ofNat_of_lt (by omega)
    rw [List.singleton_append, first?_one rest (by omega), ha]
  · have ha : (UInt8.ofNat (code / 64 % 32 + 192)).toNat = code / 64 % 32 + 192 :=
      toNat_ofNat_of_lt (by omega)
    simp only [List.cons_append, List.nil_append]
    rw [first?_two rest (by omega) (isContinuation_ofNat _), ha, low_ofNat]
    congr 3
    omega
  · have ha : (UInt8.ofNat (code / 4096 % 16 + 224)).toNat = code / 4096 % 16 + 224 :=
      toNat_ofNat_of_lt (by omega)
    have hb : (UInt8.ofNat (code / 64 % 64 + 128)).toNat = code / 64 % 64 + 128 :=
      toNat_ofNat_of_lt (by omega)
    simp only [List.cons_append, List.nil_append]
    rw [first?_three rest (by omega) (isContinuation_ofNat _) (by omega) (by omega)
      (isContinuation_ofNat _), ha, low_ofNat, low_ofNat]
    congr 3
    omega
  · have ha : (UInt8.ofNat (code / 262144 % 8 + 240)).toNat = code / 262144 % 8 + 240 :=
      toNat_ofNat_of_lt (by omega)
    have hb : (UInt8.ofNat (code / 4096 % 64 + 128)).toNat = code / 4096 % 64 + 128 :=
      toNat_ofNat_of_lt (by omega)
    simp only [List.cons_append, List.nil_append]
    rw [first?_four rest (by omega) (isContinuation_ofNat _) (by omega) (by omega)
      (isContinuation_ofNat _) (isContinuation_ofNat _), ha, low_ofNat, low_ofNat, low_ofNat]
    congr 3
    omega

/-! ## Decoding -/

lemma decodeFrom_encode (read : Nat) (chars : List Char) :
    decodeFrom read (chars.flatMap String.utf8EncodeChar) = .ok chars := by
  induction chars generalizing read with
  | nil =>
      rw [decodeFrom]
      rfl
  | cons c chars ih =>
      rw [List.flatMap_cons, decodeFrom]
      split
      · next c' rest hfirst =>
          obtain ⟨rfl, rfl⟩ := Prod.mk.inj (Option.some.inj ((first?_encodeChar c _).symm.trans hfirst))
          rw [ih]
          rfl
      · next hfirst =>
          rw [first?_encodeChar] at hfirst
          cases hfirst

/-- **Decoding gives the encoded text back.** -/
theorem decode_encode (text : String) : decode (encode text) = .ok text.toList := by
  rw [encode_eq, decode, decodeFrom_encode]

end Redaction.Text.Utf8
